import Mathlib.Data.List.Induction
import Mathlib.Data.List.Nodup
import PostPress.Proofs.Collections.NameMap
import PostPress.Proofs.Scroll.Report

/-!
# PostPress.Proofs.Scroll.Journal

**No change of a page is lost, and none is told twice.** A page keeps what every
subscription was told last. Whether it keeps that right is asked here with a journal
that is written from the reports alone.

* `ScrollLayout.Action`, `ScrollLayout.after` — what can be done with a page, and the
  page after it;
* `ScrollLayout.reportsOf` — the part of a batch that one subscription makes;
* `ScrollLayout.Journal` — the state in which a subscription reported a heading last;
* `Recorded.Faithful` — the journal agrees with what the page keeps, at every moment;
* `ScrollLayout.Resembles` — two pages that are the same for one subscription.
-/

namespace PostPress

universe u

namespace ScrollLayout

/-- What can be done with a page. -/
inductive Action (K : Type u)
  /-- A heading is put at a place, or moved there. -/
  | place (id : String) (top height : K)
  /-- A subscription begins. -/
  | observe (ids : List String) (band : ObservationBand K)
  /-- A subscription ends. -/
  | unobserve (handle : Nat)
  /-- The page is scrolled, and reports. -/
  | scrollTo (y : K)
  /-- The page reports. -/
  | takeRecords

variable {K : Type u} [Coordinate K]

/-- The batch that an action gives, and the page after it. -/
def act (layout : ScrollLayout K) : Action K → List (VisibilityEntry K) × ScrollLayout K
  | .place id top height => ([], layout.place id top height)
  | .observe ids band => ([], (layout.observe ids band).2)
  | .unobserve handle => ([], layout.unobserve handle)
  | .scrollTo y => layout.scrollTo y
  | .takeRecords => layout.takeRecords

/-- The page after some actions. -/
def after (layout : ScrollLayout K) (actions : List (Action K)) : ScrollLayout K :=
  actions.foldl (fun page action => (page.act action).2) layout

/-- The page that the reports of an action are about, if it asks for any. -/
def reported? (layout : ScrollLayout K) : Action K → Option (ScrollLayout K)
  | .scrollTo y => some { layout with scrollY := Coordinate.max y Coordinate.zero }
  | .takeRecords => some layout
  | .place .. | .observe .. | .unobserve _ => none

/-- The handles that some actions give out, in order. -/
def handles (layout : ScrollLayout K) : List (Action K) → List Nat
  | [] => []
  | .observe ids band :: rest =>
      (layout.observe ids band).1 :: handles (layout.observe ids band).2 rest
  | action :: rest => handles (layout.act action).2 rest

/-- What a subscription has to report. -/
def reportsOf (layout : ScrollLayout K) (handle : Nat) : List (VisibilityEntry K) :=
  (layout.observations.filter (·.handle == handle)).flatMap fun o =>
    (Observation.reports o.band (layout.measureId o.band) o.ids o.last).1

/-- What a subscription reports when an action asks for reports. -/
def reportsBy (layout : ScrollLayout K) (action : Action K) (handle : Nat) :
    List (VisibilityEntry K) :=
  (layout.reported? action).elim [] (·.reportsOf handle)

/-- For a subscription and a heading, the state in which it reported the heading last. -/
abbrev Journal := Nat → String → Option ReportedState

/-- The journal after a batch: what a subscription reports is noted with the state that
it has in the band of the subscription. -/
def noted (layout : ScrollLayout K) (journal : Journal) : Journal := fun handle id =>
  match layout.observations.find? (·.handle == handle) with
  | some o =>
      if id ∈ (layout.reportsOf handle).map (·.id) then layout.stateOf o.band id
      else journal handle id
  | none => journal handle id

/-- An action that asks for reports scrolls the page at most, and asks then. -/
theorem exists_of_reported? {layout page : ScrollLayout K} {action : Action K}
    (h : layout.reported? action = some page) :
    ∃ y, page = { layout with scrollY := y } ∧ layout.act action = page.takeRecords := by
  cases action with
  | scrollTo y =>
      obtain rfl := Option.some.inj h
      exact ⟨_, rfl, rfl⟩
  | takeRecords =>
      obtain rfl := Option.some.inj h
      exact ⟨layout.scrollY, rfl, rfl⟩
  | place _ _ _ | observe _ _ | unobserve _ => exact absurd h.symm (Option.some_ne_none page)

/-! ### Handles -/

theorem after_cons (layout : ScrollLayout K) (action : Action K) (rest : List (Action K)) :
    layout.after (action :: rest) = (layout.act action).2.after rest := rfl

theorem after_concat (layout : ScrollLayout K) (actions : List (Action K)) (action : Action K) :
    layout.after (actions ++ [action]) = ((layout.after actions).act action).2 :=
  List.foldl_append

theorem nextHandle_act_le (layout : ScrollLayout K) (action : Action K) :
    layout.nextHandle ≤ (layout.act action).2.nextHandle := by
  cases action with
  | observe ids band => exact Nat.le_succ _
  | place _ _ _ | unobserve _ | scrollTo _ | takeRecords => exact Nat.le_refl _

theorem nextHandle_after_le (layout : ScrollLayout K) (actions : List (Action K)) :
    layout.nextHandle ≤ (layout.after actions).nextHandle := by
  induction actions generalizing layout with
  | nil => exact Nat.le_refl _
  | cons action rest ih => exact Nat.le_trans (layout.nextHandle_act_le action) (ih _)

/-- An action gives out the next handle, or none. -/
theorem handles_cons (layout : ScrollLayout K) (action : Action K) (rest : List (Action K)) :
    layout.handles (action :: rest) = (layout.act action).2.handles rest ∨
      (layout.act action).2.nextHandle = layout.nextHandle + 1 ∧
        layout.handles (action :: rest) = layout.nextHandle :: (layout.act action).2.handles rest := by
  cases action with
  | observe ids band => exact .inr ⟨rfl, rfl⟩
  | place _ _ _ | unobserve _ | scrollTo _ | takeRecords => exact .inl rfl

theorem nextHandle_le_of_mem_handles {layout : ScrollLayout K} {actions : List (Action K)}
    {handle : Nat} (h : handle ∈ layout.handles actions) : layout.nextHandle ≤ handle := by
  induction actions generalizing layout with
  | nil => exact absurd h List.not_mem_nil
  | cons action rest ih =>
      have hle := layout.nextHandle_act_le action
      rcases layout.handles_cons action rest with hnone | ⟨-, hgiven⟩
      · exact Nat.le_trans hle (ih (hnone ▸ h))
      · rcases List.mem_cons.1 (hgiven ▸ h) with rfl | h
        · exact Nat.le_refl _
        · exact Nat.le_trans hle (ih h)

theorem lt_nextHandle_of_mem_handles {layout : ScrollLayout K} {actions : List (Action K)}
    {handle : Nat} (h : handle ∈ layout.handles actions) :
    handle < (layout.after actions).nextHandle := by
  induction actions generalizing layout with
  | nil => exact absurd h List.not_mem_nil
  | cons action rest ih =>
      rw [after_cons]
      rcases layout.handles_cons action rest with hnone | ⟨hnext, hgiven⟩
      · exact ih (hnone ▸ h)
      · rcases List.mem_cons.1 (hgiven ▸ h) with rfl | h
        · have hle := (layout.act action).2.nextHandle_after_le rest
          omega
        · exact ih h

/-- No handle is given out twice. -/
theorem nodup_handles (layout : ScrollLayout K) (actions : List (Action K)) :
    (layout.handles actions).Nodup := by
  induction actions generalizing layout with
  | nil => exact .nil
  | cons action rest ih =>
      rcases layout.handles_cons action rest with hnone | ⟨hnext, hgiven⟩
      · exact hnone ▸ ih _
      · rw [hgiven]
        refine List.nodup_cons.2 ⟨fun hmem => ?_, ih _⟩
        have hle := nextHandle_le_of_mem_handles hmem
        omega

/-! ### One subscription -/

/-- A handle stands for one subscription. -/
def Distinct (layout : ScrollLayout K) : Prop := (layout.observations.map (·.handle)).Nodup

omit [Coordinate K] in
theorem filter_handle {observations : List (Observation K)}
    (hdistinct : (observations.map (·.handle)).Nodup) {o : Observation K} (ho : o ∈ observations) :
    observations.filter (·.handle == o.handle) = [o] := by
  induction observations with
  | nil => exact absurd ho List.not_mem_nil
  | cons first rest ih =>
      obtain ⟨hfirst, hrest⟩ := List.nodup_cons.1 hdistinct
      rcases List.mem_cons.1 ho with rfl | ho
      · have hnone : rest.filter (·.handle == o.handle) = [] := by
          refine List.filter_eq_nil_iff.2 fun other hother hsame => hfirst ?_
          exact List.mem_map.2 ⟨other, hother, beq_iff_eq.1 hsame⟩
        rw [List.filter_cons, if_pos BEq.rfl, hnone]
      · have hne : ¬(first.handle == o.handle) = true := fun hsame =>
          hfirst (List.mem_map.2 ⟨o, ho, (beq_iff_eq.1 hsame).symm⟩)
        rw [List.filter_cons, if_neg hne, ih hrest ho]

section Live

variable {layout : ScrollLayout K} (hdistinct : layout.Distinct) {o : Observation K}
  (ho : o ∈ layout.observations)

include hdistinct ho

theorem reportsOf_eq : layout.reportsOf o.handle =
    (Observation.reports o.band (layout.measureId o.band) o.ids o.last).1 := by
  rw [reportsOf, filter_handle hdistinct ho, List.flatMap_singleton]

theorem noted_eq (journal : Journal) (id : String) : layout.noted journal o.handle id =
    if id ∈ (layout.reportsOf o.handle).map (·.id) then layout.stateOf o.band id
    else journal o.handle id := by
  have hfind : layout.observations.find? (·.handle == o.handle) = some o := by
    rw [← List.head?_filter, filter_handle hdistinct ho, List.head?_cons]
  simp only [noted, hfind]

end Live

/-- A batch puts together what the subscriptions of the page report. -/
theorem act_batch {layout : ScrollLayout K} (hdistinct : layout.Distinct) (action : Action K) :
    (layout.act action).1 = layout.observations.flatMap (layout.reportsBy action ·.handle) := by
  have hreports : ∀ page : ScrollLayout K, page.Distinct →
      page.takeRecords.1 = page.observations.flatMap (page.reportsOf ·.handle) := by
    intro page hpage
    refine (page.collect_batch page.observations).trans ?_
    rw [List.flatMap_def, List.flatMap_def]
    exact congrArg _ (List.map_congr_left fun o ho => (reportsOf_eq hpage ho).symm)
  cases action with
  | place _ _ _ | observe _ _ | unobserve _ => exact (List.flatMap_eq_nil_iff.2 fun _ _ => rfl).symm
  | scrollTo y => exact hreports { layout with scrollY := _ } hdistinct
  | takeRecords => exact hreports layout hdistinct

/-- A batch changes no more of a subscription than what it was told last. -/
theorem exists_of_mem_takeRecords {page : ScrollLayout K} {o' : Observation K}
    (h : o' ∈ page.takeRecords.2.observations) :
    ∃ o ∈ page.observations, o'.handle = o.handle ∧ o'.ids = o.ids ∧ o'.band = o.band := by
  have h : o' ∈ (page.collect page.observations).2 := h
  rw [collect_observations] at h
  obtain ⟨o, ho, rfl⟩ := List.mem_map.1 h
  exact ⟨o, ho, rfl, rfl, rfl⟩

/-- A batch ends no subscription. -/
theorem exists_mem_takeRecords {page : ScrollLayout K} {o : Observation K}
    (h : o ∈ page.observations) : ∃ o' ∈ page.takeRecords.2.observations,
      o'.handle = o.handle ∧ o'.ids = o.ids ∧ o'.band = o.band := by
  show ∃ o' ∈ (page.collect page.observations).2, _
  rw [collect_observations]
  exact ⟨_, List.mem_map_of_mem h, rfl, rfl, rfl⟩

/-- What one subscription makes of a page, if it reported the headings in these states
last. -/
structure ReportsChanges (layout : ScrollLayout K) (o : Observation K)
    (last : String → Option ReportedState) (batch : List (VisibilityEntry K)) : Prop where
  /-- Every observed heading has a place and a state. -/
  measured : ∀ id ∈ o.ids, ∃ top state,
    layout.topOf id = some top ∧ layout.stateOf o.band id = some state
  /-- A heading is reported, with its place and state, exactly if it was reported never
  or in another state. -/
  mem_iff : ∀ entry : VisibilityEntry K, entry ∈ batch ↔
    entry.id ∈ o.ids ∧ layout.topOf entry.id = some entry.top ∧
      ∃ crossed, layout.stateOf o.band entry.id = some (entry.isIntersecting, crossed) ∧
        last entry.id ≠ some (entry.isIntersecting, crossed)
  /-- No heading is reported twice. -/
  nodup : (batch.map (·.id)).Nodup

end ScrollLayout

namespace Observation

variable {K : Type u} [Coordinate K] (band : ObservationBand K)
  (measure : String → Option (K × Measurement K))

/-- A heading is reported once, also if its id was passed several times: from the first
report on its state is the one reported last. -/
theorem nodup_reports (ids : List String) (last : NameMap ReportedState) :
    ((reports band measure ids last).1.map (·.id)).Nodup := by
  induction ids generalizing last with
  | nil => exact .nil
  | cons first rest ih =>
      rcases reports_cons band measure first rest last with
        ⟨-, hreports⟩ | ⟨state, entry, hstate, hentry, -, hreports⟩
      · rw [hreports]
        exact ih last
      · rw [hreports, List.map_cons, List.nodup_cons]
        refine ⟨fun hmem => ?_, ih _⟩
        have hid : entry.id = first := by
          obtain ⟨place, -, rfl⟩ := Option.map_eq_some_iff.1 hentry
          rfl
        obtain ⟨other, hother, hsame⟩ := List.mem_map.1 hmem
        have hnew := ((mem_reports band measure rest _ other).1 hother).2.2
        rw [hsame, hid, NameMap.get?_insert_self] at hnew
        exact hnew hstate.symm

end Observation

namespace ScrollLayout

variable {K : Type u} [Coordinate K]

/-- What a subscription keeps decides what it reports, if its headings have places. -/
theorem reportsChanges_reports {layout : ScrollLayout K} {o : Observation K}
    {last : String → Option ReportedState}
    (hplaced : ∀ id ∈ o.ids, layout.regions.contains id = true)
    (hlast : ∀ id ∈ o.ids, o.last.get? id = last id) :
    layout.ReportsChanges o last
      (Observation.reports o.band (layout.measureId o.band) o.ids o.last).1 where
  measured id hid := by
    obtain ⟨region, hregion⟩ := Option.isSome_iff_exists.1 (hplaced id hid)
    exact ⟨_, _, by rw [topOf, hregion]; rfl, by
      rw [stateOf, Observation.stateBy, measureId, hregion]; rfl⟩
  mem_iff entry := by
    obtain ⟨id, inView, top⟩ := entry
    rw [Observation.mem_reports]
    refine and_congr_right fun hid => ?_
    rw [hlast id hid]
    unfold stateOf Observation.entryBy Observation.stateBy measureId topOf
    cases layout.regions.get? id with
    | none => simp
    | some region =>
        simp only [Option.map_some, Option.some.injEq, VisibilityEntry.mk.injEq, true_and,
          Prod.mk.injEq]
        constructor
        · rintro ⟨⟨rfl, rfl⟩, hnew⟩
          exact ⟨rfl, _, ⟨rfl, rfl⟩, hnew⟩
        · rintro ⟨rfl, _, ⟨rfl, rfl⟩, hnew⟩
          exact ⟨⟨rfl, rfl⟩, hnew⟩
  nodup := Observation.nodup_reports o.band _ o.ids o.last

end ScrollLayout

/-! ### The journal of a run -/

/-- A page with the journal of its reports. -/
structure Recorded (K : Type u) where
  /-- The page. -/
  page : ScrollLayout K
  /-- The journal. -/
  journal : ScrollLayout.Journal

namespace Recorded

open ScrollLayout

variable {K : Type u} [Coordinate K]

/-- An action, and what it reports in the journal. -/
def act (r : Recorded K) (action : Action K) : Recorded K :=
  ⟨(r.page.act action).2,
    (r.page.reported? action).elim r.journal fun page => page.noted r.journal⟩

/-- An empty page with an empty journal. -/
def start (viewportHeight : K) : Recorded K := ⟨.empty viewportHeight, fun _ _ => none⟩

/-- The page and the journal after some actions. -/
def after (r : Recorded K) (actions : List (Action K)) : Recorded K := actions.foldl act r

theorem after_concat (r : Recorded K) (actions : List (Action K)) (action : Action K) :
    r.after (actions ++ [action]) = (r.after actions).act action :=
  List.foldl_append

/-- The journal does not change the page. -/
theorem page_after (r : Recorded K) (actions : List (Action K)) :
    (r.after actions).page = r.page.after actions := by
  induction actions generalizing r with
  | nil => rfl
  | cons action rest ih => exact ih (r.act action)

/-- The journal agrees with what the subscriptions of the page keep. -/
structure Faithful (r : Recorded K) : Prop where
  /-- A handle stands for one subscription. -/
  distinct : r.page.Distinct
  /-- A handle that is in use was given out. -/
  given : ∀ o ∈ r.page.observations, o.handle < r.page.nextHandle
  /-- The observed headings are on the page. -/
  placed : ∀ o ∈ r.page.observations, ∀ id ∈ o.ids, r.page.regions.contains id = true
  /-- A subscription keeps what it reported last. -/
  kept : ∀ o ∈ r.page.observations, ∀ id ∈ o.ids, o.last.get? id = r.journal o.handle id
  /-- Nothing was reported for a handle that is still to be given out. -/
  unused : ∀ handle, r.page.nextHandle ≤ handle → ∀ id, r.journal handle id = none

variable {r : Recorded K}

omit [Coordinate K] in
/-- The journal agrees with a page however far that is scrolled. -/
theorem Faithful.scrolled (h : r.Faithful) (y : K) :
    Faithful ⟨{ r.page with scrollY := y }, r.journal⟩ :=
  ⟨h.distinct, h.given, h.placed, h.kept, h.unused⟩

theorem faithful_start (viewportHeight : K) : (start viewportHeight).Faithful where
  distinct := .nil
  given := nofun
  placed := nofun
  kept := nofun
  unused _ _ _ := rfl

theorem Faithful.reportsChanges (h : r.Faithful) {o : Observation K}
    (ho : o ∈ r.page.observations) :
    r.page.ReportsChanges o (r.journal o.handle) (r.page.reportsOf o.handle) := by
  rw [reportsOf_eq h.distinct ho]
  exact reportsChanges_reports (h.placed o ho) (h.kept o ho)

/-- **After a batch** the journal has the present state of every observed heading. -/
theorem Faithful.noted_eq_stateOf (h : r.Faithful) {o : Observation K}
    (ho : o ∈ r.page.observations) {id : String} (hid : id ∈ o.ids) :
    r.page.noted r.journal o.handle id = r.page.stateOf o.band id := by
  have hreports := h.reportsChanges ho
  obtain ⟨top, state, htop, hstate⟩ := hreports.measured id hid
  rw [noted_eq h.distinct ho]
  split
  · rfl
  · next hmem =>
      -- It would have been reported if the journal had another state.
      by_contra hnew
      refine hmem (List.mem_map.2 ⟨⟨id, state.1, top⟩, (hreports.mem_iff _).2 ?_, rfl⟩)
      exact ⟨hid, htop, state.2, hstate, fun hlast => hnew (hlast.trans hstate.symm)⟩

theorem Faithful.takeRecords (h : r.Faithful) :
    Faithful ⟨r.page.takeRecords.2, r.page.noted r.journal⟩ := by
  have hhandles : r.page.takeRecords.2.observations.map (·.handle) =
      r.page.observations.map (·.handle) := by
    show (r.page.collect _).2.map _ = _
    rw [collect_observations, List.map_map]
    rfl
  constructor
  · show (List.map _ _).Nodup
    rw [hhandles]
    exact h.distinct
  · intro o' ho'
    obtain ⟨o, ho, hhandle, -⟩ := exists_of_mem_takeRecords ho'
    exact hhandle ▸ h.given o ho
  · intro o' ho' id hid
    obtain ⟨o, ho, -, hids, -⟩ := exists_of_mem_takeRecords ho'
    exact h.placed o ho id (hids ▸ hid)
  · intro o' ho' id hid
    obtain ⟨o, ho, hhandle, hids, hband⟩ := exists_of_mem_takeRecords ho'
    have htold := r.page.told_takeRecords o' ho' id hid (h.placed o ho id (hids ▸ hid))
    rw [htold, hhandle]
    refine Eq.trans ?_ (h.noted_eq_stateOf ho (hids ▸ hid)).symm
    rw [hband]
    rfl
  · intro handle hle id
    have hnone : r.page.observations.find? (·.handle == handle) = none := by
      refine List.find?_eq_none.2 fun o ho hsame => ?_
      have hlt := h.given o ho
      rw [beq_iff_eq.1 hsame] at hlt
      exact absurd hle (Nat.not_le.2 hlt)
    show r.page.noted r.journal handle id = none
    simp only [noted, hnone]
    exact h.unused handle hle id

/-- **One action** keeps the journal in agreement with the page. -/
theorem Faithful.act (h : r.Faithful) (action : Action K) : (r.act action).Faithful := by
  cases action with
  | place id top height =>
      refine ⟨h.distinct, h.given, fun o ho other hother => ?_, h.kept, h.unused⟩
      exact (NameMap.contains_insert ..).2 (.inr (h.placed o ho other hother))
  | observe ids band =>
      have hmem : ∀ o ∈ (r.page.observe ids band).2.observations, o ∈ r.page.observations ∨
          o = ⟨r.page.nextHandle, ids.filter r.page.regions.contains, band, ∅⟩ := fun o ho =>
        (List.mem_append.1 ho).imp_right List.mem_singleton.1
      constructor
      · show (List.map _ (r.page.observations ++ [_])).Nodup
        rw [List.map_append, List.map_singleton]
        refine List.nodup_append.2 ⟨h.distinct, List.nodup_singleton _, ?_⟩
        intro handle hhandle other hother
        obtain ⟨o, ho, rfl⟩ := List.mem_map.1 hhandle
        rw [List.mem_singleton.1 hother]
        exact Nat.ne_of_lt (h.given o ho)
      · intro o ho
        rcases hmem o ho with ho | rfl
        · exact Nat.lt_succ_of_lt (h.given o ho)
        · exact Nat.lt_succ_self _
      · intro o ho id hid
        rcases hmem o ho with ho | rfl
        · exact h.placed o ho id hid
        · exact (List.mem_filter.1 hid).2
      · intro o ho id hid
        rcases hmem o ho with ho | rfl
        · exact h.kept o ho id hid
        · exact (h.unused _ (Nat.le_refl _) id).symm
      · exact fun handle hle id => h.unused handle (Nat.le_of_succ_le hle) id
  | unobserve handle =>
      have hmem : ∀ o ∈ (r.page.unobserve handle).observations, o ∈ r.page.observations :=
        fun o ho => (List.mem_filter.1 ho).1
      exact ⟨h.distinct.sublist (List.filter_sublist.map _), fun o ho => h.given o (hmem o ho),
        fun o ho => h.placed o (hmem o ho), fun o ho => h.kept o (hmem o ho), h.unused⟩
  | scrollTo y => exact (h.scrolled (Coordinate.max y Coordinate.zero)).takeRecords
  | takeRecords => exact h.takeRecords

/-- **A whole run** keeps the journal in agreement with the page. -/
theorem faithful_after (viewportHeight : K) (actions : List (Action K)) :
    ((start viewportHeight).after actions).Faithful := by
  -- The journal goes on at the end of a run, so the last action is taken off.
  induction actions using List.reverseRecOn with
  | nil => exact faithful_start viewportHeight
  | append_singleton actions action ih => exact after_concat _ actions action ▸ ih.act action

end Recorded

namespace ScrollLayout

variable {K : Type u} [Coordinate K]

/-! ### How long a subscription lives -/

/-- A subscription lives until it is ended. -/
theorem exists_observation_after {layout : ScrollLayout K} {handle : Nat} {ids : List String}
    {band : ObservationBand K}
    (hlive : ∃ o ∈ layout.observations, o.handle = handle ∧ o.ids = ids ∧ o.band = band)
    {later : List (Action K)} (hlater : .unobserve handle ∉ later) :
    ∃ o ∈ (layout.after later).observations, o.handle = handle ∧ o.ids = ids ∧ o.band = band := by
  induction later generalizing layout with
  | nil => exact hlive
  | cons action rest ih =>
      obtain ⟨hne, hrest⟩ := not_or.1 (mt List.mem_cons.2 hlater)
      refine ih ?_ hrest
      obtain ⟨o, ho, hsame⟩ := hlive
      have hreports : ∀ page : ScrollLayout K, o ∈ page.observations →
          ∃ o' ∈ page.takeRecords.2.observations,
            o'.handle = handle ∧ o'.ids = ids ∧ o'.band = band := by
        intro page ho
        obtain ⟨o', ho', hhandle, hids, hband⟩ := exists_mem_takeRecords ho
        exact ⟨o', ho', hhandle.trans hsame.1, hids.trans hsame.2.1, hband.trans hsame.2.2⟩
      cases action with
      | place _ _ _ => exact ⟨o, ho, hsame⟩
      | observe _ _ => exact ⟨o, List.mem_append_left _ ho, hsame⟩
      | unobserve other =>
          refine ⟨o, List.mem_filter.2 ⟨ho, bne_iff_ne.2 fun hother => hne ?_⟩, hsame⟩
          rw [← hother, hsame.1]
      | scrollTo y => exact hreports { layout with scrollY := _ } ho
      | takeRecords => exact hreports layout ho

/-- A subscription that was ended does not come back. -/
theorem handle_ne_after {layout : ScrollLayout K} {handle : Nat}
    (hended : ∀ o ∈ layout.observations, o.handle ≠ handle) (hgiven : handle < layout.nextHandle)
    (later : List (Action K)) : ∀ o ∈ (layout.after later).observations, o.handle ≠ handle := by
  induction later generalizing layout with
  | nil => exact hended
  | cons action rest ih =>
      have hreports : ∀ page : ScrollLayout K, (∀ o ∈ page.observations, o.handle ≠ handle) →
          ∀ o ∈ page.takeRecords.2.observations, o.handle ≠ handle := by
        intro page hpage o ho
        obtain ⟨o', ho', hsame, -⟩ := exists_of_mem_takeRecords ho
        exact hsame ▸ hpage o' ho'
      refine ih ?_ (Nat.lt_of_lt_of_le hgiven (layout.nextHandle_act_le action))
      cases action with
      | place _ _ _ => exact hended
      | observe _ _ =>
          intro o ho
          rcases List.mem_append.1 ho with ho | ho
          · exact hended o ho
          · rw [List.mem_singleton.1 ho]
            exact Nat.ne_of_gt hgiven
      | unobserve other => exact fun o ho => hended o (List.mem_filter.1 ho).1
      | scrollTo y => exact hreports { layout with scrollY := _ } hended
      | takeRecords => exact hreports layout hended

/-- A subscription is live, with the headings that had a place when it began, until it is
ended. -/
theorem exists_observation_iff (layout : ScrollLayout K) (earlier : List (Action K))
    (ids : List String) (band : ObservationBand K) (later : List (Action K)) :
    (∃ o ∈ (layout.after (earlier ++ .observe ids band :: later)).observations,
        o.handle = (layout.after earlier).nextHandle ∧
          o.ids = ids.filter (layout.after earlier).regions.contains ∧ o.band = band) ↔
      .unobserve (layout.after earlier).nextHandle ∉ later := by
  have hsplit : layout.after (earlier ++ .observe ids band :: later) =
      (((layout.after earlier).observe ids band).2).after later := List.foldl_append
  rw [hsplit]
  constructor
  · rintro ⟨o, ho, hhandle, -⟩ hended
    -- From where it ends, the handle is below the next one, so none begins with it again.
    obtain ⟨between, rest, rfl⟩ := List.append_of_mem hended
    have hrest : ∀ page : ScrollLayout K,
        page.after (between ++ .unobserve (layout.after earlier).nextHandle :: rest) =
          (((page.after between).unobserve (layout.after earlier).nextHandle)).after rest :=
      fun _ => List.foldl_append
    rw [hrest] at ho
    refine handle_ne_after (fun o ho => ?_) ?_ rest o ho hhandle
    · exact bne_iff_ne.1 (List.mem_filter.1 ho).2
    · exact nextHandle_after_le ((layout.after earlier).observe ids band).2 between
  · intro hlive
    refine exists_observation_after ⟨_, List.mem_append_right _ List.mem_cons_self, ?_⟩ hlive
    exact ⟨rfl, rfl, rfl⟩

/-! ### Other subscriptions -/

/-- Whether an action can be seen by a subscription: not, if it only begins another one
or ends another one. -/
def Action.concerns (handle : Nat) : Action K → Bool
  | .place .. | .scrollTo _ | .takeRecords => true
  | .observe .. => false
  | .unobserve other => other == handle

/-- The page with one subscription only. -/
def alone (layout : ScrollLayout K) (handle : Nat) : ScrollLayout K :=
  { layout with observations := layout.observations.filter (·.handle == handle) }

/-- Two pages that are the same for one subscription. -/
structure Resembles (handle : Nat) (a b : ScrollLayout K) : Prop where
  /-- Their viewports have one height. -/
  viewportHeight_eq : a.viewportHeight = b.viewportHeight
  /-- They are scrolled as far. -/
  scrollY_eq : a.scrollY = b.scrollY
  /-- They have the same headings. -/
  regions_eq : a.regions = b.regions
  /-- They have the subscription, or neither has. -/
  observations_eq : a.observations.filter (·.handle == handle) =
    b.observations.filter (·.handle == handle)

namespace Resembles

variable {handle : Nat} {a b : ScrollLayout K}

theorem measureId_eq (h : Resembles handle a b) : a.measureId = b.measureId := by
  funext band id
  rw [measureId, measureId, h.viewportHeight_eq, h.scrollY_eq, h.regions_eq]

theorem reportsOf_eq (h : Resembles handle a b) : a.reportsOf handle = b.reportsOf handle := by
  rw [reportsOf, reportsOf, h.observations_eq, h.measureId_eq]

omit [Coordinate K] in
theorem scrolled (h : Resembles handle a b) (y : K) :
    Resembles handle { a with scrollY := y } { b with scrollY := y } :=
  ⟨h.viewportHeight_eq, rfl, h.regions_eq, h.observations_eq⟩

theorem reportsBy_eq (h : Resembles handle a b) (action : Action K) :
    a.reportsBy action handle = b.reportsBy action handle := by
  cases action with
  | scrollTo y => exact (h.scrolled _).reportsOf_eq
  | takeRecords => exact h.reportsOf_eq
  | place _ _ _ | observe _ _ | unobserve _ => rfl

theorem takeRecords (h : Resembles handle a b) :
    Resembles handle a.takeRecords.2 b.takeRecords.2 := by
  refine ⟨h.viewportHeight_eq, h.scrollY_eq, h.regions_eq, ?_⟩
  show (a.collect _).2.filter _ = (b.collect _).2.filter _
  rw [collect_observations, collect_observations, List.filter_map, List.filter_map,
    h.measureId_eq]
  exact congrArg (List.map _) h.observations_eq

/-- What can be seen of an action is the same on both pages. -/
theorem act (h : Resembles handle a b) {action : Action K} (hconcerns : action.concerns handle) :
    Resembles handle (a.act action).2 (b.act action).2 := by
  cases action with
  | place id top height =>
      exact ⟨h.viewportHeight_eq, h.scrollY_eq, congrArg (NameMap.insert · id _) h.regions_eq,
        h.observations_eq⟩
  | observe ids band => exact absurd hconcerns Bool.false_ne_true
  | unobserve other =>
      refine ⟨h.viewportHeight_eq, h.scrollY_eq, h.regions_eq, ?_⟩
      show List.filter _ (List.filter _ _) = List.filter _ (List.filter _ _)
      rw [List.filter_comm, h.observations_eq, List.filter_comm]
  | scrollTo y => exact (h.scrolled _).takeRecords
  | takeRecords => exact h.takeRecords

/-- An action that cannot be seen may be left out. -/
theorem skip (h : Resembles handle a b) (hgiven : handle < a.nextHandle) {action : Action K}
    (hconcerns : ¬action.concerns handle) : Resembles handle (a.act action).2 b := by
  cases action with
  | place _ _ _ | scrollTo _ | takeRecords => exact absurd rfl hconcerns
  | observe ids band =>
      refine ⟨h.viewportHeight_eq, h.scrollY_eq, h.regions_eq, ?_⟩
      show List.filter _ (a.observations ++ [_]) = _
      have hother : (a.nextHandle == handle) = false := beq_false_of_ne (Nat.ne_of_gt hgiven)
      rw [List.filter_append, h.observations_eq, List.filter_singleton]
      simp only [hother, cond_false, List.append_nil]
  | unobserve other =>
      refine ⟨h.viewportHeight_eq, h.scrollY_eq, h.regions_eq, ?_⟩
      show List.filter _ (List.filter _ _) = _
      rw [← h.observations_eq, List.filter_filter]
      refine List.filter_congr fun o _ => ?_
      have hother : o.handle = handle → o.handle ≠ other := fun hsame hsame' =>
        hconcerns (beq_iff_eq.2 (hsame'.symm.trans hsame))
      by_cases hsame : o.handle = handle
      · simp [hsame, hsame ▸ hother hsame]
      · simp [hsame]

/-- What a subscription sees of a run are the actions that it can see. -/
theorem after (h : Resembles handle a b) (hgiven : handle < a.nextHandle)
    (actions : List (Action K)) :
    Resembles handle (a.after actions) (b.after (actions.filter (·.concerns handle))) := by
  induction actions generalizing a b with
  | nil => exact h
  | cons action rest ih =>
      have hgiven' := Nat.lt_of_lt_of_le hgiven (a.nextHandle_act_le action)
      by_cases hconcerns : action.concerns handle = true
      · rw [List.filter_cons_of_pos hconcerns]
        exact ih (h.act hconcerns) hgiven'
      · rw [List.filter_cons_of_neg hconcerns]
        exact ih (h.skip hgiven hconcerns) hgiven'

end Resembles

omit [Coordinate K] in
theorem resembles_alone (layout : ScrollLayout K) (handle : Nat) :
    Resembles handle layout (layout.alone handle) where
  viewportHeight_eq := rfl
  scrollY_eq := rfl
  regions_eq := rfl
  observations_eq := by simp [alone]

/-! ### The whole run -/

/-- **Reports are changes.** After any actions on an empty page: no handle was given out
twice, and a subscription is live until it is ended. A batch puts together what the live
subscriptions report, each of them the headings that it reported never or in another
state, once, with their present places and states. After the batch the last reports agree
with the page, and another batch is empty. What a subscription reports later is what it
would report if it were the only one. -/
theorem reports_are_changes (viewportHeight : K) (actions : List (Action K)) :
    let page := (empty viewportHeight).after actions
    let recorded (actions : List (Action K)) := (Recorded.start viewportHeight).after actions
    (recorded actions).page = page ∧
    ((empty viewportHeight).handles actions).Nodup ∧
    (∀ earlier ids band later, actions = earlier ++ .observe ids band :: later →
      let before := (empty viewportHeight).after earlier
      ((∃ o ∈ page.observations, o.handle = before.nextHandle ∧
          o.ids = ids.filter before.regions.contains ∧ o.band = band) ↔
        .unobserve before.nextHandle ∉ later)) ∧
    page.Distinct ∧
    (∀ action, (page.act action).1 = page.observations.flatMap (page.reportsBy action ·.handle)) ∧
    (∀ action reported, page.reported? action = some reported →
      (∀ o ∈ page.observations, reported.ReportsChanges o
        ((recorded actions).journal o.handle) (page.reportsBy action o.handle)) ∧
      (∀ o ∈ (page.act action).2.observations, ∀ id ∈ o.ids,
        (recorded (actions ++ [action])).journal o.handle id =
          (page.act action).2.stateOf o.band id) ∧
      (page.act action).2.takeRecords.1 = []) ∧
    ∀ handle ∈ (empty viewportHeight).handles actions, ∀ later action,
      (page.after later).reportsBy action handle =
        ((page.alone handle).after (later.filter (·.concerns handle))).reportsBy action handle := by
  intro page recorded
  have hpage : (recorded actions).page = page := Recorded.page_after _ actions
  have hfaithful : (recorded actions).Faithful := Recorded.faithful_after viewportHeight actions
  have hdistinct : page.Distinct := hpage ▸ hfaithful.distinct
  refine ⟨hpage, nodup_handles _ actions, ?_, hdistinct, act_batch hdistinct, ?_, ?_⟩
  · rintro earlier ids band later rfl before
    exact exists_observation_iff _ earlier ids band later
  · intro action reported hreported
    obtain ⟨y, rfl, hact⟩ := exists_of_reported? hreported
    have htold : (page.act action).2.Told := hact ▸ ScrollLayout.told_takeRecords _
    refine ⟨fun o ho => ?_, fun o ho id hid => ?_, takeRecords_of_told htold⟩
    · rw [reportsBy, hreported]
      rw [← hpage] at ho ⊢
      exact (hfaithful.scrolled y).reportsChanges ho
    · have hnext := Recorded.faithful_after viewportHeight (actions ++ [action])
      have hpage' : (recorded (actions ++ [action])).page = (page.act action).2 :=
        (Recorded.page_after _ _).trans (after_concat _ actions action)
      rw [← hpage'] at ho htold ⊢
      rw [← hnext.kept o ho id hid]
      exact htold o ho id hid (hnext.placed o ho id hid)
  · intro handle hhandle later action
    have hresembles := (page.resembles_alone handle).after (lt_nextHandle_of_mem_handles hhandle) later
    exact hresembles.reportsBy_eq action

end ScrollLayout

end PostPress
