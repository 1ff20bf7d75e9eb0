import Mathlib.Data.List.Basic
import PostPress.Scroll.Layout

/-!
# PostPress.Proofs.Scroll.Report

**What a page reports.** A subscription reports a heading exactly if its state is not
the one reported last (`mem_reports`), and from then on that state is the one
reported last (`get?_reports`).

* `ScrollLayout.Due` — a report that some subscription is still to get;
* `ScrollLayout.mem_takeRecords` — a batch holds exactly the reports that are due;
* `ScrollLayout.told_takeRecords`, `ScrollLayout.takeRecords_of_told` — after the batch
  none is, and another batch is empty.
-/

namespace PostPress

universe u

variable {K : Type u} [Coordinate K]

namespace Observation

variable (band : ObservationBand K) (measure : String → Option (K × Measurement K))

/-- The state of a heading by its measurement. -/
def stateBy (id : String) : Option ReportedState :=
  (measure id).map fun place => (place.2.isIntersecting, band.bucket place.2)

/-- The report of a heading by its measurement. -/
def entryBy (id : String) : Option (VisibilityEntry K) :=
  (measure id).map fun place => ⟨id, place.2.isIntersecting, place.1⟩

/-- One heading either changes nothing, or is reported and its state is noted. -/
theorem reports_cons (id : String) (rest : List String) (last : NameMap ReportedState) :
    (last.get? id = stateBy band measure id ∨ stateBy band measure id = none) ∧
        reports band measure (id :: rest) last = reports band measure rest last ∨
      ∃ state entry, stateBy band measure id = some state ∧
        entryBy (K := K) measure id = some entry ∧ last.get? id ≠ some state ∧
        reports band measure (id :: rest) last =
          (entry :: (reports band measure rest (last.insert id state)).1,
            (reports band measure rest (last.insert id state)).2) := by
  unfold stateBy entryBy
  cases hmeasure : measure id with
  | none => exact .inl ⟨.inr rfl, by rw [reports, hmeasure]⟩
  | some place =>
      obtain ⟨top, m⟩ := place
      by_cases hsame : last.get? id = some (m.isIntersecting, band.bucket m)
      · exact .inl ⟨.inl hsame, by simp only [reports, hmeasure, if_pos hsame]⟩
      · exact .inr ⟨_, _, rfl, rfl, hsame, by simp only [reports, hmeasure, if_neg hsame]⟩

/-- What has been reported last is the present state, for every id that is measured. -/
theorem get?_reports (ids : List String) (last : NameMap ReportedState) (id : String) :
    (reports band measure ids last).2.get? id =
      if id ∈ ids then (stateBy band measure id).or (last.get? id) else last.get? id := by
  induction ids generalizing last with
  | nil => simp [reports]
  | cons first rest ih =>
      rcases reports_cons band measure first rest last with
        ⟨hsame, hreports⟩ | ⟨state, entry, hstate, -, -, hreports⟩
      · rw [hreports, ih]
        by_cases hid : id = first
        · subst hid
          rcases hsame with hsame | hnone
          · cases hstate : stateBy band measure id <;> simp_all
          · simp [hnone]
        · simp [hid]
      · rw [hreports, ih, NameMap.get?_insert]
        by_cases hid : id = first
        · subst hid
          simp [hstate]
        · simp [hid]

/-- **A heading is reported exactly if** its state is not the one reported last. -/
theorem mem_reports (ids : List String) (last : NameMap ReportedState)
    (entry : VisibilityEntry K) :
    entry ∈ (reports band measure ids last).1 ↔
      entry.id ∈ ids ∧ entryBy measure entry.id = some entry ∧
        last.get? entry.id ≠ stateBy band measure entry.id := by
  induction ids generalizing last with
  | nil => simp [reports]
  | cons first rest ih =>
      rcases reports_cons band measure first rest last with
        ⟨hsame, hreports⟩ | ⟨state, found, hstate, hfound, hnew, hreports⟩
      · rw [hreports, ih, List.mem_cons]
        by_cases hid : entry.id = first
        · -- The state of this heading is the one reported last, wherever it stands.
          rcases hsame with hsame | hnone
          · simp [hid, hsame]
          · have hentry : entryBy (K := K) measure first = none := by
              unfold stateBy at hnone
              unfold entryBy
              rw [Option.map_eq_none_iff] at hnone ⊢
              exact hnone
            simp [hid, hentry]
        · simp [hid]
      · have hid : found.id = first := by
          obtain ⟨place, -, rfl⟩ := Option.map_eq_some_iff.1 hfound
          rfl
        rw [hreports, List.mem_cons, ih, List.mem_cons, NameMap.get?_insert]
        by_cases hentry : entry.id = first
        · rw [hentry, hstate, hfound]
          simp [hnew, eq_comm]
        · have hne : entry ≠ found := fun h => hentry (h ▸ hid)
          simp [hentry, hne]

end Observation

namespace ScrollLayout

variable (layout : ScrollLayout K)

/-- The state of a heading: in the band or not, and the number of thresholds crossed. -/
def stateOf (band : ObservationBand K) (id : String) : Option ReportedState :=
  Observation.stateBy band (layout.measureId band) id

/-- Whether a heading is in a band. -/
def inBand (band : ObservationBand K) (id : String) : Bool :=
  ((layout.stateOf band id).map (·.1)).getD false

/-- A report of a heading is due, as one in view or out of it: a subscription to the
heading was told another state last. -/
def Due (id : String) (inView : Bool) : Prop :=
  ∃ o ∈ layout.observations, id ∈ o.ids ∧ o.last.get? id ≠ layout.stateOf o.band id ∧
    layout.inBand o.band id = inView

/-- All subscriptions have been told the states of the headings they observe. -/
def Told : Prop :=
  ∀ o ∈ layout.observations, ∀ id ∈ o.ids, layout.regions.contains id = true →
    o.last.get? id = layout.stateOf o.band id

/-- The batch of a page puts the reports of its subscriptions together. -/
theorem collect_batch (observations : List (Observation K)) :
    (layout.collect observations).1 = observations.flatMap fun o =>
      (Observation.reports o.band (layout.measureId o.band) o.ids o.last).1 := by
  induction observations with
  | nil => rfl
  | cons o rest ih => rw [List.flatMap_cons, ← ih, collect]

theorem mem_collect (observations : List (Observation K)) (entry : VisibilityEntry K) :
    entry ∈ (layout.collect observations).1 ↔ ∃ o ∈ observations, entry.id ∈ o.ids ∧
      Observation.entryBy (layout.measureId o.band) entry.id = some entry ∧
      o.last.get? entry.id ≠ layout.stateOf o.band entry.id := by
  rw [collect_batch, List.mem_flatMap]
  simp only [Observation.mem_reports]
  rfl

/-- A subscription keeps its headings and its band; only what it was told changes. -/
theorem collect_observations (observations : List (Observation K)) :
    (layout.collect observations).2 = observations.map fun o =>
      { o with
        last := (Observation.reports o.band (layout.measureId o.band) o.ids o.last).2 } := by
  induction observations with
  | nil => rfl
  | cons o rest ih => rw [List.map_cons, ← ih, collect]

/-- Every heading that is placed has a state. -/
theorem isSome_stateOf (band : ObservationBand K) (id : String) :
    (layout.stateOf band id).isSome = layout.regions.contains id := by
  rw [stateOf, Observation.stateBy, measureId, Option.isSome_map, Option.isSome_map]
  rfl

/-- **What a page reports** are the reports that are due. -/
theorem mem_takeRecords (entry : VisibilityEntry K) :
    entry ∈ layout.takeRecords.1 ↔
      layout.topOf entry.id = some entry.top ∧ layout.Due entry.id entry.isIntersecting := by
  have hentry : ∀ band, Observation.entryBy (layout.measureId band) entry.id = some entry ↔
      layout.topOf entry.id = some entry.top ∧ layout.inBand band entry.id = entry.isIntersecting := by
    intro band
    obtain ⟨id, inView, top⟩ := entry
    unfold Observation.entryBy inBand stateOf Observation.stateBy measureId topOf
    cases layout.regions.get? id <;> simp [and_comm]
  have hmem : entry ∈ layout.takeRecords.1 ↔ _ := layout.mem_collect layout.observations entry
  rw [hmem]
  constructor
  · rintro ⟨o, ho, hid, hfound, hnew⟩
    obtain ⟨htop, hband⟩ := (hentry _).1 hfound
    exact ⟨htop, o, ho, hid, hnew, hband⟩
  · rintro ⟨htop, o, ho, hid, hnew, hband⟩
    exact ⟨o, ho, hid, (hentry _).2 ⟨htop, hband⟩, hnew⟩

/-- After its reports a page has told everything. -/
theorem told_takeRecords : layout.takeRecords.2.Told := by
  intro o ho id hid hplaced
  have ho : o ∈ (layout.collect layout.observations).2 := ho
  rw [collect_observations] at ho
  obtain ⟨o', -, rfl⟩ := List.mem_map.1 ho
  obtain ⟨state, hstate⟩ :=
    Option.isSome_iff_exists.1 ((layout.isSome_stateOf o'.band id).trans hplaced)
  show (Observation.reports _ _ _ _).2.get? id = layout.stateOf o'.band id
  rw [Observation.get?_reports, if_pos hid]
  rw [stateOf] at hstate ⊢
  rw [hstate]
  rfl

variable {layout} in
/-- When everything has been told, nothing is left to report. -/
theorem takeRecords_of_told (h : layout.Told) : layout.takeRecords.1 = [] := by
  refine List.eq_nil_iff_forall_not_mem.2 fun entry hentry => ?_
  obtain ⟨htop, o, ho, hid, hnew, -⟩ := (layout.mem_takeRecords entry).1 hentry
  obtain ⟨region, hregion, -⟩ := Option.map_eq_some_iff.1 htop
  exact hnew (h o ho _ hid (Option.isSome_iff_exists.2 ⟨region, hregion⟩))

end ScrollLayout

end PostPress
