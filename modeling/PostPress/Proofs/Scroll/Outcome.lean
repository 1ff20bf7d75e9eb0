import Mathlib.Order.Defs.LinearOrder
import PostPress.Proofs.Scroll.Report
import PostPress.Proofs.Scroll.Run

/-!
# PostPress.Proofs.Scroll.Outcome

**What a batch does to the active heading** depends on the reports in it, and neither on
their order nor on how often one is made (`Tracker.activeId_handleBatch`).

* `Tracker.First.id_unique` — of the reports that come first all are of one heading;
* `Tracker.select_eq_iff` — so a batch has one outcome, `Tracker.Selects`;
* `ScrollLayout.perm_takeRecords` — the order of the subscriptions of a page changes no
  more than the order of its reports.

The first rests on the position in the document: reports that no order tells apart stand
at one position, so they have one id, also if an outline repeats an id.
-/

namespace PostPress

universe u v

/-! ### The order of doubles -/

theorem compare_binary64 (a b : Binary64) :
    Coordinate.compare a b = compare a.totalKey b.totalKey :=
  (LinearOrder.compare_eq_compareOfLessAndEq a.totalKey b.totalKey).symm

/-- Doubles are in order by their bit patterns, those that are no number among them. -/
instance : Std.TransCmp (Coordinate.compare : Binary64 → Binary64 → Ordering) where
  eq_swap := by
    intro a b
    rw [compare_binary64, compare_binary64]
    exact Std.OrientedCmp.eq_swap
  isLE_trans := by
    intro a b c hab hbc
    rw [compare_binary64] at hab hbc ⊢
    exact Std.TransCmp.isLE_trans hab hbc

namespace Tracker

section Outcome

variable {K : Type v} [Coordinate K]

/-! ### One batch has one outcome -/

section Unique

variable {ids : List String} {batch other : List (VisibilityEntry K)}
  {measure : VisibilityEntry K → K} {counts : VisibilityEntry K → Bool}
  {entry entry' : VisibilityEntry K}

/-- What comes first is the same in two batches with the same reports. -/
theorem First.congr (hsame : ∀ e, Reported ids batch e ↔ Reported ids other e)
    (h : First ids batch measure counts entry) : First ids other measure counts entry :=
  ⟨(hsame entry).1 h.reported, h.qualifies, fun e he => h.least e ((hsame e).2 he)⟩

variable [Std.TransCmp (Coordinate.compare : K → K → Ordering)]

/-- **The reports that come first** are of one heading. -/
theorem First.id_unique (h : First ids batch measure counts entry)
    (h' : First ids batch measure counts entry') : entry.id = entry'.id := by
  have horiented : Std.OrientedCmp (order ids measure) :=
    ⟨fun {a b} => (transCmp_order (K := K) measure).eq_swap
      (a := (a, ids.idxOf a.id)) (b := (b, ids.idxOf b.id))⟩
  have heq : order ids measure entry entry' = .eq :=
    horiented.isLE_antisymm (h.least entry' h'.reported h'.qualifies)
      (h'.least entry h.reported h.qualifies)
  have hposition : ids.idxOf entry.id = ids.idxOf entry'.id :=
    compare_eq_iff_eq.1 (Ordering.then_eq_eq.1 heq).2
  exact (List.idxOf_inj h.reported.2).1 hposition

/-- Batches with the same reports select alike. -/
theorem Selects.unique {config : TrackerConfig K} {id id' : Option String}
    (hsame : ∀ e, Reported ids batch e ↔ Reported ids other e)
    (h : Selects config ids batch id) (h' : Selects config ids other id') : id = id' := by
  -- Two different rules exclude each other: each of them says that the ones before it
  -- found no report.
  cases h with
  | inView entry first =>
      have first := first.congr hsame
      cases h' with
      | inView entry' first' => rw [first.id_unique first']
      | near entry' outOfView => exact absurd first.qualifies (by simp [outOfView _ first.reported])
      | nothing outOfView => exact absurd first.qualifies (by simp [outOfView _ first.reported])
  | near entry outOfView first =>
      have first := first.congr hsame
      cases h' with
      | inView entry' first' =>
          have hout := outOfView entry' ((hsame entry').2 first'.reported)
          exact absurd first'.qualifies (by simp [hout])
      | near entry' outOfView' first' => rw [first.id_unique first']
      | nothing outOfView' below => exact absurd first.qualifies (by simp [below _ first.reported])
  | nothing outOfView below =>
      cases h' with
      | inView entry' first' =>
          have hout := outOfView entry' ((hsame entry').2 first'.reported)
          exact absurd first'.qualifies (by simp [hout])
      | near entry' outOfView' first' =>
          have hbelow := below entry' ((hsame entry').2 first'.reported)
          exact absurd first'.qualifies (by simp [hbelow])
      | nothing => rfl

/-- The tracker selects in the one way that there is. -/
theorem select_eq_iff {config : TrackerConfig K} {id : Option String} :
    select config ids batch = id ↔ Selects config ids batch id := by
  constructor
  · rintro rfl
    exact select_selects config ids batch
  · intro h
    exact (select_selects config ids batch).unique (fun _ => Iff.rfl) h

/-- Only the reports of tracked headings count, in any order. -/
theorem select_congr (config : TrackerConfig K)
    (hsame : ∀ e, Reported ids batch e ↔ Reported ids other e) :
    select config ids batch = select config ids other :=
  (select_selects config ids batch).unique hsame (select_selects config ids other)

end Unique

end Outcome

end Tracker

/-! ### The order of the subscriptions -/

namespace ScrollLayout

variable {K : Type v} [Coordinate K] (layout : ScrollLayout K)

/-- A page whose subscriptions stand in another order reports the same, in another
order. -/
theorem perm_takeRecords {observations : List (Observation K)}
    (h : observations.Perm layout.observations) :
    ({ layout with observations } : ScrollLayout K).takeRecords.1.Perm layout.takeRecords.1 := by
  show (collect { layout with observations } observations).1.Perm (layout.collect _).1
  rw [collect_batch, collect_batch]
  exact h.flatMap_right _

end ScrollLayout

/-! ### The tracker -/

namespace Tracker

section Outcome

variable {H : Type u} {K : Type v} [Coordinate K] [VisibilityHost H K]

/-- **What a batch does.** The tracker is at any moment of a run, with a subscription.
Reports count if their id is a non-empty one of the attached outline. If one of them is
in view, the heading becomes active whose report in view comes first by its top and its
position in the document. If none is, but one is at or above the activation offset, the
heading becomes active whose report there comes first by its distance from the anchor
and its position. Otherwise nothing changes. The order of the reports does not matter,
so neither does the order of the subscriptions of the page that makes them. -/
theorem activeId_handleBatch [Std.TransCmp (Coordinate.compare : K → K → Ordering)]
    (host : H) (toc : List TocEntry) (config : TrackerConfig K) (events : List (Event H K))
    {outline : List TocEntry} (hattached : attachedAfter toc events = some outline)
    (hlive : (reached host toc config events).isObserving = true)
    (batch : List (VisibilityEntry K)) :
    let t := reached host toc config events
    let Known := Reported (trackedIds outline) batch
    let near := fun entry : VisibilityEntry K => Coordinate.le entry.top config.activationOffset
    let FirstInView := First (trackedIds outline) batch (·.top) (·.isIntersecting)
    let FirstNear := First (trackedIds outline) batch (distance config) near
    ((∃ entry, Known entry ∧ entry.isIntersecting = true) →
      (∃ entry, FirstInView entry) ∧
        ∀ entry, FirstInView entry → (t.handleBatch batch).activeId = some entry.id) ∧
    ((∀ entry, Known entry → entry.isIntersecting = false) →
      (∃ entry, Known entry ∧ near entry = true) →
      (∃ entry, FirstNear entry) ∧
        ∀ entry, FirstNear entry → (t.handleBatch batch).activeId = some entry.id) ∧
    ((∀ entry, Known entry → entry.isIntersecting = false) →
      (∀ entry, Known entry → near entry = false) →
      (t.handleBatch batch).activeId = t.activeId) ∧
    (∀ other : List (VisibilityEntry K), other.Perm batch →
      (t.handleBatch other).activeId = (t.handleBatch batch).activeId) ∧
    ∀ (layout : ScrollLayout K) (observations : List (Observation K)),
      observations.Perm layout.observations →
      (t.handleBatch ({ layout with observations } : ScrollLayout K).takeRecords.1).activeId =
        (t.handleBatch layout.takeRecords.1).activeId := by
  intro t Known near FirstInView FirstNear
  have hids : t.ids = trackedIds outline := by
    rw [(follows_reached host toc config events).ids_eq, hattached]
    rfl
  have hconfig : t.config = config := config_reached host toc config events
  have hactive : ∀ reports, (t.handleBatch reports).activeId =
      (select config (trackedIds outline) reports).or t.activeId := by
    intro reports
    rw [handleBatch_eq, if_pos hlive, hids, hconfig]
  have hperm : ∀ reports other : List (VisibilityEntry K), other.Perm reports →
      (t.handleBatch other).activeId = (t.handleBatch reports).activeId := by
    intro reports other hother
    rw [hactive, hactive]
    rw [select_congr config fun e => and_congr_left' hother.mem_iff]
  -- Each rule is met in the one case in which it is the one that selects.
  have hselects := select_selects config (trackedIds outline) batch
  refine ⟨?_, ?_, ?_, hperm batch, fun layout observations h => hperm _ _ (layout.perm_takeRecords h)⟩
  · rintro ⟨shown, hshown, hview⟩
    constructor
    · generalize select config (trackedIds outline) batch = selected at hselects
      cases hselects with
      | inView entry first => exact ⟨entry, first⟩
      | near entry outOfView => exact absurd hview (by simp [outOfView shown hshown])
      | nothing outOfView => exact absurd hview (by simp [outOfView shown hshown])
    · intro entry first
      rw [hactive, select_eq_iff.2 (.inView entry first)]
      rfl
  · intro hout ⟨shown, hshown, hnear⟩
    constructor
    · generalize select config (trackedIds outline) batch = selected at hselects
      cases hselects with
      | inView entry first => exact absurd first.qualifies (by simp [hout entry first.reported])
      | near entry outOfView first => exact ⟨entry, first⟩
      | nothing outOfView below =>
          have hbelow : near shown = false := below shown hshown
          exact absurd hnear (by simp [hbelow])
    · intro entry first
      rw [hactive, select_eq_iff.2 (.near entry hout first)]
      rfl
  · intro hout hbelow
    rw [hactive, select_eq_iff.2 (.nothing hout hbelow)]
    rfl

end Outcome

/-- Reports with both headings of the short page at its top, the second one at the
negative zero and once more at no number, and with a heading that is not in the
outline. -/
def crowdedBatch : List (VisibilityEntry Binary64) :=
  [⟨"a", true, .ofNat 0⟩, ⟨"z", true, .neg (.ofNat 7)⟩, ⟨"b", true, .neg (.ofNat 0)⟩,
    ⟨"b", true, .nan⟩]

/-- In every order of the crowded batch the heading at the negative zero comes first. -/
theorem activeId_handleBatch_crowded :
    attachedAfter shortOutline ([] : List (Event (ScrollLayout Binary64) Binary64)) =
        some shortOutline ∧
      (reached shortPage shortOutline .default []).isObserving = true ∧
      ∀ other : List (VisibilityEntry Binary64), other.Perm crowdedBatch →
        ((reached shortPage shortOutline .default []).handleBatch other).activeId = some "b" := by
  have hlive : (reached shortPage shortOutline .default []).isObserving = true := by
    decide +kernel
  refine ⟨rfl, hlive, ?_⟩
  intro other hother
  rw [(activeId_handleBatch shortPage shortOutline .default [] rfl hlive crowdedBatch).2.2.2.1
    other hother]
  decide +kernel

/-- An outline whose first heading has no id. -/
def unnamedOutline : List TocEntry := [⟨"A", 1, "", []⟩, ⟨"B", 1, "b", []⟩]

/-- A heading with an empty id is in the outline but not tracked: its report in view, the
only one in the batch, does not make it active. -/
theorem activeId_handleBatch_unnamed :
    let batch : List (VisibilityEntry Binary64) := [⟨"", true, .ofNat 120⟩]
    let t := reached shortPage unnamedOutline .default []
    t.isObserving = true ∧
      (∃ entry ∈ batch, entry.id ∈ flattenIds unnamedOutline ∧ entry.isIntersecting = true) ∧
      ∀ entry ∈ batch, (t.handleBatch batch).activeId ≠ some entry.id := by
  decide +kernel

end Tracker

end PostPress
