import Mathlib.Data.List.Basic
import Mathlib.Data.Rat.Lemmas
import PostPress.Scroll.Tracker

/-!
# PostPress.Proofs.Scroll.Selection

**Which heading a batch selects.** Only reports of tracked headings count. Of those
in view the one that comes first by its top and its position in the document is
selected; if none is in view, of those at or above the activation offset the one
nearest the anchor; otherwise none.

* `leastBy_spec` — the first of the least elements of a list;
* `Tracker.Selects` — the three ways in which a batch selects, as a relation;
* `Tracker.select_selects` — the tracker selects in one of these ways.
-/

namespace PostPress

universe u v

namespace Tracker

/-! ### The least element of a list -/

theorem leastBy_eq_none_iff {α : Type v} {cmp : α → α → Ordering} {items : List α} :
    leastBy cmp items = none ↔ items = [] := by
  cases items with
  | nil => simp [leastBy]
  | cons a rest =>
      unfold leastBy
      split
      · simp
      · split <;> simp

theorem mem_of_leastBy {α : Type v} {cmp : α → α → Ordering} {items : List α} {a : α}
    (h : leastBy cmp items = some a) : a ∈ items := by
  induction items generalizing a with
  | nil => simp [leastBy] at h
  | cons first rest ih =>
      unfold leastBy at h
      split at h
      · obtain rfl := Option.some.inj h
        exact List.mem_cons_self
      · next b hrest =>
        split at h
        · exact List.mem_cons_of_mem _ (ih (hrest.trans h))
        · obtain rfl := Option.some.inj h
          exact List.mem_cons_self

/-- The least element is one of the list, and none of the list is less. -/
theorem leastBy_spec {α : Type v} {cmp : α → α → Ordering} [Std.TransCmp cmp] {items : List α}
    {a : α} (h : leastBy cmp items = some a) :
    a ∈ items ∧ ∀ b ∈ items, (cmp a b).isLE = true := by
  have hrefl : ∀ x, (cmp x x).isLE = true := fun x => by
    rw [@Std.ReflCmp.compare_self _ cmp _ x]
    rfl
  induction items generalizing a with
  | nil => simp [leastBy] at h
  | cons first rest ih =>
      unfold leastBy at h
      cases hrest : leastBy cmp rest with
      | none =>
          obtain rfl := leastBy_eq_none_iff.1 hrest
          obtain rfl := Option.some.inj h
          simpa using hrefl first
      | some b =>
          obtain ⟨hmem, hleast⟩ := ih hrest
          rw [hrest] at h
          dsimp only at h
          by_cases hgt : cmp first b = .gt
          · rw [if_pos hgt] at h
            obtain rfl := Option.some.inj h
            have hfirst : (cmp b first).isLE = true := by
              rw [@Std.OrientedCmp.eq_swap _ cmp _ b first, hgt]
              rfl
            exact ⟨List.mem_cons_of_mem _ hmem, List.forall_mem_cons.2 ⟨hfirst, hleast⟩⟩
          · rw [if_neg hgt] at h
            obtain rfl := Option.some.inj h
            have hle : (cmp first b).isLE = true := by
              cases hcmp : cmp first b <;> simp_all
            exact ⟨List.mem_cons_self, List.forall_mem_cons.2
              ⟨hrefl first, fun c hc => Std.TransCmp.isLE_trans hle (hleast c hc)⟩⟩

/-! ### The reports that count -/

section Reports

variable {K : Type v} [Coordinate K]

/-- A report of a tracked heading. -/
def Reported (ids : List String) (batch : List (VisibilityEntry K)) (entry : VisibilityEntry K) :
    Prop :=
  entry ∈ batch ∧ entry.id ∈ ids

/-- The order of reports by a measure, then by the position in the document. -/
def order (ids : List String) (measure : VisibilityEntry K → K) (a b : VisibilityEntry K) :
    Ordering :=
  (Coordinate.compare (measure a) (measure b)).then
    (compare (ids.idxOf a.id) (ids.idxOf b.id))

/-- How far a report is from the anchor. -/
def distance (config : TrackerConfig K) (entry : VisibilityEntry K) : K :=
  Coordinate.abs (Coordinate.sub entry.top config.anchorOffset)

/-- An entry that comes first among the reports of tracked headings with a property. -/
structure First (ids : List String) (batch : List (VisibilityEntry K))
    (measure : VisibilityEntry K → K) (counts : VisibilityEntry K → Bool)
    (entry : VisibilityEntry K) : Prop where
  /-- It is a report of a tracked heading. -/
  reported : Reported ids batch entry
  /-- It has the property. -/
  qualifies : counts entry = true
  /-- No other one comes before it. -/
  least : ∀ other, Reported ids batch other → counts other = true →
    (order ids measure entry other).isLE = true

/-- What a batch selects. -/
inductive Selects (config : TrackerConfig K) (ids : List String)
    (batch : List (VisibilityEntry K)) : Option String → Prop
  /-- The heading in view nearest the top. -/
  | inView (entry : VisibilityEntry K)
      (first : First ids batch (·.top) (·.isIntersecting) entry) :
      Selects config ids batch (some entry.id)
  /-- Without a heading in view, the one nearest the anchor. -/
  | near (entry : VisibilityEntry K)
      (outOfView : ∀ other, Reported ids batch other → other.isIntersecting = false)
      (first : First ids batch (distance config)
        (fun entry => Coordinate.le entry.top config.activationOffset) entry) :
      Selects config ids batch (some entry.id)
  /-- Without a heading in view or above the activation offset, none. -/
  | nothing
      (outOfView : ∀ other, Reported ids batch other → other.isIntersecting = false)
      (below : ∀ other, Reported ids batch other →
        Coordinate.le other.top config.activationOffset = false) :
      Selects config ids batch none

/-- The reports of tracked headings, each with its position in the document. -/
def known (ids : List String) (batch : List (VisibilityEntry K)) :
    List (VisibilityEntry K × Nat) :=
  batch.filterMap fun entry => (ids.idxOf? entry.id).map fun i => (entry, i)

omit [Coordinate K] in
theorem mem_known {ids : List String} {batch : List (VisibilityEntry K)}
    {pair : VisibilityEntry K × Nat} :
    pair ∈ known ids batch ↔ Reported ids batch pair.1 ∧ pair.2 = ids.idxOf pair.1.id := by
  obtain ⟨entry, i⟩ := pair
  simp only [known, Reported, List.mem_filterMap, Option.map_eq_some_iff, Prod.mk.injEq]
  constructor
  · rintro ⟨entry, hentry, i, hi, rfl, rfl⟩
    have hidx := List.idxOf_eq_getD_idxOf? entry.id ids
    have hmem : entry.id ∈ ids := by
      by_contra hnot
      rw [List.idxOf?_eq_none_iff.2 hnot] at hi
      exact absurd hi nofun
    rw [hi] at hidx
    exact ⟨⟨hentry, hmem⟩, hidx.symm⟩
  · rintro ⟨⟨hentry, hmem⟩, rfl⟩
    refine ⟨entry, hentry, _, ?_, rfl, rfl⟩
    cases hi : ids.idxOf? entry.id with
    | none => exact absurd hmem (List.idxOf?_eq_none_iff.1 hi)
    | some i => rw [List.idxOf_eq_getD_idxOf?, hi]; rfl

/-- Reports in order are in a transitive order, if the measure is. -/
theorem transCmp_order [Std.TransCmp (Coordinate.compare : K → K → Ordering)]
    (measure : VisibilityEntry K → K) :
    Std.TransCmp fun a b : VisibilityEntry K × Nat =>
      (Coordinate.compare (measure a.1) (measure b.1)).then (compare a.2 b.2) := by
  have hmeasure : Std.TransCmp fun a b : VisibilityEntry K × Nat =>
      Coordinate.compare (measure a.1) (measure b.1) :=
    { eq_swap := Std.OrientedCmp.eq_swap
      isLE_trans := Std.TransCmp.isLE_trans }
  have hposition : Std.TransCmp fun a b : VisibilityEntry K × Nat => compare a.2 b.2 :=
    { eq_swap := Std.OrientedCmp.eq_swap
      isLE_trans := Std.TransCmp.isLE_trans }
  exact inferInstanceAs (Std.TransCmp (compareLex _ _))

/-- The least of the known reports with a property is the first one with it. -/
theorem leastBy_known [Std.TransCmp (Coordinate.compare : K → K → Ordering)] (ids : List String)
    (batch : List (VisibilityEntry K)) (measure : VisibilityEntry K → K)
    (counts : VisibilityEntry K → Bool) :
    match leastBy (fun a b => (Coordinate.compare (measure a.1) (measure b.1)).then
        (compare a.2 b.2)) ((known ids batch).filter fun (entry, _) => counts entry) with
    | some (entry, _) => First ids batch measure counts entry
    | none => ∀ other, Reported ids batch other → counts other = false := by
  have htrans := transCmp_order (K := K) measure
  have hmem : ∀ other, Reported ids batch other → counts other = true →
      (other, ids.idxOf other.id) ∈ (known ids batch).filter fun (entry, _) => counts entry :=
    fun other hother hcounts => List.mem_filter.2 ⟨mem_known.2 ⟨hother, rfl⟩, hcounts⟩
  split
  · next entry i hleast =>
    obtain ⟨hentry, hle⟩ := leastBy_spec hleast
    obtain ⟨hknown, hcounts⟩ := List.mem_filter.1 hentry
    obtain ⟨hreported, hposition⟩ := mem_known.1 hknown
    obtain rfl : i = ids.idxOf entry.id := hposition
    exact ⟨hreported, hcounts, fun other hother h => hle _ (hmem other hother h)⟩
  · next hnone =>
    intro other hother
    by_contra hcounts
    have hother := hmem other hother (by simpa using hcounts)
    rw [leastBy_eq_none_iff.1 hnone] at hother
    exact absurd hother List.not_mem_nil

/-- Only a tracked heading that is reported is selected. -/
theorem reported_of_select {config : TrackerConfig K} {ids : List String}
    {batch : List (VisibilityEntry K)} {id : String} (h : select config ids batch = some id) :
    ∃ entry, Reported ids batch entry ∧ entry.id = id := by
  have hreported : ∀ {pair : VisibilityEntry K × Nat} {counts : VisibilityEntry K × Nat → Bool},
      pair ∈ (known ids batch).filter counts → Reported ids batch pair.1 :=
    fun hpair => (mem_known.1 (List.mem_filter.1 hpair).1).1
  unfold select at h
  dsimp only at h
  split at h
  · next hleast => exact ⟨_, hreported (mem_of_leastBy hleast), Option.some.inj h⟩
  · obtain ⟨pair, hleast, hid⟩ := Option.map_eq_some_iff.1 h
    exact ⟨_, hreported (mem_of_leastBy hleast), hid⟩

/-- **The tracker selects** in one of the three ways. -/
theorem select_selects [Std.TransCmp (Coordinate.compare : K → K → Ordering)]
    (config : TrackerConfig K) (ids : List String) (batch : List (VisibilityEntry K)) :
    Selects config ids batch (select config ids batch) := by
  have htop := leastBy_known ids batch (·.top) (·.isIntersecting)
  have hnear := leastBy_known ids batch (distance config)
    fun entry => Coordinate.le entry.top config.activationOffset
  have hselect : select config ids batch =
      match leastBy (fun a b => (Coordinate.compare a.1.top b.1.top).then (compare a.2 b.2))
          ((known ids batch).filter fun (entry, _) => entry.isIntersecting) with
      | some (entry, _) => some entry.id
      | none => (leastBy (fun a b => (Coordinate.compare (distance config a.1)
          (distance config b.1)).then (compare a.2 b.2))
          ((known ids batch).filter fun (entry, _) =>
            Coordinate.le entry.top config.activationOffset)).map fun (entry, _) => entry.id := rfl
  rw [hselect]
  split at htop
  · next entry _ _ => exact .inView entry htop
  · split at hnear
    · next entry _ hleast =>
      rw [hleast]
      exact .near entry htop hnear
    · next hnone =>
      rw [hnone]
      exact .nothing htop hnear

end Reports

end Tracker

end PostPress
