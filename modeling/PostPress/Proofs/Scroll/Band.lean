import Mathlib.Algebra.Order.Field.Basic
import Mathlib.Algebra.Order.Ring.Unbundled.Rat
import Mathlib.Order.Interval.Set.Basic
import Mathlib.Tactic.Linarith
import PostPress.Scroll.Band

/-!
# PostPress.Proofs.Scroll.Band

**How much of a region lies in a band**, where arithmetic is exact. The share of a region that
is measured is the length of what it has in common with the band, by its height; it needs no
clamping (`ObservationBand.measure_is_share`). A region is in view exactly if its share is not
zero, so the number of thresholds crossed rises with the share (`ObservationBand.bucket_mono`).

* `HasLength` — the length of an interval, which may be empty;
* `ObservationBand.span` — the points of a band;
* `ObservationBand.overlap` — the length of what a region and a band have in common.
-/

namespace PostPress

/-! ### Exact coordinates -/

namespace Coordinate

theorem zero_rat : (zero : Rat) = 0 := by decide +kernel

theorem one_rat : (one : Rat) = 1 := by decide +kernel

theorem max_rat (a b : Rat) : Coordinate.max a b = Max.max a b := by
  rw [max_comm, max_def_lt]
  show (if decide (b < a) = true then a else b) = _
  simp only [decide_eq_true_eq]

theorem min_rat (a b : Rat) : Coordinate.min a b = Min.min a b := by
  rw [min_def_lt]
  show (if decide (a < b) = true then a else b) = _
  simp only [decide_eq_true_eq]

/-- A share needs no clamping. -/
theorem clampUnit_rat {a : Rat} (hzero : 0 ≤ a) (hone : a ≤ 1) : clampUnit a = a := by
  rw [clampUnit, zero_rat, one_rat]
  show (if decide (a < 0) = true then _ else if decide (1 < a) = true then _ else _) = _
  rw [decide_eq_false (not_lt.2 hzero), decide_eq_false (not_lt.2 hone)]
  rfl

end Coordinate

/-! ### Lengths -/

/-- A set of points is an interval of this length. An empty one has no length. -/
def HasLength (points : Set Rat) (length : Rat) : Prop :=
  ∃ first last, points = Set.Icc first last ∧ length = max (last - first) 0

theorem hasLength_Icc_iff {first last length : Rat} :
    HasLength (Set.Icc first last) length ↔ length = max (last - first) 0 := by
  refine ⟨?_, fun h => ⟨first, last, rfl, h⟩⟩
  rintro ⟨first', last', hsame, rfl⟩
  by_cases hle : first ≤ last
  · obtain ⟨rfl, rfl⟩ := (Set.Icc_eq_Icc_iff hle).1 hsame
    rfl
  · have hempty := hsame ▸ Set.Icc_eq_empty hle
    have hle' : ¬first' ≤ last' := Set.Icc_eq_empty_iff.1 hempty
    rw [max_eq_right (sub_nonpos.2 (not_le.1 hle).le),
      max_eq_right (sub_nonpos.2 (not_le.1 hle').le)]

namespace ObservationBand

variable (band : ObservationBand Rat) (top height viewportHeight : Rat)

/-- The points of a band. -/
def span : Set Rat := Set.Icc (band.edges viewportHeight).1 (band.edges viewportHeight).2

/-- The edges of a band are never inverted, whatever the insets. -/
theorem edges_le : (band.edges viewportHeight).1 ≤ (band.edges viewportHeight).2 := by
  rw [edges, Coordinate.max_rat]
  exact le_max_right _ _

/-- The length of what a region and a band have in common. -/
def overlap : Rat :=
  max (min (top + height) (band.edges viewportHeight).2 - max top (band.edges viewportHeight).1) 0

theorem hasLength_overlap_iff {length : Rat} :
    HasLength (Set.Icc top (top + height) ∩ band.span viewportHeight) length ↔
      length = band.overlap top height viewportHeight := by
  rw [span, Set.Icc_inter_Icc]
  exact hasLength_Icc_iff

theorem overlap_nonneg : 0 ≤ band.overlap top height viewportHeight := le_max_right _ _

variable {height}

theorem overlap_le (h : 0 ≤ height) : band.overlap top height viewportHeight ≤ height := by
  refine max_le ?_ h
  have hbottom := min_le_left (top + height) (band.edges viewportHeight).2
  have htop := le_max_left top (band.edges viewportHeight).1
  linarith

theorem overlap_eq_iff (h : 0 < height) : band.overlap top height viewportHeight = height ↔
    Set.Icc top (top + height) ⊆ band.span viewportHeight := by
  rw [span, Set.Icc_subset_Icc_iff (le_add_of_nonneg_right h.le), overlap]
  generalize band.edges viewportHeight = edges
  have hfirst := le_max_left top edges.1
  have hlast := min_le_left (top + height) edges.2
  constructor
  · intro heq
    have hpos : 0 < min (top + height) edges.2 - max top edges.1 :=
      (lt_max_iff.1 (h.trans_eq heq.symm)).resolve_right (lt_irrefl 0)
    rw [max_eq_left hpos.le] at heq
    have hinside := le_max_right top edges.1
    have hinside' := min_le_right (top + height) edges.2
    exact ⟨by linarith, by linarith⟩
  · rintro ⟨hinside, hinside'⟩
    rw [max_eq_left hinside, min_eq_left hinside', add_sub_cancel_left, max_eq_left h.le]

/-- A region with a height is measured by the share of it that lies in the band. -/
theorem measure_of_pos (h : 0 < height) : band.measure top height viewportHeight =
    ⟨decide (0 < band.overlap top height viewportHeight),
      band.overlap top height viewportHeight / height⟩ := by
  have hnonneg := div_nonneg (band.overlap_nonneg top height viewportHeight) h.le
  have hone := (div_le_one h).2 (band.overlap_le top viewportHeight h.le)
  rw [← Coordinate.clampUnit_rat hnonneg hone, overlap]
  simp only [measure, Coordinate.zero_rat, Coordinate.max_rat, Coordinate.min_rat]
  rw [max_eq_left h.le]
  exact if_neg fun hle => not_le.2 h (of_decide_eq_true hle)

/-- A region without height is measured like the point of its upper edge. -/
theorem measure_of_nonpos (h : height ≤ 0) :
    let m := band.measure top height viewportHeight
    (m.isIntersecting = true ↔ top ∈ band.span viewportHeight) ∧
      m.ratio = if m.isIntersecting = true then 1 else 0 := by
  have hmeasure : band.measure top height viewportHeight =
      let inside := decide ((band.edges viewportHeight).1 ≤ top) &&
        decide (top ≤ (band.edges viewportHeight).2)
      ⟨inside, if inside = true then 1 else 0⟩ := by
    simp only [measure, Coordinate.zero_rat, Coordinate.one_rat]
    exact if_pos (decide_eq_true h)
  rw [hmeasure]
  refine ⟨?_, rfl⟩
  rw [Bool.and_eq_true, decide_eq_true_eq, decide_eq_true_eq]
  rfl

/-- A region is in view exactly if its share is not zero. -/
theorem isIntersecting_iff (height : Rat) :
    (band.measure top height viewportHeight).isIntersecting = true ↔
      0 < (band.measure top height viewportHeight).ratio := by
  rcases lt_or_ge 0 height with h | h
  · rw [band.measure_of_pos top viewportHeight h, decide_eq_true_eq]
    exact (div_pos_iff_of_pos_right h).symm
  · rw [(band.measure_of_nonpos top viewportHeight h).2]
    split
    · next hin => exact iff_of_true hin one_pos
    · next hout => exact iff_of_false hout (lt_irrefl 0)

/-- The number of thresholds crossed rises with the share, as long as a region does not leave
the band. -/
theorem bucket_mono {m m' : Measurement Rat}
    (hview : m.isIntersecting = true → m'.isIntersecting = true) (hratio : m.ratio ≤ m'.ratio) :
    band.bucket m ≤ band.bucket m' := by
  refine List.countP_mono_left fun threshold _ hcrossed => ?_
  obtain ⟨hreached, hcounts⟩ := Bool.and_eq_true_iff.1 hcrossed
  refine Bool.and_eq_true_iff.2 ⟨decide_eq_true ((of_decide_eq_true hreached).trans hratio), ?_⟩
  exact Bool.or_eq_true_iff.2 ((Bool.or_eq_true_iff.1 hcounts).imp_right hview)

/-- **A measurement is the share of a region that lies in the band.** The edges of the band are
never inverted. A region with a height has the length that it has in common with the band, by its
height, as its share, which is between zero and one as it is: all of it is one, and only what
lies in the band counts as in view. A region without height is in the band or not as its upper
edge is. The greater the share, the more thresholds are crossed, between two measurements as well
as between two shares that are both in view, or both not. -/
theorem measure_is_share (height : Rat) :
    let edges := band.edges viewportHeight
    let m := band.measure top height viewportHeight
    edges.1 ≤ edges.2 ∧
    (0 < height →
      (∀ length, HasLength (Set.Icc top (top + height) ∩ Set.Icc edges.1 edges.2) length ↔
        length / height = m.ratio) ∧
      0 ≤ m.ratio ∧ m.ratio ≤ 1 ∧
      (m.isIntersecting = true ↔ 0 < m.ratio) ∧
      (m.ratio = 1 ↔ Set.Icc top (top + height) ⊆ Set.Icc edges.1 edges.2)) ∧
    (height ≤ 0 →
      (m.isIntersecting = true ↔ top ∈ Set.Icc edges.1 edges.2) ∧
      m.ratio = if m.isIntersecting = true then 1 else 0) ∧
    (∀ top' height' viewportHeight',
      let m' := band.measure top' height' viewportHeight'
      m.ratio ≤ m'.ratio → band.bucket m ≤ band.bucket m') ∧
    ∀ inView ratio ratio', ratio ≤ ratio' →
      band.bucket ⟨inView, ratio⟩ ≤ band.bucket ⟨inView, ratio'⟩ := by
  refine ⟨band.edges_le viewportHeight, fun h => ?_, band.measure_of_nonpos top viewportHeight,
    fun top' height' viewportHeight' hratio => ?_, fun _ _ _ hratio => band.bucket_mono id hratio⟩
  · have hview := band.isIntersecting_iff top viewportHeight height
    rw [band.measure_of_pos top viewportHeight h] at hview ⊢
    refine ⟨fun length => ?_, ?_, ?_, hview, ?_⟩
    · rw [div_left_inj' h.ne']
      exact band.hasLength_overlap_iff top height viewportHeight
    · exact div_nonneg (band.overlap_nonneg top height viewportHeight) h.le
    · exact (div_le_one h).2 (band.overlap_le top viewportHeight h.le)
    · rw [div_eq_one_iff_eq h.ne']
      exact band.overlap_eq_iff top viewportHeight h
  · refine band.bucket_mono (fun hin => ?_) hratio
    rw [isIntersecting_iff] at hin ⊢
    exact hin.trans_le hratio

/-- A heading of which half stands out below the header. -/
example : (default.measure 80 40 1000 : Measurement Rat) = ⟨true, 1 / 2⟩ := by
  decide +kernel

end ObservationBand

end PostPress
