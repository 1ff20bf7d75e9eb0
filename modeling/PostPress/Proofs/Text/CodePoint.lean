import PostPress.Text.CodePoint

/-!
# PostPress.Proofs.Text.CodePoint

**Whole ranges of code points at once.** What a table says about a range is checked on the ends of
ranges alone.

* `covers` — all code points of a range are in a table (`inRanges_of_covers`);
* `misses` — none of them is (`inRanges_of_misses`), so that two tables are seen to be disjoint
  (`inRanges_of_all_misses`).
-/

namespace PostPress.Text

/-- Whether code points from one to another lie in the same range of a table. -/
def covers : List (Nat × Nat) → Nat → Nat → Bool
  | [], _, _ => false
  | (first, last) :: rest, low, high =>
      bif low.blt first then false
      else bif low.ble last then high.ble last
      else covers rest low high

theorem inRanges_of_covers {ranges : List (Nat × Nat)} {low high code : Nat}
    (h : covers ranges low high = true) (hlow : low ≤ code) (hhigh : code ≤ high) :
    inRanges ranges code = true := by
  induction ranges with
  | nil => exact absurd h Bool.false_ne_true
  | cons range rest ih =>
      obtain ⟨first, last⟩ := range
      simp only [covers, Bool.cond_eq_ite, Nat.blt_eq, Nat.ble_eq] at h
      split at h
      · exact absurd h Bool.false_ne_true
      next hfirst =>
        rw [inRanges, if_neg (by omega)]
        split at h
        · next hlast =>
            rw [Nat.ble_eq] at h
            rw [if_pos (by omega)]
        · split
          · rfl
          · exact ih h

/-- Whether no code point from one to another lies in a table. -/
def misses : List (Nat × Nat) → Nat → Nat → Bool
  | [], _, _ => true
  | (first, last) :: rest, low, high =>
      bif high.blt first then true
      else last.blt low && misses rest low high

theorem inRanges_of_misses {ranges : List (Nat × Nat)} {low high code : Nat}
    (h : misses ranges low high = true) (hlow : low ≤ code) (hhigh : code ≤ high) :
    inRanges ranges code = false := by
  induction ranges with
  | nil => rfl
  | cons range rest ih =>
      obtain ⟨first, last⟩ := range
      simp only [misses, Bool.cond_eq_ite, Nat.blt_eq] at h
      rw [inRanges]
      split
      · rfl
      · next hfirst =>
          rw [if_neg (by omega), Bool.and_eq_true, Nat.blt_eq] at h
          rw [if_neg (by omega)]
          exact ih h.2

/-- Tables are disjoint if one of them misses every range of the other. -/
theorem inRanges_of_all_misses {table ranges : List (Nat × Nat)} {code : Nat}
    (h : table.all (fun range => misses ranges range.1 range.2) = true)
    (hcode : inRanges table code = true) : inRanges ranges code = false := by
  induction table with
  | nil => exact absurd hcode Bool.false_ne_true
  | cons range rest ih =>
      rw [List.all_cons, Bool.and_eq_true] at h
      rw [inRanges] at hcode
      split at hcode
      · exact absurd hcode Bool.false_ne_true
      · next hfirst =>
          split at hcode
          · next hlast => exact inRanges_of_misses h.1 (Nat.le_of_not_lt hfirst) hlast
          · exact ih h.2 hcode

end PostPress.Text
