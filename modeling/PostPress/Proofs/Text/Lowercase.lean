import PostPress.Proofs.Text.CodePoint
import PostPress.Text.Alphanumeric
import PostPress.Text.Lowercase

/-!
# PostPress.Proofs.Text.Lowercase

**Lower case is final.** Except for the dotted capital I, the lower-case form of a letter or
digit is one letter or digit, which is its own lower-case form (`lowercase_of_isAlphanumeric`).

The tables are compared range by range: the images of a run lie in one range of letters and
digits (`covers`), and none of them is a member of a run itself (`avoids`).
-/

namespace PostPress.Text

/-! ### Runs -/

/-- Whether a table moves none of the code points from one to another that are some steps
behind the first: they stand between the runs, or in between the members of one. -/
def avoids : List (Nat × Nat × Nat × Nat) → Nat → Nat → Nat → Bool
  | [], _, _, _ => true
  | (first, last, distance, _) :: rest, low, high, step =>
      bif high.blt first then true
      else bif last.blt low then avoids rest low high step
      else distance.beq 2 && (step.beq 2 || low.beq high) && ((low + first) % 2).beq 1 &&
        avoids rest low high step

theorem imageIn_of_avoids {table : List (Nat × Nat × Nat × Nat)} {low high step code : Nat}
    (h : avoids table low high step = true) (hlow : low ≤ code) (hhigh : code ≤ high)
    (hstep : (code - low) % step = 0) : imageIn table code = code := by
  induction table with
  | nil => rfl
  | cons run rest ih =>
      obtain ⟨first, last, distance, image⟩ := run
      rw [imageIn]
      split
      · rfl
      next hfirst =>
        simp only [avoids, Bool.cond_eq_ite, Nat.blt_eq] at h
        rw [if_neg (by omega)] at h
        split at h
        · rw [if_neg (by omega)]
          exact ih h
        · simp only [Bool.and_eq_true, Bool.or_eq_true, Nat.beq_eq] at h
          obtain ⟨⟨⟨rfl, hsame⟩, hodd⟩, hrest⟩ := h
          have hbetween : ¬(code ≤ last ∧ (code - first) % 2 = 0) := by
            rcases hsame with rfl | rfl <;> omega
          rw [if_neg hbetween]
          exact ih hrest

/-- A code point that a table moves is a member of one of its runs. -/
theorem imageIn_eq_or (table : List (Nat × Nat × Nat × Nat)) (code : Nat) :
    imageIn table code = code ∨ ∃ first last step image, (first, last, step, image) ∈ table ∧
      first ≤ code ∧ code ≤ last ∧ (code - first) % step = 0 ∧
        imageIn table code = image + (code - first) := by
  induction table with
  | nil => exact .inl rfl
  | cons run rest ih =>
      obtain ⟨first, last, step, image⟩ := run
      rw [imageIn]
      split
      · exact .inl rfl
      next hfirst =>
        split
        · next hrun =>
            exact .inr ⟨first, last, step, image, List.mem_cons_self, Nat.le_of_not_lt hfirst,
              hrun.1, hrun.2, rfl⟩
        · exact ih.imp_right fun ⟨first, last, step, image, hrun, himage⟩ =>
            ⟨first, last, step, image, List.mem_cons_of_mem _ hrun, himage⟩

/-! ### The tables -/

/-- Whether the images of a run are letters and stay, and the dotted capital I is none of them. -/
def isFinalRun : Nat × Nat × Nat × Nat → Bool
  | (first, last, step, image) =>
      let high := image + (last - first)
      avoids lowercaseRuns image high step && covers alphanumericRanges image high &&
        (high.blt 0x130 || Nat.blt 0x130 image) &&
        (high.blt 0xD800 || Nat.blt 0xDFFF image && high.blt 0x110000)

theorem isFinalRun_lowercaseRuns : lowercaseRuns.all isFinalRun = true := by
  decide +kernel

/-- What the table moves, it moves to a letter or digit that it does not move again. -/
theorem imageIn_lowercaseRuns (code : Nat) :
    imageIn lowercaseRuns code = code ∨
      (imageIn lowercaseRuns code).isValidChar ∧ imageIn lowercaseRuns code ≠ 0x130 ∧
        inRanges alphanumericRanges (imageIn lowercaseRuns code) = true ∧
        imageIn lowercaseRuns (imageIn lowercaseRuns code) = imageIn lowercaseRuns code := by
  refine (imageIn_eq_or lowercaseRuns code).imp_right ?_
  rintro ⟨first, last, step, image, hrun, hfirst, hlast, hstep, himage⟩
  have hfinal := List.all_eq_true.1 isFinalRun_lowercaseRuns _ hrun
  simp only [isFinalRun, Bool.and_eq_true, Bool.or_eq_true, Nat.blt_eq] at hfinal
  obtain ⟨⟨⟨hstays, hmember⟩, hdotted⟩, hvalid⟩ := hfinal
  have hlow : image ≤ image + (code - first) := Nat.le_add_right _ _
  have hhigh : image + (code - first) ≤ image + (last - first) := by omega
  rw [himage]
  refine ⟨?_, by omega, inRanges_of_covers hmember hlow hhigh, ?_⟩
  · rw [Nat.isValidChar]
    omega
  · exact imageIn_of_avoids hstays hlow hhigh (by rwa [Nat.add_sub_cancel_left])

/-- In ASCII the table moves the capitals. -/
theorem imageIn_lowercaseRuns_ascii :
    ∀ code < 0x80, (Char.ofNat code).toLower = Char.ofNat (imageIn lowercaseRuns code) := by
  decide +kernel

/-! ### Characters -/

theorem lowercase_of_ne {c : Char} (hdotted : c ≠ '\u0130') :
    lowercase c = [Char.ofNat (imageIn lowercaseRuns c.toNat)] := by
  rw [lowercase, if_neg hdotted]
  split
  · next hascii => rw [← imageIn_lowercaseRuns_ascii _ hascii, Char.ofNat_toNat]
  · rfl

theorem lowercase_of_isAlphanumeric {c : Char} (hdotted : c ≠ '\u0130')
    (hc : isAlphanumeric c = true) :
    ∃ d, lowercase c = [d] ∧ isAlphanumeric d = true ∧ lowercase d = [d] := by
  rcases imageIn_lowercaseRuns c.toNat with hstays | ⟨hvalid, hne, hmember, hstays⟩
  · have hlower : lowercase c = [c] := by rw [lowercase_of_ne hdotted, hstays, Char.ofNat_toNat]
    exact ⟨c, hlower, hc, hlower⟩
  · have hcode : (Char.ofNat (imageIn lowercaseRuns c.toNat)).toNat =
        imageIn lowercaseRuns c.toNat := by
      rw [Char.ofNat, dif_pos hvalid]
      rfl
    refine ⟨_, lowercase_of_ne hdotted, by rwa [isAlphanumeric, hcode], ?_⟩
    rw [lowercase_of_ne, hcode, hstays]
    intro heq
    exact hne (hcode ▸ heq ▸ rfl)

end PostPress.Text
