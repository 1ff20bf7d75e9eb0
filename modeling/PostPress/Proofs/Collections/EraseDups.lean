import Mathlib.Data.List.Basic

/-!
# PostPress.Proofs.Collections.EraseDups

**Lists without repetitions.** `List.eraseDups` keeps the first of several equal entries.
Its recursion takes out, with an entry, all that are equal to it (`eraseDups_induction`).
So it commutes with a choice of entries (`eraseDups_filter`), and with a function that
takes no two entries to one (`eraseDups_filterMap`).
-/

namespace PostPress

universe u v

variable {α : Type u} {β : Type v} [BEq α] [LawfulBEq α] [BEq β] [LawfulBEq β]

omit [LawfulBEq α] in
/-- Induction along `List.eraseDups`: an entry comes before the others that differ from
it. -/
theorem eraseDups_induction {motive : List α → Prop} (nil : motive [])
    (cons : ∀ entry rest, motive (rest.filter (!· == entry)) → motive (entry :: rest))
    (entries : List α) : motive entries := by
  obtain ⟨size, hsize⟩ : ∃ size, entries.length ≤ size := ⟨_, Nat.le_refl _⟩
  induction size generalizing entries with
  | zero =>
      obtain rfl := List.eq_nil_of_length_eq_zero (Nat.le_zero.1 hsize)
      exact nil
  | succ size ih =>
      cases entries with
      | nil => exact nil
      | cons entry rest =>
          refine cons entry rest (ih _ ?_)
          exact Nat.le_trans (List.length_filter_le ..) (Nat.le_of_succ_le_succ hsize)

theorem nodup_eraseDups (entries : List α) : entries.eraseDups.Nodup := by
  induction entries using eraseDups_induction with
  | nil => exact .nil
  | cons entry rest ih =>
      rw [List.eraseDups_cons]
      refine List.nodup_cons.2 ⟨fun hmem => ?_, ih⟩
      have hne := (List.mem_filter.1 (List.mem_eraseDups.1 hmem)).2
      rw [beq_self_eq_true] at hne
      exact Bool.false_ne_true hne

/-- A choice of entries may be made before or after. -/
theorem eraseDups_filter (keep : α → Bool) (entries : List α) :
    (entries.filter keep).eraseDups = entries.eraseDups.filter keep := by
  induction entries using eraseDups_induction with
  | nil => rfl
  | cons entry rest ih =>
      rw [List.filter_filter] at ih
      rw [List.eraseDups_cons, List.filter_cons, List.filter_cons]
      split
      · rw [List.eraseDups_cons, List.filter_filter, ← ih]
        simp only [Bool.and_comm]
      · next hdropped =>
          rw [← ih]
          refine congrArg List.eraseDups (List.filter_congr fun other _ => ?_)
          by_cases hsame : other = entry
          · simp [hsame, hdropped]
          · simp [hsame]

/-- So may a function be applied that takes no two entries to one. -/
theorem eraseDups_filterMap {f : α → Option β}
    (hf : ∀ a b value, f a = some value → f b = some value → a = b) (entries : List α) :
    (entries.filterMap f).eraseDups = entries.eraseDups.filterMap f := by
  induction entries using eraseDups_induction with
  | nil => rfl
  | cons entry rest ih =>
      rw [List.filterMap_filter] at ih
      rw [List.eraseDups_cons]
      cases hentry : f entry with
      | none =>
          rw [List.filterMap_cons_none hentry, List.filterMap_cons_none hentry, ← ih]
          refine congrArg List.eraseDups (List.filterMap_congr fun other _ => ?_)
          by_cases hsame : other = entry
          · simp [hsame, hentry]
          · simp [hsame]
      | some value =>
          rw [List.filterMap_cons_some hentry, List.filterMap_cons_some hentry,
            List.eraseDups_cons, ← ih, List.filter_filterMap]
          refine congrArg (fun others => value :: List.eraseDups others)
            (List.filterMap_congr fun other _ => ?_)
          by_cases hsame : other = entry
          · simp [hsame, hentry]
          · cases hother : f other with
            | none => simp [hsame]
            | some result =>
                have hne : result ≠ value := fun h => hsame (hf _ _ _ (h ▸ hother) hentry)
                simp [hsame, hne]

end PostPress
