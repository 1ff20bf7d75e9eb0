import Mathlib.Data.List.Nodup
import Mathlib.Data.List.Perm.Subperm
import PostPress.Heading.Slug

/-!
# PostPress.Proofs.Heading.Slugger

**Ids are handed out once.** What `Slugger.unique` gives was free before
(`unique_fresh`) and is taken afterwards, a free id is given as it is
(`unique_of_free`), and no id is empty.

A taken id has a free numbered form among the first as many numbers as ids are
taken: the id and these forms are more strings than that, and all different.
-/

namespace PostPress

namespace Slugger

@[simp] theorem isFree_iff {s : Slugger} {id : String} : s.isFree id = true ↔ id ∉ s.taken := by
  simp [isFree]

/-! ### Numbered forms -/

theorem numbered_injective {base : String} {i j : Nat} (h : numbered base i = numbered base j) :
    i = j := by
  have hchars := congrArg String.toList h
  simp only [numbered, String.toList_append, Nat.toList_repr] at hchars
  have hnumber := congrArg (fun digits => Nat.ofDigitChars 10 digits 0)
    (List.append_cancel_left hchars)
  simpa using hnumber

theorem numbered_ne_base {base : String} {n : Nat} : numbered base n ≠ base := by
  intro h
  have hlength := congrArg String.length h
  simp only [numbered, String.length_append] at hlength
  have hmark : "-".length = 1 := rfl
  omega

theorem numbered_ne_empty {base : String} {n : Nat} : numbered base n ≠ "" := by
  intro h
  have hlength := congrArg String.length h
  simp only [numbered, String.length_append, String.length_empty] at hlength
  have hmark : "-".length = 1 := rfl
  omega

/-- A taken id has a free numbered form. -/
theorem exists_free_numbered {s : Slugger} {base : String} (h : base ∈ s.taken) :
    ∃ n ∈ List.range' 1 s.taken.length, s.isFree (numbered base n) = true := by
  by_contra hnone
  have hforms : ∀ n ∈ List.range' 1 s.taken.length, numbered base n ∈ s.taken := by
    intro n hn
    by_contra hfree
    exact hnone ⟨n, hn, isFree_iff.2 hfree⟩
  have hnodup : (base :: (List.range' 1 s.taken.length).map (numbered base)).Nodup := by
    refine List.nodup_cons.2 ⟨fun hmem => ?_, ?_⟩
    · obtain ⟨n, -, hn⟩ := List.mem_map.1 hmem
      exact numbered_ne_base hn
    · exact List.Nodup.map (fun _ _ => numbered_injective) List.nodup_range'
  have hsubset : base :: (List.range' 1 s.taken.length).map (numbered base) ⊆ s.taken := by
    intro id hid
    rcases List.mem_cons.1 hid with rfl | hid
    · exact h
    · obtain ⟨n, hn, rfl⟩ := List.mem_map.1 hid
      exact hforms n hn
  have hlength := (hnodup.subperm hsubset).length_le
  rw [List.length_cons, List.length_map, List.length_range'] at hlength
  omega

theorem numbered_firstFree_fresh {s : Slugger} {base : String} (h : base ∈ s.taken) :
    numbered base (s.firstFree base) ∉ s.taken := by
  obtain ⟨n, hn⟩ := Option.isSome_iff_exists.1 (List.find?_isSome.2 (exists_free_numbered h))
  rw [firstFree, hn, Option.getD_some]
  have hfree : s.isFree (numbered base n) = true :=
    List.find?_some (p := fun n => s.isFree (numbered base n)) hn
  exact isFree_iff.1 hfree

/-! ### Taking an id -/

theorem unique_of_free {s : Slugger} {base : String} (h : base ∉ s.taken) :
    s.unique base = (base, s.take base) := by
  simp [unique, h]

theorem unique_of_taken {s : Slugger} {base : String} (h : base ∈ s.taken) :
    s.unique base =
      (numbered base (s.firstFree base), s.take (numbered base (s.firstFree base))) := by
  simp [unique, h]

theorem taken_unique (s : Slugger) (base : String) :
    (s.unique base).2.taken = (s.unique base).1 :: s.taken := rfl

/-- The id that is given was free. -/
theorem unique_fresh (s : Slugger) (base : String) : (s.unique base).1 ∉ s.taken := by
  by_cases h : base ∈ s.taken
  · rw [unique_of_taken h]
    exact numbered_firstFree_fresh h
  · rw [unique_of_free h]
    exact h

theorem unique_ne_empty {s : Slugger} {base : String} (h : base ≠ "") : (s.unique base).1 ≠ "" := by
  by_cases ht : base ∈ s.taken
  · rw [unique_of_taken ht]
    exact numbered_ne_empty
  · rw [unique_of_free ht]
    exact h

/-- The id that a slug starts from: something stands in for an empty one. -/
def slugBase (text : String) : String := if slugify text = "" then emptySlug else slugify text

theorem slug_eq (s : Slugger) (text : String) : s.slug text = s.unique (slugBase text) := rfl

theorem slugBase_ne_empty (text : String) : slugBase text ≠ "" := by
  rw [slugBase]
  split
  · decide
  · assumption

end Slugger

end PostPress
