import Mathlib.Data.List.Infix
import PostPress.Command.Storage
import PostPress.Proofs.Collections.NameMap
import PostPress.Proofs.Text.Pieces

/-!
# PostPress.Proofs.Command.Storage

**Writing a file moves no other one.** The directories of a workspace are those that files are
in, so a new file could make directories, and then paths would lead elsewhere. It does not: a
path leads to a file only through directories that are there already (`follow_spec`), hence
after a write the same lists of parts are directories (`isDirectory_of_write?`) and every path
leads where it led (`locate_of_write?`). What a path reads after the write is the new text if
it leads to the file that was written, and what it was before if not (`read?_of_write?`).

* `Workspace.stem` — what the names of all files in a directory begin with.
-/

namespace PostPress.Command.Workspace

variable {w after : Workspace} {path text name part : String}
  {directory file : List String}

/-! ### Names of files and of directories -/

/-- What the names of the files in a directory begin with. -/
def stem (directory : List String) : List Char :=
  directory.flatMap fun part => part.toList ++ ['/']

@[simp] theorem stem_nil : stem [] = [] := rfl

theorem stem_concat (directory : List String) (part : String) :
    stem (directory ++ [part]) = stem directory ++ part.toList ++ ['/'] := by
  simp [stem]

theorem stem_of_ne_nil (h : directory ≠ []) :
    stem directory = (fileName directory ++ "/").toList := by
  rw [String.toList_append, fileName, String.toList_intercalate]
  induction directory with
  | nil => exact absurd rfl h
  | cons part rest ih =>
      cases rest with
      | nil => simp [stem]
      | cons other rest =>
          rw [List.map_cons, List.map_cons, List.intercalate_cons_cons, ← List.map_cons,
            List.append_assoc, ← ih (List.cons_ne_nil _ _)]
          simp [stem]

theorem toList_fileName_concat (directory : List String) (part : String) :
    (fileName (directory ++ [part])).toList = stem directory ++ part.toList := by
  have hne : directory ++ [part] ≠ [] := by simp
  have hstem := stem_of_ne_nil hne
  rw [stem_concat, String.toList_append] at hstem
  exact (List.append_cancel_right hstem).symm

theorem isDirectory_iff :
    w.isDirectory directory = true ↔
      directory = [] ∨ ∃ name ∈ w.files.names, stem directory <+: name.toList := by
  cases directory with
  | nil => simp [isDirectory]
  | cons part rest =>
      rw [stem_of_ne_nil (List.cons_ne_nil part rest)]
      simp only [isDirectory, List.isEmpty_cons, Bool.false_or, List.any_eq_true,
        List.isPrefixOf_iff_prefix, reduceCtorEq, false_or]

@[simp] theorem isDirectory_nil : w.isDirectory [] = true := isDirectory_iff.2 (.inl rfl)

/-- What a directory is in is a directory. -/
theorem isDirectory_dropLast (h : w.isDirectory directory = true) :
    w.isDirectory directory.dropLast = true := by
  rcases List.eq_nil_or_concat' directory with rfl | ⟨front, part, rfl⟩
  · exact h
  · rw [List.dropLast_concat]
    obtain hnil | ⟨name, hname, hstem⟩ := isDirectory_iff.1 h
    · exact absurd hnil (List.append_ne_nil_of_right_ne_nil _ (List.cons_ne_nil _ _))
    · rw [stem_concat, List.append_assoc] at hstem
      exact isDirectory_iff.2 (.inr ⟨name, hname, (List.prefix_append _ _).trans hstem⟩)

/-! ### Where a path leads -/

theorem not_mem_of_mem_parts (h : part ∈ parts path) : '/' ∉ part.toList := by
  obtain ⟨chars, hchars, rfl⟩ := List.mem_map.1 h
  rw [List.splitOn_eq_splitOnP, ← Text.splitWhere_eq_splitOnP] at hchars
  rw [String.toList_ofList]
  intro hmem
  exact absurd (Text.of_mem_splitWhere hchars '/' hmem).2 (by decide)

/-- The invariant of following a path: no part holds a separator, and what the last part is
in is a directory. -/
theorem follow_spec {rest : List String}
    (hparts : ∀ part ∈ directory ++ rest, '/' ∉ part.toList)
    (hdirectory : w.isDirectory directory.dropLast = true)
    (h : w.follow directory rest = some file) :
    (∀ part ∈ file, '/' ∉ part.toList) ∧ w.isDirectory file.dropLast = true := by
  induction rest generalizing directory with
  | nil =>
      obtain rfl := Option.some.inj h
      exact ⟨fun part hpart => hparts part (List.mem_append_left _ hpart), hdirectory⟩
  | cons part rest ih =>
      have hfront : ∀ p ∈ directory, '/' ∉ p.toList := fun p hp =>
        hparts p (List.mem_append_left _ hp)
      have hrest : ∀ p ∈ rest, '/' ∉ p.toList := fun p hp =>
        hparts p (List.mem_append_right _ (List.mem_cons_of_mem _ hp))
      rw [follow] at h
      split at h
      · exact absurd h nofun
      · next hopen =>
        rw [Bool.not_eq_true', Bool.not_eq_false] at hopen
        split at h
        · exact ih (List.forall_mem_append.2 ⟨hfront, hrest⟩) hdirectory h
        · split at h
          · split at h
            · exact absurd h nofun
            · exact ih (List.forall_mem_append.2
                ⟨fun p hp => hfront p (List.dropLast_subset _ hp), hrest⟩)
                (isDirectory_dropLast hdirectory) h
          · refine ih ?_ (by rwa [List.dropLast_concat]) h
            rwa [List.append_assoc, List.singleton_append]

/-- A path leads to a file in a directory. -/
theorem exists_of_locate_eq_some (h : w.locate path = some name) :
    ∃ directory part, w.isDirectory directory = true ∧ '/' ∉ part.toList ∧
      name = fileName (directory ++ [part]) := by
  rw [locate] at h
  split at h
  · exact absurd h nofun
  · exact absurd h nofun
  · obtain ⟨file, hfollow, hname⟩ := Option.bind_eq_some_iff.1 h
    have hspec := follow_spec (fun part hpart => not_mem_of_mem_parts hpart) isDirectory_nil hfollow
    rcases List.eq_nil_or_concat' file with rfl | ⟨directory, part, rfl⟩
    · simp at hname
    · rw [List.dropLast_concat] at hspec
      split at hname
      · exact absurd hname nofun
      · exact ⟨directory, part, hspec.2, hspec.1 part (by simp), (Option.some.inj hname).symm⟩

/-- Where a path leads is a matter of the directories. -/
theorem follow_congr (h : ∀ directory, after.isDirectory directory = w.isDirectory directory)
    (directory rest : List String) : after.follow directory rest = w.follow directory rest := by
  induction rest generalizing directory with
  | nil => rfl
  | cons part rest ih => simp only [follow, h, ih]

theorem locate_congr (h : ∀ directory, after.isDirectory directory = w.isDirectory directory)
    (path : String) : after.locate path = w.locate path := by
  simp only [locate, follow_congr h, h]

/-! ### After a write -/

/-- A list that ends with some element is no longer than the last place of that element. -/
theorem concat_prefix_append {α : Type} {a : α} {front text back : List α} (hback : a ∉ back)
    (h : front ++ [a] <+: text ++ back) : front ++ [a] <+: text := by
  induction back using List.reverseRecOn with
  | nil => rwa [List.append_nil] at h
  | append_singleton back b ih =>
      rw [List.mem_append, not_or, List.mem_singleton] at hback
      rw [← List.append_assoc, List.prefix_concat_iff] at h
      rcases h with h | h
      · exact absurd (List.append_singleton_inj.1 h).2 hback.2
      · exact ih hback.1 h

/-- A file is in no directory but those that it is put into. -/
theorem isDirectory_of_stem_prefix (hdirectory : w.isDirectory directory = true)
    (hpart : '/' ∉ part.toList) {other : List String}
    (h : stem other <+: (fileName (directory ++ [part])).toList) :
    w.isDirectory other = true := by
  rcases List.eq_nil_or_concat' other with rfl | ⟨front, last, rfl⟩
  · exact isDirectory_nil
  · rw [toList_fileName_concat, stem_concat] at h
    have hstem := concat_prefix_append hpart h
    rw [← stem_concat] at hstem
    obtain rfl | ⟨name, hname, hin⟩ := isDirectory_iff.1 hdirectory
    · rw [stem_nil, List.prefix_nil, stem_concat] at hstem
      exact absurd hstem (List.append_ne_nil_of_right_ne_nil _ (List.cons_ne_nil _ _))
    · exact isDirectory_iff.2 (.inr ⟨name, hname, hstem.trans hin⟩)

theorem write?_eq_some_iff :
    w.write? path text = some after ↔ ∃ name, w.locate path = some name ∧
      after = { w with files := w.files.insert name (.text text) } := by
  rw [write?, Option.map_eq_some_iff]
  simp only [eq_comm]

/-- A path can be written if it leads to a file. -/
@[simp] theorem isSome_write? (w : Workspace) (path text : String) :
    (w.write? path text).isSome = (w.locate path).isSome :=
  Option.isSome_map

/-- A write makes no directory. -/
theorem isDirectory_of_write? (h : w.write? path text = some after) (other : List String) :
    after.isDirectory other = w.isDirectory other := by
  obtain ⟨name, hlocate, rfl⟩ := write?_eq_some_iff.1 h
  obtain ⟨directory, part, hdirectory, hpart, rfl⟩ := exists_of_locate_eq_some hlocate
  rw [Bool.eq_iff_iff]
  constructor
  · intro hother
    obtain rfl | ⟨name, hname, hstem⟩ := isDirectory_iff.1 hother
    · exact isDirectory_nil
    · rw [← NameMap.contains_iff_mem_names, NameMap.contains_insert,
        NameMap.contains_iff_mem_names] at hname
      rcases hname with rfl | hname
      · exact isDirectory_of_stem_prefix hdirectory hpart hstem
      · exact isDirectory_iff.2 (.inr ⟨name, hname, hstem⟩)
  · intro hother
    refine isDirectory_iff.2 ((isDirectory_iff.1 hother).imp_right ?_)
    rintro ⟨name, hname, hstem⟩
    refine ⟨name, ?_, hstem⟩
    rw [← NameMap.contains_iff_mem_names] at hname ⊢
    exact (NameMap.contains_insert _ _ _ _).2 (.inr hname)

/-- After a write every path leads where it led. -/
theorem locate_of_write? (h : w.write? path text = some after) (other : String) :
    after.locate other = w.locate other :=
  locate_congr (isDirectory_of_write? h) other

theorem get?_of_write? (h : w.write? path text = some after) (name : String) :
    after.files.get? name =
      if w.locate path = some name then some (.text text) else w.files.get? name := by
  obtain ⟨written, hlocate, rfl⟩ := write?_eq_some_iff.1 h
  rw [NameMap.get?_insert, hlocate]
  simp only [Option.some.injEq, eq_comm]

/-- After a write a path reads the new text if it leads to the file that was written. -/
theorem read?_of_write? (h : w.write? path text = some after) (other : String) :
    after.read? other = if w.locate other = w.locate path then some text else w.read? other := by
  obtain ⟨written, hlocate, -⟩ := write?_eq_some_iff.1 h
  rw [read?, content?, locate_of_write? h, hlocate]
  cases hother : w.locate other with
  | none => simp [read?, content?, hother]
  | some name =>
      rw [Option.bind_some, get?_of_write? h, hlocate]
      by_cases hname : written = name
      · simp [hname, Content.text?]
      · simp [hname, Ne.symm hname, read?, content?, hother]

end PostPress.Command.Workspace
