import PostPress.Text.Blank

/-!
# PostPress.Proofs.Text.Pieces

**Cutting at a character and joining again.** Pieces hold no separator and are not empty, and
joining such pieces with one separator between them is undone by cutting (`pieces_intercalate`).
So in what is joined, separators stand alone and between pieces (`separators_intercalate`).
Both are done part by part: a separator cuts a text into two that are cut on their own
(`pieces_append_cons`), and pieces are joined in two halves (`intercalate_append`).
-/

namespace PostPress.Text

theorem splitWhere_eq_splitOnP (isSeparator : Char → Bool) (text : List Char) :
    splitWhere isSeparator text = text.splitOnP isSeparator := by
  induction text with
  | nil => rfl
  | cons c rest ih =>
      rw [splitWhere, ih, List.splitOnP_cons_eq_if_modifyHead]
      cases hparts : rest.splitOnP isSeparator with
      | nil => exact absurd hparts (List.splitOnP_ne_nil _ _)
      | cons part parts => cases isSeparator c <;> rfl

/-- A part between separators holds characters of the text, and no separator. -/
theorem of_mem_splitWhere {isSeparator : Char → Bool} {text part : List Char}
    (h : part ∈ splitWhere isSeparator text) :
    ∀ c ∈ part, c ∈ text ∧ isSeparator c = false := by
  induction text generalizing part with
  | nil =>
      obtain rfl := List.mem_singleton.1 h
      exact nofun
  | cons first rest ih =>
      have hlater : ∀ {other}, other ∈ splitWhere isSeparator rest →
          ∀ c ∈ other, c ∈ first :: rest ∧ isSeparator c = false := fun hother c hc =>
        (ih hother c hc).imp_left (List.mem_cons_of_mem _)
      rw [splitWhere] at h
      split at h
      · rcases List.mem_cons.1 h with rfl | h
        · exact nofun
        · exact hlater h
      · next hfirst hparts =>
          obtain rfl := List.mem_singleton.1 h
          intro c hc
          obtain rfl := List.mem_singleton.1 hc
          exact ⟨List.mem_cons_self, hfirst⟩
      · next part' parts hfirst hparts =>
          rcases List.mem_cons.1 h with rfl | h
          · intro c hc
            rcases List.mem_cons.1 hc with rfl | hc
            · exact ⟨List.mem_cons_self, hfirst⟩
            · exact hlater (hparts ▸ List.mem_cons_self) c hc
          · exact hlater (hparts ▸ List.mem_cons_of_mem _ h)

theorem of_mem_pieces {isSeparator : Char → Bool} {text piece : List Char}
    (h : piece ∈ pieces isSeparator text) :
    piece ≠ [] ∧ ∀ c ∈ piece, c ∈ text ∧ isSeparator c = false := by
  obtain ⟨hpart, hfull⟩ := List.mem_filter.1 h
  exact ⟨fun hnil => by simp [hnil] at hfull, of_mem_splitWhere hpart⟩

theorem mem_intercalate_iff {separator c : Char} (hne : c ≠ separator) (parts : List (List Char)) :
    c ∈ [separator].intercalate parts ↔ ∃ part ∈ parts, c ∈ part := by
  induction parts with
  | nil => simp
  | cons part rest ih =>
      cases rest with
      | nil => simp
      | cons other rest =>
          rw [List.intercalate_cons_cons, List.mem_append, List.mem_append, ih]
          simp [hne]

/-- Cutting and joining again drops separators only. -/
theorem mem_intercalate_pieces {separator c : Char} (hne : c ≠ separator) (text : List Char) :
    c ∈ [separator].intercalate (pieces (· == separator) text) ↔ c ∈ text := by
  rw [mem_intercalate_iff hne]
  constructor
  · rintro ⟨piece, hpiece, hc⟩
    exact ((of_mem_pieces hpiece).2 c hc).1
  · intro hc
    rw [← @List.intercalate_splitOn _ text, List.splitOn_eq_splitOnP,
      ← splitWhere_eq_splitOnP, mem_intercalate_iff hne] at hc
    obtain ⟨part, hpart, hc⟩ := hc
    exact ⟨part, List.mem_filter.2 ⟨hpart, by cases part <;> trivial⟩, hc⟩

/-! ### Two texts in one -/

/-- A separator is in no piece, so the pieces of a text are those before it and those behind it. -/
theorem pieces_append_cons {isSeparator : Char → Bool} {c : Char} (hc : isSeparator c = true)
    (before after : List Char) :
    pieces isSeparator (before ++ c :: after) =
      pieces isSeparator before ++ pieces isSeparator after := by
  simp only [pieces, splitWhere_eq_splitOnP]
  rw [List.splitOnP_append_cons before after hc, List.filter_append]

theorem intercalate_append {separator : List Char} {front back : List (List Char)}
    (hfront : front ≠ []) (hback : back ≠ []) :
    separator.intercalate (front ++ back) =
      separator.intercalate front ++ separator ++ separator.intercalate back := by
  induction front with
  | nil => exact absurd rfl hfront
  | cons part rest ih =>
      cases rest with
      | nil => simp [List.intercalate_cons_of_ne_nil hback]
      | cons other rest =>
          have hrest := ih (List.cons_ne_nil other rest)
          rw [List.cons_append, List.intercalate_cons_of_ne_nil (by simp), hrest,
            List.intercalate_cons_cons]
          simp only [List.append_assoc]

theorem intercalate_eq_nil_iff {separator : List Char} {parts : List (List Char)}
    (hparts : ∀ part ∈ parts, part ≠ []) : separator.intercalate parts = [] ↔ parts = [] := by
  cases parts with
  | nil => simp
  | cons part rest =>
      have hpart := hparts part List.mem_cons_self
      cases rest with
      | nil => simp [hpart]
      | cons other rest => simp [List.intercalate_cons_cons, hpart]

/-! ### Joined pieces -/

section Joined

variable {separator : Char} {parts : List (List Char)}
  (hparts : ∀ part ∈ parts, part ≠ [] ∧ separator ∉ part)

include hparts

/-- Cutting undoes joining. -/
theorem splitWhere_intercalate (hne : parts ≠ []) :
    splitWhere (· == separator) ([separator].intercalate parts) = parts := by
  rw [splitWhere_eq_splitOnP, ← List.splitOn_eq_splitOnP]
  exact List.splitOn_intercalate separator (fun part hpart => (hparts part hpart).2) hne

theorem pieces_intercalate :
    pieces (· == separator) ([separator].intercalate parts) = parts := by
  by_cases hne : parts = []
  · subst hne
    rfl
  · rw [pieces, splitWhere_intercalate hparts hne, List.filter_eq_self]
    intro part hpart
    cases part with
    | nil => exact absurd rfl (hparts [] hpart).1
    | cons c rest => rfl

/-- No separator is first, last, or next to another one: there would be an empty part. -/
theorem separators_intercalate (before after : List Char)
    (h : [separator].intercalate parts = before ++ separator :: after) :
    before ≠ [] ∧ after ≠ [] ∧ ∀ rest, after ≠ separator :: rest := by
  have hne : parts ≠ [] := by
    rintro rfl
    exact absurd h (by simp)
  have hcut : parts = splitWhere (· == separator) before ++ splitWhere (· == separator) after := by
    have hjoined := splitWhere_intercalate hparts hne
    rw [h, splitWhere_eq_splitOnP, List.splitOnP_append_cons (p := (· == separator)) _ _
      (beq_self_eq_true separator)] at hjoined
    rw [splitWhere_eq_splitOnP, splitWhere_eq_splitOnP, hjoined]
  have hfull : ∀ part ∈ parts, part ≠ [] := fun part hpart => (hparts part hpart).1
  rw [hcut] at hfull
  refine ⟨?_, ?_, fun rest => ?_⟩
  · rintro rfl
    exact hfull [] (List.mem_append_left _ List.mem_cons_self) rfl
  · rintro rfl
    exact hfull [] (List.mem_append_right _ List.mem_cons_self) rfl
  · rintro rfl
    refine hfull [] (List.mem_append_right _ ?_) rfl
    rw [splitWhere, beq_self_eq_true]
    exact List.mem_cons_self

end Joined

end PostPress.Text
