import PostPress.Proofs.Html.NormalForm
import PostPress.Proofs.Html.Tidy

/-!
# PostPress.Proofs.Html.Phrasing

**Written phrasing content is cut into its marks.** Phrasing content is made of texts and of a
few elements without attributes. The first token of its markup is a tag, which is its first mark
(`nextToken_startTag`, `nextToken_endTag`), or a run of characters (`nextToken_chars`), and what
is left is the markup of the other marks.

* `Mark.Nested` — marks whose tags are of phrasing elements and match each other;
* `Escapes` — a way to write characters that references undo, as both writers have one
  (`escapes_escapeTextChar`, `escapes_escapeMarkupChar`);
* `Mark.spell` — a mark as markup, by such a way.
-/

namespace PostPress

namespace Html

/-- Elements that formatting, code and notes are made of. -/
def phrasingTags : List String := ["em", "strong", "code", "del", "sup", "sub", "span"]

/-- A character that a reader of markup leaves as it is. -/
def isSteady (c : Char) : Bool := c != '\r' && c != '\x00'

end Html

namespace Mark

open Html

/-- Marks of phrasing content inside some open elements, innermost first. At the end all of
them are closed. -/
inductive Nested : List String → List Mark → Prop
  | nil : Nested [] []
  | char {c : Char} {names : List String} {marks : List Mark} (hc : isSteady c = true)
      (hrest : Nested names marks) : Nested names (.char c :: marks)
  | startTag {name : String} {names : List String} {marks : List Mark}
      (hname : name ∈ phrasingTags) (hrest : Nested (name :: names) marks) :
      Nested names (.startTag name ∅ :: marks)
  | endTag {name : String} {names : List String} {marks : List Mark}
      (hname : name ∈ phrasingTags) (hrest : Nested names marks) :
      Nested (name :: names) (.endTag name :: marks)

/-- A mark as markup. -/
def spell (escape : Char → List Char) : Mark → List Char
  | .char c => escape c
  | .startTag tag _ => '<' :: (tag.toList ++ ['>'])
  | .endTag tag => '<' :: '/' :: (tag.toList ++ ['>'])

/-- Marks without a byte order mark at their beginning. -/
def withoutStart : List Mark → List Mark
  | .char '\ufeff' :: rest => rest
  | marks => marks

/-- A character that is dropped before the first content of a document. -/
def isBlank : Mark → Bool
  | .char c => isTextBlank c
  | _ => false

/-- Nothing but characters stands before other marks. -/
theorem Nested.of_chars {names : List String} {chars : List Char} {marks : List Mark}
    (h : Nested names (chars.map .char ++ marks)) :
    (∀ c ∈ chars, isSteady c = true) ∧ Nested names marks := by
  induction chars with
  | nil => exact ⟨nofun, h⟩
  | cons c chars ih =>
      cases h with
      | char hc hrest =>
          obtain ⟨hchars, hmarks⟩ := ih hrest
          exact ⟨List.forall_mem_cons.2 ⟨hc, hchars⟩, hmarks⟩

theorem withoutStart_of_ne {marks : List Mark} (h : ∀ rest, marks ≠ .char '\ufeff' :: rest) :
    withoutStart marks = marks := by
  unfold withoutStart
  split
  · next rest => exact absurd rfl (h rest)
  · rfl

theorem Nested.withoutStart {names : List String} {marks : List Mark} (h : Nested names marks) :
    Nested names (withoutStart marks) := by
  unfold Mark.withoutStart
  split
  · cases h with
    | char _ hrest => exact hrest
  · exact h

theorem Nested.dropWhile_isBlank {names : List String} {marks : List Mark}
    (h : Nested names marks) : Nested names (marks.dropWhile isBlank) := by
  induction h with
  | nil => exact .nil
  | @char c names marks hc hrest ih =>
      rw [List.dropWhile_cons]
      split
      · exact ih
      · exact .char hc hrest
  | startTag hname hrest => exact .startTag hname hrest
  | endTag hname hrest => exact .endTag hname hrest

end Mark

namespace Html

/-! ### Characters -/

/-- The names that stand for characters in written markup. -/
def writtenReferences : List (List Char × Char) :=
  [(['a', 'm', 'p'], '&'), (['l', 't'], '<'), (['g', 't'], '>'), (['n', 'b', 's', 'p'], '\u00a0')]

/-- A way to write characters: one that begins a tag or a reference is written as a reference,
others may be. -/
structure Escapes (escape : Char → List Char) : Prop where
  /-- A character is written as it is, or as a reference. -/
  cases : ∀ c, (escape c = [c] ∧ c ≠ '<' ∧ c ≠ '&') ∨
    ∃ name, (name, c) ∈ writtenReferences ∧ escape c = '&' :: (name ++ [';'])

/-- A name that ends with a semicolon is read as a whole. -/
theorem readReference_named {name : List Char} {c : Char} (hname : name.all Char.isAlphanum = true)
    (hhash : '#' ∉ name) (hreference : Text.namedReference? name = some [c]) (rest : List Char) :
    readReference false (name ++ ';' :: rest) = ([c], rest) := by
  have hinside : ∀ d ∈ name, d.isAlphanum = true := List.all_eq_true.1 hname
  have hnamed : readNamed false (name ++ ';' :: rest) = some ([c], rest) := by
    unfold readNamed
    rw [List.takeWhile_append_of_pos hinside, List.dropWhile_append_of_pos hinside,
      List.takeWhile_cons_of_neg (by decide), List.dropWhile_cons_of_neg (by decide),
      List.append_nil]
    simp only [hreference, Option.map_some, Option.some_or]
  unfold readReference
  dsimp only
  split
  · next heq =>
    cases name with
    | nil => exact absurd (List.cons.inj heq).1 (by decide)
    | cons d name =>
        obtain rfl := (List.cons.inj heq).1
        exact absurd List.mem_cons_self hhash
  · rw [hnamed]
    rfl

/-- The references of written markup are read back. None of them is a blank. -/
theorem readReference_written {name : List Char} {c : Char} (h : (name, c) ∈ writtenReferences) :
    isTextBlank c = false ∧ c ≠ '\ufeff' ∧ '\r' ∉ name ∧
      ∀ rest, readReference false (name ++ ';' :: rest) = ([c], rest) := by
  have hall : ∀ entry ∈ writtenReferences, isTextBlank entry.2 = false ∧ entry.2 ≠ '\ufeff' ∧
      '\r' ∉ entry.1 ∧ entry.1.all Char.isAlphanum = true ∧ '#' ∉ entry.1 ∧
        Text.namedReference? entry.1 = some [entry.2] := by
    decide +kernel
  obtain ⟨hblank, hstart, hreturn, hname, hhash, hreference⟩ := hall _ h
  exact ⟨hblank, hstart, hreturn, readReference_named hname hhash hreference⟩

theorem escapes_escapeTextChar : Escapes escapeTextChar where
  cases c := by
    unfold escapeTextChar
    split
    · exact .inr ⟨['a', 'm', 'p'], by decide, rfl⟩
    · exact .inr ⟨['l', 't'], by decide, rfl⟩
    · exact .inr ⟨['g', 't'], by decide, rfl⟩
    · next hamp hlt _ => exact .inl ⟨rfl, hlt, hamp⟩

theorem escapes_escapeMarkupChar : Escapes (escapeMarkupChar false) where
  cases c := by
    unfold escapeMarkupChar
    split
    · exact .inr ⟨['a', 'm', 'p'], by decide, rfl⟩
    · exact .inr ⟨['n', 'b', 's', 'p'], by decide, rfl⟩
    · exact .inl ⟨rfl, by decide, by decide⟩
    · exact .inr ⟨['l', 't'], by decide, rfl⟩
    · exact .inr ⟨['g', 't'], by decide, rfl⟩
    · next hamp _ _ hlt _ => exact .inl ⟨rfl, hlt, hamp⟩

section Written

variable {escape : Char → List Char} (hescape : Escapes escape)

include hescape

theorem Escapes.notMem_return {c : Char} (hc : isSteady c = true) : '\r' ∉ escape c := by
  rcases hescape.cases c with ⟨hplain, -, -⟩ | ⟨name, hname, hcode⟩
  · rw [hplain, List.mem_singleton]
    rintro rfl
    exact absurd hc (by decide)
  · obtain ⟨-, -, hreturn, -⟩ := readReference_written hname
    rw [hcode]
    simp [hreturn]

/-- Only a byte order mark is written with one at its beginning. -/
theorem Escapes.start_iff {c : Char} {rest : List Char} :
    escape c = '\ufeff' :: rest ↔ c = '\ufeff' ∧ rest = [] := by
  rcases hescape.cases c with ⟨hplain, -, -⟩ | ⟨name, hname, hcode⟩
  · rw [hplain, List.cons.injEq, eq_comm (a := [])]
  · obtain ⟨-, hstart, -⟩ := readReference_written hname
    rw [hcode]
    simp [hstart]

/-- Written marks have no carriage return. -/
theorem notMem_return_spell {names : List String} {marks : List Mark}
    (h : Mark.Nested names marks) : '\r' ∉ marks.flatMap (Mark.spell escape) := by
  have hnames : ∀ name ∈ phrasingTags, '\r' ∉ name.toList := by decide
  induction h with
  | nil => exact List.not_mem_nil
  | char hc _ ih =>
      rw [List.flatMap_cons, List.mem_append, not_or]
      exact ⟨hescape.notMem_return hc, ih⟩
  | startTag hname _ ih | endTag hname _ ih =>
      rw [List.flatMap_cons, List.mem_append, not_or]
      exact ⟨by simp [Mark.spell, hnames _ hname], ih⟩

end Written

/-! ### Tokens -/

section Tokens

variable {escape : Char → List Char} (hescape : Escapes escape) (allowCharacterData : Bool)

/-- A name right before the end of a tag is read as the whole tag. -/
theorem readTag_name {name : String} (hname : name ∈ phrasingTags) (isEnd : Bool)
    (rest : List Char) : readTag isEnd (name.toList ++ '>' :: rest) =
      some (if isEnd then .endTag name else .startTag name [] false, rest) := by
  have hall : ∀ name ∈ phrasingTags, name.toList.all isTagNameChar = true ∧
      tagName name.toList = name := by
    decide
  obtain ⟨hchars, hsame⟩ := hall name hname
  have hinside : ∀ d ∈ name.toList, (!(isTagBlank d || d == '/' || d == '>')) = true := by
    intro d hd
    have hchar := List.all_eq_true.1 hchars d hd
    simp only [isTagNameChar, Bool.not_eq_true', Bool.or_eq_false_iff] at hchar ⊢
    exact hchar.1
  unfold readTag
  dsimp only
  rw [List.takeWhile_append_of_pos hinside, List.dropWhile_append_of_pos hinside,
    List.takeWhile_cons_of_neg (by decide), List.dropWhile_cons_of_neg (by decide),
    List.append_nil, hsame]
  rfl

theorem exists_of_phrasing {name : String} (hname : name ∈ phrasingTags) :
    ∃ c rest, name.toList = c :: rest ∧ c.isAlpha = true := by
  have hall : ∀ name ∈ phrasingTags, (name.toList.head?.map Char.isAlpha) = some true := by decide
  obtain ⟨c, hc, halpha⟩ := Option.map_eq_some_iff.1 (hall name hname)
  obtain ⟨rest, hrest⟩ := List.head?_eq_some_iff.1 hc
  exact ⟨c, rest, hrest, halpha⟩

theorem nextToken_startTag {name : String} (hname : name ∈ phrasingTags) (rest : List Char) :
    nextToken .data allowCharacterData ((Mark.startTag name ∅).spell escape ++ rest) =
      (some (.startTag name [] false), rest) := by
  obtain ⟨c, more, hchars, halpha⟩ := exists_of_phrasing hname
  have htag := readTag_name hname false rest
  rw [hchars, List.cons_append] at htag
  rw [Mark.spell, hchars, List.cons_append, List.append_assoc, nextToken_angle]
  simp only [List.cons_append, List.nil_append]
  rw [readMarkup_letter halpha, htag]
  rfl

theorem nextToken_endTag {name : String} (hname : name ∈ phrasingTags) (rest : List Char) :
    nextToken .data allowCharacterData ((Mark.endTag name).spell escape ++ rest) =
      (some (.endTag name), rest) := by
  obtain ⟨c, more, hchars, halpha⟩ := exists_of_phrasing hname
  have htag := readTag_name hname true rest
  rw [hchars, List.cons_append] at htag
  rw [Mark.spell, hchars, List.cons_append, List.cons_append, List.append_assoc, nextToken_angle]
  simp only [List.cons_append, List.nil_append]
  rw [readMarkup_slash halpha, htag]
  rfl

include hescape

/-- Characters with a property that ends before tags and references are characters of the marks
at the front. -/
theorem takeWhile_spell {p : Char → Bool} (htag : p '<' = false) (hreference : p '&' = false)
    (marks : List Mark) : ∃ chars rest, marks = chars.map .char ++ rest ∧
      (∀ c ∈ chars, p c = true) ∧
      (marks.flatMap (Mark.spell escape)).takeWhile p = chars ∧
      (marks.flatMap (Mark.spell escape)).dropWhile p = rest.flatMap (Mark.spell escape) := by
  have hstop : ∀ {c : Char} {text : List Char}, p c = false →
      (c :: text).takeWhile p = [] ∧ (c :: text).dropWhile p = c :: text := fun hc =>
    ⟨List.takeWhile_cons_of_neg (by rw [hc]; exact Bool.false_ne_true),
      List.dropWhile_cons_of_neg (by rw [hc]; exact Bool.false_ne_true)⟩
  induction marks with
  | nil => exact ⟨[], [], rfl, nofun, rfl, rfl⟩
  | cons mark marks ih =>
      obtain ⟨chars, rest, hmarks, hchars, htake, hdrop⟩ := ih
      cases mark with
      | startTag | endTag => exact ⟨[], _, rfl, nofun, (hstop htag).1, (hstop htag).2⟩
      | char c =>
          have hspell : (Mark.char c :: marks).flatMap (Mark.spell escape) =
              escape c ++ marks.flatMap (Mark.spell escape) := rfl
          rw [hspell]
          rcases hescape.cases c with ⟨hplain, -, -⟩ | ⟨name, -, hcode⟩
          · rw [hplain, List.singleton_append]
            by_cases hc : p c = true
            · refine ⟨c :: chars, rest, by rw [hmarks]; rfl, List.forall_mem_cons.2 ⟨hc, hchars⟩,
                ?_, ?_⟩
              · rw [List.takeWhile_cons_of_pos hc, htake]
              · rw [List.dropWhile_cons_of_pos hc, hdrop]
            · have hend := Bool.eq_false_iff.2 hc
              refine ⟨[], .char c :: marks, rfl, nofun, (hstop hend).1, (hstop hend).2.trans ?_⟩
              rw [hspell, hplain, List.singleton_append]
          · rw [hcode, List.cons_append]
            refine ⟨[], .char c :: marks, rfl, nofun, (hstop hreference).1,
              (hstop hreference).2.trans ?_⟩
            rw [hspell, hcode, List.cons_append]

theorem spell_ne_nil (mark : Mark) : mark.spell escape ≠ [] := by
  cases mark with
  | startTag | endTag => exact List.cons_ne_nil _ _
  | char c =>
      rw [Mark.spell]
      rcases hescape.cases c with ⟨hplain, -, -⟩ | ⟨name, -, hcode⟩
      · rw [hplain]
        exact List.cons_ne_nil _ _
      · rw [hcode]
        exact List.cons_ne_nil _ _

/-- Fewer marks are written with fewer characters. -/
theorem length_spell_lt (mark : Mark) (marks more : List Mark) :
    (more.flatMap (Mark.spell escape)).length <
      ((mark :: (marks ++ more)).flatMap (Mark.spell escape)).length := by
  have hpos := List.length_pos_iff.2 (spell_ne_nil hescape mark)
  rw [List.flatMap_cons, List.flatMap_append, List.length_append, List.length_append]
  omega

/-- A character is read with others of its kind, and all of them come from marks. -/
theorem nextToken_chars {c : Char} (hc : isSteady c = true) (marks : List Mark) :
    ∃ chars rest, marks = chars.map .char ++ rest ∧
      (∀ d ∈ chars, isTextBlank d = isTextBlank c) ∧ ∀ allowCharacterData,
        nextToken .data allowCharacterData ((Mark.char c :: marks).flatMap (Mark.spell escape)) =
          (some (textToken (c :: chars)), rest.flatMap (Mark.spell escape)) := by
  have hnull : c ≠ '\x00' := by
    rintro rfl
    exact absurd hc (by decide)
  rw [List.flatMap_cons, Mark.spell]
  rcases hescape.cases c with ⟨hplain, hangle, hamp⟩ | ⟨name, hname, hcode⟩
  · obtain ⟨chars, rest, hmarks, hchars, htake, hdrop⟩ := takeWhile_spell hescape
      (p := fun d => d ≠ '<' && d ≠ '&' && d ≠ '\x00' && isTextBlank d == isTextBlank c)
      (by simp) (by simp) marks
    refine ⟨chars, rest, hmarks, fun d hd => ?_, fun _ => ?_⟩
    · have hgoes := hchars d hd
      simp only [Bool.and_eq_true, beq_iff_eq] at hgoes
      exact hgoes.2
    · rw [hplain, List.singleton_append, nextToken.eq_10 _ _ _ hangle hamp hnull, htake, hdrop]
  · obtain ⟨-, -, -, hread⟩ := readReference_written hname
    refine ⟨[], marks, rfl, fun _ hd => absurd hd List.not_mem_nil, fun _ => ?_⟩
    rw [hcode, List.cons_append, List.append_assoc, List.singleton_append, nextToken.eq_8, hread]

end Tokens

end Html

end PostPress
