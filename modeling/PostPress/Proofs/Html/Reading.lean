import PostPress.Proofs.Html.Body
import PostPress.Proofs.Html.DocumentOrder
import PostPress.Proofs.Html.Phrasing

/-!
# PostPress.Proofs.Html.Reading

**Reading written phrasing content.** Nothing is implied and nothing is moved while phrasing
content is read in a body: a start tag opens an element, an end tag closes the innermost one, and
characters go where they stand. So the tree spells the marks that were written, but for what is
dropped before the first of them.

* `Builder.Phrasing` — a state in which phrasing content is read, with the open elements and the
  marks that have been read;
* `spells_readFragment` — a part of a document loses at most a byte order mark;
* `spells_readDocument` — a whole document loses all blanks at its beginning, too.
-/

namespace PostPress.Html

namespace Builder

/-! ### States -/

/-- The entries of the formatting elements among some open elements. -/
def formattingEntries (opened : List (Nat × String)) : List Formatting :=
  (opened.filter fun entry => formattingTags.contains entry.2).map fun entry =>
    .element entry.1 entry.2 []

theorem formattingEntries_cons (entry : Nat × String) (opened : List (Nat × String)) :
    formattingEntries (entry :: opened) =
      if formattingTags.contains entry.2 then
        .element entry.1 entry.2 [] :: formattingEntries opened
      else formattingEntries opened := by
  unfold formattingEntries
  rw [List.filter_cons]
  split <;> rfl

/-- A state in which phrasing content is read: `inner` are the open phrasing elements, `base` is
the element around them, and `outer` are those around it. -/
structure Phrasing (start : Dom) (base : Nat × String) (outer : List Nat)
    (inner : List (Nat × String)) (marks : List Mark) (b : Builder) : Prop where
  mode : b.mode = .inBody
  textMode : b.textMode = .data
  fostering : b.fostering = false
  dropNewline : b.dropNewline = false
  templateModes : b.templateModes = []
  stopped : b.stopped = false
  stack : b.stack = (inner ++ [base]).map (·.1) ++ outer
  read : Dom.HasRead start b.dom (inner ++ [base]) marks
  /-- Formatting elements that are not open are not listed. -/
  formatting : b.formatting.Sublist (formattingEntries inner)

variable {start : Dom} {base : Nat × String} {outer : List Nat} {inner : List (Nat × String)}
  {marks : List Mark} {b : Builder}

/-- Where no line feed is dropped and tags are read, a token is taken as it is. -/
theorem accept_of_data (hnewline : b.dropNewline = false) (hdata : b.textMode = .data)
    (token : Token) : b.accept token = take (20 + 2 * b.stack.length) b token := by
  obtain ⟨⟩ := b
  subst hnewline hdata
  cases token <;> rfl

/-- The next token is used. -/
theorem run_succ (hstopped : b.stopped = false) (hdata : b.textMode = .data)
    {text rest : List Char} {token : Token}
    (hnext : ∀ allowed, nextToken .data allowed text = (some token, rest)) (fuel : Nat) :
    b.run (fuel + 1) text = (b.accept token).run fuel rest := by
  rw [run, hstopped, if_neg Bool.false_ne_true]
  simp only [hdata, hnext]

namespace Phrasing

/-- The innermost element. -/
theorem exists_current (h : b.Phrasing start base outer inner marks) :
    ∃ id name around, inner ++ [base] = (id, name) :: around ∧
      b.stack = id :: (around.map (·.1) ++ outer) ∧
      (b.dom.node id).kind = .element .html name [] none := by
  cases hopened : inner ++ [base] with
  | nil => exact absurd hopened (by simp)
  | cons entry around =>
      refine ⟨entry.1, entry.2, around, rfl, ?_, h.read.kind_of_mem (hopened ▸ List.mem_cons_self)⟩
      rw [h.stack, hopened]
      rfl

theorem exists_current? (h : b.Phrasing start base outer inner marks) :
    ∃ name, b.current? = some (.html, name) := by
  obtain ⟨id, name, around, -, hstack, hkind⟩ := h.exists_current
  refine ⟨name, ?_⟩
  unfold current? Dom.name?
  rw [hstack]
  simp only [hkind]

/-- The rule of the body is the one that is applied. -/
theorem step_eq (h : b.Phrasing start base outer inner marks) (token : Token) :
    b.step token = ruleInBody b token := by
  obtain ⟨name, hname⟩ := h.exists_current?
  have hhtml : b.isForeign token ≠ true := by
    intro hforeign
    obtain ⟨space, other, hcurrent, hspace⟩ := current?_of_isForeign hforeign
    rw [hname] at hcurrent
    exact hspace (Prod.mk.inj (Option.some.inj hcurrent)).1.symm
  rw [step, if_neg hhtml, h.mode]
  rfl

theorem accept_eq (h : b.Phrasing start base outer inner marks) {token : Token} {after : Builder}
    (hrule : ruleInBody b token = (after, none)) : b.accept token = after := by
  have hfuel : 20 + 2 * b.stack.length = (19 + 2 * b.stack.length) + 1 := by omega
  rw [accept_of_data h.dropNewline h.textMode, hfuel]
  exact take_of_done _ ((h.step_eq token).trans hrule)

/-- All listed formatting elements are open, so none is opened again. -/
theorem reopenFormatting_eq (h : b.Phrasing start base outer inner marks) :
    b.reopenFormatting = b := by
  have hready : ∀ entry ∈ b.formatting, b.isReady entry = true := by
    intro entry hentry
    obtain ⟨open?, hopen, rfl⟩ := List.mem_map.1 (h.formatting.subset hentry)
    have hmem : open?.1 ∈ b.stack := by
      rw [h.stack]
      exact List.mem_append_left _ (List.mem_map_of_mem
        (List.mem_append_left _ (List.mem_filter.1 hopen).1))
    exact List.contains_iff_mem.2 hmem
  have htake : b.formatting.takeWhile (!b.isReady ·) = [] := by
    cases hentries : b.formatting with
    | nil => rfl
    | cons entry rest =>
        have hentry := hready entry (hentries ▸ List.mem_cons_self)
        exact List.takeWhile_cons_of_neg (by rw [hentry]; decide)
  have hdrop : b.formatting.dropWhile (!b.isReady ·) = b.formatting := by
    have hall := List.takeWhile_append_dropWhile (p := (!b.isReady ·)) (l := b.formatting)
    rwa [htake, List.nil_append] at hall
  unfold reopenFormatting
  rw [htake, hdrop]
  rfl

theorem place_eq (h : b.Phrasing start base outer inner marks) {id : Nat} {name : String}
    {around : List (Nat × String)} (hopened : inner ++ [base] = (id, name) :: around) :
    b.place = .inside id := by
  have hkind := h.read.kind_of_mem (hopened ▸ List.mem_cons_self : (id, name) ∈ inner ++ [base])
  have hcontent : b.dom.contentOf id = id := by
    unfold Dom.contentOf
    simp only [hkind]
  unfold place placeIn
  rw [h.stack, hopened, h.fostering]
  exact congrArg Place.inside hcontent

theorem noFrameset (h : b.Phrasing start base outer inner marks) :
    b.noFrameset.Phrasing start base outer inner marks :=
  { h with }

/-! ### Characters -/

theorem insertText (h : b.Phrasing start base outer inner marks) (chars : List Char) :
    (b.insertText chars).Phrasing start base outer inner (marks ++ chars.map .char) := by
  obtain ⟨id, name, around, hopened, -, -⟩ := h.exists_current
  have hread := h.read
  rw [hopened] at hread
  have hplace := h.place_eq hopened
  have htext : b.insertText chars = { b with dom := b.dom.appendText id chars } := by
    unfold Builder.insertText
    rw [hplace]
  rw [htext]
  exact { h with read := hopened ▸ hread.appendText chars }

/-! ### Tags -/

theorem sublist_pushFormatting (b : Builder) (id : Nat) (name : String) (attrs : List Attribute) :
    (b.pushFormatting id name attrs).formatting.Sublist
      (.element id name attrs :: b.formatting) := by
  have hdrop : ∀ (p : Formatting → Bool) (entries : List Formatting),
      (dropLastWhere p entries).Sublist entries := by
    intro p entries
    have hreverse := (List.eraseP_sublist (p := p) (l := entries.reverse)).reverse
    rwa [List.reverse_reverse] at hreverse
  unfold pushFormatting
  dsimp only
  refine List.Sublist.cons_cons _ ?_
  conv => rhs; rw [← List.takeWhile_append_dropWhile (p := (· ≠ Formatting.marker))
    (l := b.formatting)]
  refine List.Sublist.append ?_ (List.Sublist.refl _)
  split
  · exact hdrop _ _
  · exact List.Sublist.refl _

/-- An element that is opened. -/
theorem insert (h : b.Phrasing start base outer inner marks) {name : String}
    (hname : name ∈ phrasingTags) :
    (b.insertNode name []).1 = b.dom.nodes.size ∧
      (b.insertNode name []).2.formatting = b.formatting ∧ ∀ formatting : List Formatting,
        formatting.Sublist (formattingEntries ((b.dom.nodes.size, name) :: inner)) →
        { (b.insertNode name []).2 with formatting }.Phrasing start base outer
          ((b.dom.nodes.size, name) :: inner) (marks ++ [Mark.startTag name ∅]) := by
  obtain ⟨id, _, around, hopened, -, -⟩ := h.exists_current
  have hread := h.read
  rw [hopened] at hread
  have hplace := h.place_eq hopened
  have htemplate : name ≠ "template" := by
    rintro rfl
    exact absurd hname (by decide)
  have hcreate : b.dom.createElement .html name [] =
      b.dom.create (.element .html name [] none) := by
    unfold Dom.createElement
    exact if_neg (by simp [htemplate])
  have hnode : b.insertNode name [] = (b.dom.nodes.size,
      { b with
        dom := (b.dom.create (.element .html name [] none)).2.append id b.dom.nodes.size
        stack := b.dom.nodes.size :: b.stack }) := by
    unfold insertNode insertClosed
    rw [hcreate, hplace]
    rfl
  rw [hnode]
  refine ⟨rfl, rfl, fun formatting hformatting => ?_⟩
  exact { h with
    stack := congrArg (b.dom.nodes.size :: ·) h.stack
    read := by
      rw [List.cons_append, hopened]
      exact hread.openElement name
    formatting := hformatting }

/-- **A start tag.** -/
theorem startTag (h : b.Phrasing start base outer inner marks) {name : String}
    (hname : name ∈ phrasingTags) :
    (b.startInBody name [] false).Phrasing start base outer ((b.dom.nodes.size, name) :: inner)
      (marks ++ [Mark.startTag name ∅]) := by
  obtain ⟨hid, hsame, hinsert⟩ := h.insert hname
  have hstart : b.startInBody name [] false =
      if formattingTags.contains name then b.reopenFormatting.insertFormatting name []
      else b.reopenFormatting.insert name [] := by
    simp only [phrasingTags, List.mem_cons, List.not_mem_nil, or_false] at hname
    rcases hname with rfl | rfl | rfl | rfl | rfl | rfl | rfl <;> rfl
  rw [formattingEntries_cons] at hinsert
  rw [hstart, h.reopenFormatting_eq]
  by_cases hformatting : formattingTags.contains name = true
  · rw [if_pos hformatting] at hinsert ⊢
    have hsub := sublist_pushFormatting (b.insertNode name []).2 (b.insertNode name []).1 name []
    rw [hsame, hid] at hsub
    exact hinsert _ (hid ▸ hsub.trans (h.formatting.cons_cons _))
  · rw [if_neg hformatting] at hinsert ⊢
    have hopen := hinsert b.formatting h.formatting
    rw [← hsame] at hopen
    exact hopen

/-- The innermost element that is a phrasing one. -/
theorem isHtml_current {entry : Nat × String} {rest : List (Nat × String)}
    (h : b.Phrasing start base outer (entry :: rest) marks) (names : List String) :
    b.isHtml names entry.1 = names.contains entry.2 := by
  have hkind := h.read.kind_of_mem (List.mem_cons_self (a := entry) (l := rest ++ [base]))
  unfold isHtml htmlName? Dom.name?
  simp only [hkind]

/-- An element that is closed. -/
theorem close {entry : Nat × String} {rest : List (Nat × String)} {stack : List Nat}
    {formatting : List Formatting} (h : b.Phrasing start base outer (entry :: rest) marks)
    (hstack : b.stack = entry.1 :: stack)
    (hformatting : formatting.Sublist (formattingEntries rest)) :
    { b with stack, formatting }.Phrasing start base outer rest
      (marks ++ [Mark.endTag entry.2]) := by
  have hread : Dom.HasRead start b.dom (rest ++ [base]) (marks ++ [Mark.endTag entry.2]) := by
    have hread := h.read
    cases hrest : rest ++ [base] with
    | nil => exact absurd hrest (by simp)
    | cons next around =>
        rw [List.cons_append, hrest] at hread
        exact hread.closeElement
  have hsame : entry.1 :: stack = entry.1 :: ((rest ++ [base]).map (·.1) ++ outer) :=
    hstack.symm.trans h.stack
  exact { h with
    stack := (List.cons.inj hsame).2
    read := hread
    formatting := hformatting }

/-- If the innermost element is listed, its entry is the latest one. -/
theorem formatting_cases {entry : Nat × String} {rest : List (Nat × String)}
    (h : b.Phrasing start base outer (entry :: rest) marks) :
    ((∀ e ∈ b.formatting, isEntryOf entry.1 e = false) ∧
        b.formatting.Sublist (formattingEntries rest)) ∨
      ∃ older, b.formatting = .element entry.1 entry.2 [] :: older ∧
        older.Sublist (formattingEntries rest) := by
  have hother : ∀ {entries : List Formatting}, entries.Sublist (formattingEntries rest) →
      ∀ e ∈ entries, isEntryOf entry.1 e = false := by
    intro entries hsub e he
    obtain ⟨open?, hopen, rfl⟩ := List.mem_map.1 (hsub.subset he)
    have hlt := (List.pairwise_cons.1 h.read.pairwise).1 open?
      (List.mem_append_left _ (List.mem_filter.1 hopen).1)
    exact beq_eq_false_iff_ne.2 hlt.ne
  have hsub := h.formatting
  rw [formattingEntries_cons] at hsub
  split at hsub
  · rcases List.sublist_cons_iff.1 hsub with hsub | ⟨older, hformatting, hsub⟩
    · exact .inl ⟨hother hsub, hsub⟩
    · exact .inr ⟨older, hformatting, hsub⟩
  · exact .inl ⟨hother hsub, hsub⟩

theorem closeAny_eq {entry : Nat × String} {rest : List (Nat × String)} {stack : List Nat}
    (h : b.Phrasing start base outer (entry :: rest) marks) (hname : entry.2 ∈ phrasingTags)
    (hstack : b.stack = entry.1 :: stack) : b.closeAny entry.2 = { b with stack } := by
  have hhtml : b.isHtml [entry.2] entry.1 = true := by
    rw [h.isHtml_current]
    simp
  have hkept : b.isHtml impliedEnds entry.1 = false := by
    have hall : ∀ name ∈ phrasingTags, impliedEnds.contains name = false := by decide
    rw [h.isHtml_current, hall _ hname]
  have himplied : b.closeImplied [entry.2] = b := by
    unfold closeImplied
    dsimp only
    rw [hstack, List.dropWhile_cons_of_neg (by simp [hkept]), ← hstack]
  unfold closeAny
  rw [hstack, List.find?_cons_of_pos (by simp [hhtml])]
  simp only [hhtml, if_true, himplied]
  unfold popThrough
  rw [hstack, List.dropWhile_cons_of_neg (by simp), List.drop_one, List.tail_cons]

/-- A formatting element that is the innermost one is closed in one round. -/
theorem closeFormattingOnce_eq {entry : Nat × String} {stack : List Nat}
    {older : List Formatting} (hstack : b.stack = entry.1 :: stack)
    (hformatting : b.formatting = .element entry.1 entry.2 [] :: older) :
    b.closeFormattingOnce entry.2 = ({ b with stack := stack }.removeFormatting entry.1, false) := by
  have hfind : b.findFormatting entry.2 = some (entry.1, []) := by
    unfold findFormatting
    rw [hformatting, List.takeWhile_cons_of_pos (by simp), List.findSome?_cons]
    simp
  have hopen : b.stack.contains entry.1 = true := by
    rw [hstack]
    simp
  have hscope : b.nodeInScope entry.1 = true := by
    unfold nodeInScope searchScope
    rw [hstack]
    simp
  have hsplit : splitStack entry.1 b.stack = ([], stack) := by
    unfold splitStack
    rw [hstack, List.takeWhile_cons_of_neg (by simp), List.dropWhile_cons_of_neg (by simp)]
    rfl
  unfold closeFormattingOnce
  simp only [hfind, hopen, hscope, hsplit]
  rfl

theorem closeFormatting_eq {entry : Nat × String} {rest : List (Nat × String)} {stack : List Nat}
    (h : b.Phrasing start base outer (entry :: rest) marks)
    (hstack : b.stack = entry.1 :: stack) :
    b.closeFormatting entry.2 =
      { b with stack, formatting := b.formatting.eraseP (isEntryOf entry.1) } := by
  have hhtml : b.isHtml [entry.2] entry.1 = true := by
    rw [h.isHtml_current]
    simp
  unfold closeFormatting
  rw [hstack]
  dsimp only
  rcases h.formatting_cases with ⟨hother, -⟩ | ⟨older, hformatting, -⟩
  · have hnone : b.formatting.any (isEntryOf entry.1) = false :=
      List.any_eq_false.2 fun e he => by rw [hother e he]; decide
    have herase : b.formatting.eraseP (isEntryOf entry.1) = b.formatting :=
      List.eraseP_of_forall_not fun e he => by rw [hother e he]; decide
    rw [hhtml, hnone, herase]
    exact if_pos rfl
  · have hself : isEntryOf entry.1 (.element entry.1 entry.2 []) = true := beq_self_eq_true _
    have hany : b.formatting.any (isEntryOf entry.1) = true := by
      rw [hformatting, List.any_cons, hself, Bool.true_or]
    have honce := closeFormattingOnce_eq hstack hformatting
    rw [hany, Bool.not_true, Bool.and_false, if_neg Bool.false_ne_true]
    simp only [closeFormattingRounds, honce]
    rfl

/-- **An end tag.** -/
theorem endTag {entry : Nat × String} {rest : List (Nat × String)}
    (h : b.Phrasing start base outer (entry :: rest) marks) (hname : entry.2 ∈ phrasingTags) :
    (b.endInBody entry.2).Phrasing start base outer rest (marks ++ [Mark.endTag entry.2]) := by
  have hend : b.endInBody entry.2 =
      if formattingTags.contains entry.2 then b.closeFormatting entry.2
      else b.closeAny entry.2 := by
    simp only [phrasingTags, List.mem_cons, List.not_mem_nil, or_false] at hname
    rcases hname with hname | hname | hname | hname | hname | hname | hname <;> rw [hname] <;> rfl
  have hstack : b.stack = entry.1 :: ((rest ++ [base]).map (·.1) ++ outer) := h.stack
  rw [hend]
  by_cases hformatting : formattingTags.contains entry.2 = true
  · rw [if_pos hformatting, h.closeFormatting_eq hstack]
    refine h.close hstack ?_
    rcases h.formatting_cases with ⟨-, hsub⟩ | ⟨older, hentries, hsub⟩
    · exact List.eraseP_sublist.trans hsub
    · have hself : isEntryOf entry.1 (.element entry.1 entry.2 []) = true := beq_self_eq_true _
      rw [hentries, List.eraseP_cons_of_pos hself]
      exact hsub
  · have hsub := h.formatting
    rw [formattingEntries_cons, if_neg hformatting] at hsub
    rw [if_neg hformatting, h.closeAny_eq hname hstack]
    exact h.close hstack hsub

/-! ### All marks -/

section Run

variable {escape : Char → List Char} (hescape : Escapes escape)

theorem accept_chars (h : b.Phrasing start base outer inner marks) (chars : List Char) :
    (b.accept (textToken chars)).Phrasing start base outer inner (marks ++ chars.map .char) := by
  have hinsert := h.insertText chars
  unfold textToken
  split
  · rw [h.accept_eq rfl, h.reopenFormatting_eq]
    exact hinsert
  · rw [h.accept_eq rfl, h.reopenFormatting_eq]
    exact hinsert.noFrameset

theorem accept_startTag (h : b.Phrasing start base outer inner marks) {name : String}
    (hname : name ∈ phrasingTags) :
    (b.accept (.startTag name [] false)).Phrasing start base outer
      ((b.dom.nodes.size, name) :: inner) (marks ++ [Mark.startTag name ∅]) := by
  rw [h.accept_eq rfl]
  exact h.startTag hname

theorem accept_endTag {entry : Nat × String} {rest : List (Nat × String)}
    (h : b.Phrasing start base outer (entry :: rest) marks) (hname : entry.2 ∈ phrasingTags) :
    (b.accept (.endTag entry.2)).Phrasing start base outer rest
      (marks ++ [Mark.endTag entry.2]) := by
  have hrule : ruleInBody b (.endTag entry.2) = (b.endInBody entry.2, none) := by
    simp only [phrasingTags, List.mem_cons, List.not_mem_nil, or_false] at hname
    rcases hname with hname | hname | hname | hname | hname | hname | hname <;> rw [hname] <;> rfl
  rw [h.accept_eq hrule]
  exact h.endTag hname

theorem run_eof (h : b.Phrasing start base outer inner marks) (fuel : Nat) :
    (b.run (fuel + 1) []).dom = b.dom := by
  have hrule : ruleInBody b .eof = ({ b with stopped := true }, none) := by
    unfold ruleInBody
    simp only [h.templateModes]
    rfl
  have hnext : ∀ allowed, nextToken .data allowed [] = (some .eof, []) := fun _ => rfl
  rw [run_succ h.stopped h.textMode hnext, h.accept_eq hrule]
  cases fuel <;> rfl

include hescape

/-- **A run** reads all marks that are left. -/
theorem run (fuel : Nat) : ∀ {inner : List (Nat × String)} {marks rest : List Mark} {b : Builder},
    b.Phrasing start base outer inner marks → Mark.Nested (inner.map (·.2)) rest →
    (rest.flatMap (Mark.spell escape)).length < fuel →
    Dom.HasRead start (b.run fuel (rest.flatMap (Mark.spell escape))).dom [base]
      (marks ++ rest) := by
  induction fuel with
  | zero => exact fun _ _ hfuel => absurd hfuel (Nat.not_lt_zero _)
  | succ fuel ih =>
      intro inner marks rest b h hrest hfuel
      generalize hnames : inner.map (·.2) = names at hrest
      cases hrest with
      | nil =>
          obtain rfl := List.map_eq_nil_iff.1 hnames
          rw [List.append_nil, List.flatMap_nil, h.run_eof]
          exact h.read
      | @char c _ more hc hmore =>
          obtain ⟨chars, after, rfl, -, hnext⟩ := nextToken_chars hescape hc more
          have hlength := length_spell_lt hescape (.char c) (chars.map .char) after
          obtain ⟨-, hafter⟩ := hmore.of_chars
          rw [run_succ h.stopped h.textMode hnext]
          have hread := ih (h.accept_chars (c :: chars)) (hnames ▸ hafter) (by omega)
          rwa [List.append_assoc] at hread
      | @startTag name _ more hname hmore =>
          have hlength := length_spell_lt hescape (.startTag name ∅) [] more
          rw [List.nil_append] at hlength
          rw [List.flatMap_cons,
            run_succ h.stopped h.textMode fun allowed => nextToken_startTag allowed hname _]
          have hread := ih (h.accept_startTag hname) (hnames ▸ hmore) (by omega)
          rwa [List.append_assoc] at hread
      | @endTag name _ more hname hmore =>
          obtain ⟨entry, inner, rfl, rfl, rfl⟩ := List.map_eq_cons_iff.1 hnames
          have hlength := length_spell_lt hescape (.endTag entry.2) [] more
          rw [List.nil_append] at hlength
          rw [List.flatMap_cons,
            run_succ h.stopped h.textMode fun allowed => nextToken_endTag allowed hname _]
          have hread := ih (h.accept_endTag hname) hmore (by omega)
          rwa [List.append_assoc] at hread

end Run

end Phrasing

/-! ### A part of a document -/

theorem phrasing_forFragment :
    forFragment.Phrasing forFragment.dom (1, "html") [] [] [] where
  mode := rfl
  textMode := rfl
  fostering := rfl
  dropNewline := rfl
  templateModes := rfl
  stopped := rfl
  stack := rfl
  read := .intro (.outermost rfl fun _ _ => rfl) rfl .nil
  formatting := List.Sublist.refl _

/-! ### A whole document -/

/-- In a document whose body has just been opened by its first content. -/
def atBody : Builder :=
  let root := ({ forDocument with tableInParagraph := true }.createRoot []).goTo .beforeHead
  (((root.openHead []).pop.goTo .afterHead).insert "body" []).goTo .inBody

theorem phrasing_atBody : atBody.Phrasing atBody.dom (3, "body") [1] [] [] where
  mode := rfl
  textMode := rfl
  fostering := rfl
  dropNewline := rfl
  templateModes := rfl
  stopped := rfl
  stack := rfl
  read := .intro (.outermost rfl fun _ _ => rfl) rfl .nil
  formatting := List.Sublist.refl _

/-- What phrasing content begins with, but for blanks. -/
inductive BeginsContent : Token → Prop
  | text (chars : List Char) : BeginsContent (.text chars)
  | startTag {name : String} (hname : name ∈ phrasingTags) :
      BeginsContent (.startTag name [] false)
  | eof : BeginsContent .eof

/-- It opens all that stands before the body, and the body. -/
theorem take_forDocument {token : Token} (h : BeginsContent token) (fuel : Nat) :
    take (fuel + 5) forDocument token = take fuel atBody token := by
  cases h with
  | text | eof => rfl
  | startTag hname =>
      simp only [phrasingTags, List.mem_cons, List.not_mem_nil, or_false] at hname
      rcases hname with rfl | rfl | rfl | rfl | rfl | rfl | rfl <;> rfl

theorem accept_forDocument {token : Token} (h : BeginsContent token) :
    forDocument.accept token = atBody.accept token := by
  have hrule : ∃ after, ruleInBody atBody token = (after, none) := by
    cases h <;> exact ⟨_, rfl⟩
  obtain ⟨after, hrule⟩ := hrule
  rw [phrasing_atBody.accept_eq hrule, accept_of_data rfl rfl]
  exact (take_forDocument h 15).trans
    (take_of_done 14 ((phrasing_atBody.step_eq token).trans hrule))

theorem run_forDocument_of_begins {text rest : List Char} {token : Token}
    (h : BeginsContent token)
    (hnext : ∀ allowed, nextToken .data allowed text = (some token, rest)) (fuel : Nat) :
    forDocument.run (fuel + 1) text = atBody.run (fuel + 1) text := by
  rw [run_succ rfl rfl hnext, run_succ rfl rfl hnext, accept_forDocument h]

section

variable {escape : Char → List Char} (hescape : Escapes escape)

include hescape

/-- **Blanks at the beginning of a document** are dropped; all other marks are read in the body. -/
theorem run_forDocument (fuel : Nat) : ∀ {marks : List Mark}, Mark.Nested [] marks →
    (marks.flatMap (Mark.spell escape)).length < fuel →
    Dom.HasRead atBody.dom (forDocument.run fuel (marks.flatMap (Mark.spell escape))).dom
      [(3, "body")] (marks.dropWhile Mark.isBlank) := by
  induction fuel with
  | zero => exact fun _ hfuel => absurd hfuel (Nat.not_lt_zero _)
  | succ fuel ih =>
      intro marks hmarks hfuel
      have hbody := phrasing_atBody.run hescape (fuel + 1) hmarks hfuel
      rw [List.nil_append] at hbody
      cases hmarks with
      | nil =>
          rwa [← run_forDocument_of_begins .eof fun _ => rfl] at hbody
      | @char c _ more hc hmore =>
          obtain ⟨chars, rest, rfl, hkind, hnext⟩ := nextToken_chars hescape hc more
          by_cases hblank : isTextBlank c = true
          · have htoken : textToken (c :: chars) = .blank (c :: chars) :=
              if_pos (List.all_eq_true.2 (List.forall_mem_cons.2
                ⟨hblank, fun d hd => (hkind d hd).trans hblank⟩))
            have hlength := length_spell_lt hescape (.char c) (chars.map .char) rest
            obtain ⟨-, hrest⟩ := hmore.of_chars
            have hread := ih hrest (by omega)
            have hblanks : ∀ mark ∈ (c :: chars).map Mark.char, mark.isBlank = true := by
              rw [List.forall_mem_map]
              exact List.forall_mem_cons.2 ⟨hblank, fun d hd => (hkind d hd).trans hblank⟩
            have hdrop : (Mark.char c :: (chars.map .char ++ rest)).dropWhile Mark.isBlank =
                rest.dropWhile Mark.isBlank := List.dropWhile_append_of_pos hblanks
            rw [hdrop, run_succ rfl rfl hnext, htoken]
            exact hread
          · have htoken : textToken (c :: chars) = .text (c :: chars) :=
              if_neg fun hall => hblank (List.all_eq_true.1 hall c List.mem_cons_self)
            rw [htoken] at hnext
            rw [← run_forDocument_of_begins (.text _) hnext] at hbody
            rwa [List.dropWhile_cons_of_neg (show ¬(Mark.char c).isBlank = true from hblank)]
      | @startTag name _ more hname hmore =>
          rw [List.flatMap_cons] at hbody ⊢
          rwa [← run_forDocument_of_begins (.startTag hname) fun allowed =>
            nextToken_startTag allowed hname _] at hbody

/-- Written marks begin with a byte order mark only if it is the first of them. -/
theorem spell_ne_start {names : List String} {marks : List Mark} (h : Mark.Nested names marks)
    (hstart : ∀ rest, marks ≠ .char '\ufeff' :: rest) (text : List Char) :
    marks.flatMap (Mark.spell escape) ≠ '\ufeff' :: text := by
  intro htext
  cases h with
  | nil => exact absurd htext (List.cons_ne_nil _ _).symm
  | startTag | endTag => exact absurd (List.cons.inj htext).1 (by decide)
  | @char c _ rest =>
      rw [List.flatMap_cons] at htext
      rcases List.append_eq_cons_iff.1 htext with ⟨hnil, -⟩ | ⟨more, hcode, -⟩
      · exact spell_ne_nil hescape (.char c) hnil
      · obtain ⟨rfl, -⟩ := hescape.start_iff.1 hcode
        exact hstart rest rfl

/-- Written marks are readable, but for a byte order mark at their beginning. -/
theorem readable_spell {names : List String} {marks : List Mark} (h : Mark.Nested names marks) :
    readable (marks.flatMap (Mark.spell escape)) =
      (Mark.withoutStart marks).flatMap (Mark.spell escape) := by
  have hsame := normalizeNewlines_of_notMem (notMem_return_spell hescape h.withoutStart)
  unfold readable
  by_cases hstart : ∃ rest, marks = .char '\ufeff' :: rest
  · obtain ⟨rest, rfl⟩ := hstart
    rw [List.flatMap_cons, Mark.spell, hescape.start_iff.2 ⟨rfl, rfl⟩]
    exact hsame
  · have hfirst : ∀ rest, marks ≠ .char '\ufeff' :: rest := fun rest heq => hstart ⟨rest, heq⟩
    have hkept : Mark.withoutStart marks = marks := Mark.withoutStart_of_ne hfirst
    rw [hkept] at hsame ⊢
    split
    · next text htext => exact absurd htext (spell_ne_start hescape h hfirst text)
    · exact hsame

theorem readAll_spell {names : List String} {marks : List Mark} (h : Mark.Nested names marks)
    (b : Builder) : b.readAll (marks.flatMap (Mark.spell escape)) =
      b.run (((Mark.withoutStart marks).flatMap (Mark.spell escape)).length + 2)
        ((Mark.withoutStart marks).flatMap (Mark.spell escape)) := by
  rw [← readable_spell hescape h]
  rfl

end

end Builder

variable {escape : Char → List Char} (hescape : Escapes escape) {marks : List Mark}

include hescape

/-- **A part of a document** is read as it is written, but for a byte order mark at its
beginning. -/
theorem spells_readFragment (h : Mark.Nested [] marks) :
    Markup.Spells (readFragment (marks.flatMap (Mark.spell escape))) (Mark.withoutStart marks) := by
  have hread := Builder.phrasing_forFragment.run hescape
    (((Mark.withoutStart marks).flatMap (Mark.spell escape)).length + 2) h.withoutStart (by omega)
  rw [← Builder.readAll_spell hescape h] at hread
  have hroot : ((Builder.forFragment.readAll
      (marks.flatMap (Mark.spell escape))).dom.node Dom.document).children = [1] :=
    congrArg DomNode.children (hread.node_of_lt Nat.one_pos)
  unfold readFragment
  simp only [hroot]
  exact hread.spells

/-- **A whole document** is read as it is written, but for a byte order mark and then blanks at
its beginning. -/
theorem spells_readDocument (h : Mark.Nested [] marks) :
    Markup.Spells (readDocument (marks.flatMap (Mark.spell escape)))
      ((Mark.withoutStart marks).dropWhile Mark.isBlank) := by
  have hread := Builder.run_forDocument hescape
    (((Mark.withoutStart marks).flatMap (Mark.spell escape)).length + 2) h.withoutStart (by omega)
  rw [← Builder.readAll_spell hescape h] at hread
  unfold readDocument
  generalize (Builder.forDocument.readAll (marks.flatMap (Mark.spell escape))).dom = dom at hread ⊢
  have hnode : ∀ other < 3, dom.node other = Builder.atBody.dom.node other :=
    fun _ => hread.node_of_lt
  have hbody : (dom.node 3).kind = .element .html "body" [] none :=
    hread.kind_of_mem List.mem_cons_self
  have hhtml : dom.childNamed? Dom.document "html" = some 1 := by
    have hchildren : (dom.node Dom.document).children = [1] :=
      congrArg DomNode.children (hnode 0 (by decide))
    have hkind : (dom.node 1).kind = .element .html "html" [] none :=
      congrArg DomNode.kind (hnode 1 (by decide))
    unfold Dom.childNamed? Dom.name?
    simp only [hchildren, List.find?_cons, hkind]
    rfl
  have hinside : dom.childNamed? 1 "body" = some 3 := by
    have hchildren : (dom.node 1).children = [2, 3] :=
      congrArg DomNode.children (hnode 1 (by decide))
    have hkind : (dom.node 2).kind = .element .html "head" [] none :=
      congrArg DomNode.kind (hnode 2 (by decide))
    unfold Dom.childNamed? Dom.name?
    simp only [hchildren, List.find?_cons, hkind, hbody]
    rfl
  simp only [hhtml, Option.bind_some, hinside]
  exact hread.spells

end PostPress.Html
