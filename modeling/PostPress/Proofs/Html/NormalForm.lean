import PostPress.Html.Writer
import PostPress.Proofs.Html.Element

/-!
# PostPress.Proofs.Html.NormalForm

**Markup tells trees apart up to their normal form.** What is written of a tree is a
sequence of marks: characters of texts, start tags and end tags. The marks can be told
apart in the markup, and the normal form can be read off the marks, so that nothing but the
normal form decides what is written (`toHtml_eq_iff`).

* `Node.normalForm` — what of a tree is to be seen in its markup;
* `Node.marks` — the marks of a tree, and `Mark.write`, how they are written;
* `IsCode` — codes that can be told apart one after the other, the one notion that names,
  values, attributes and marks have in common.
-/

namespace PostPress

open Html

/-! ### The normal form -/

namespace Node

/-- A text before nodes in normal form: it is joined with a text that they begin with, and
left out if it is empty. -/
def textBefore (value : String) : List Node → List Node
  | .text next :: rest => .text (value ++ next) :: rest
  | after => if value = "" then after else .text value :: after

mutual

/-- The normal form of a tree, before nodes in normal form: children take the place of a
root or a foreign node, values are plain, and void elements hold nothing. -/
def normalBefore : Node → List Node → List Node
  | .text value, after => textBefore value after
  | .root children, after | .foreign _ children, after => normalAllBefore children after
  | .element tag attrs children, after =>
      .element tag (attrs.map fun value => .text value.asText)
        (if voidElements.contains tag then [] else normalAllBefore children []) :: after

/-- The normal form of some trees, before nodes in normal form. -/
def normalAllBefore : List Node → List Node → List Node
  | [], after => after
  | node :: rest, after => normalBefore node (normalAllBefore rest after)

end

/-- The normal form of a tree. -/
def normalForm (tree : Node) : List Node := tree.normalBefore []

theorem textBefore_empty (after : List Node) : textBefore "" after = after := by
  unfold textBefore
  split
  · rw [String.empty_append]
  · rfl

theorem textBefore_append (a b : String) (after : List Node) :
    textBefore (a ++ b) after = textBefore a (textBefore b after) := by
  by_cases hb : b = ""
  · rw [hb, String.append_empty, textBefore_empty]
  · have hab : a ++ b ≠ "" := fun h => hb (String.append_eq_empty_iff.1 h).2
    unfold textBefore
    split
    · simp only [String.append_assoc]
    · simp only [if_neg hab, if_neg hb]

end Node

/-! ### Marks -/

/-- What is written of a tree, one after the other. -/
inductive Mark
  /-- A character of a text. -/
  | char (c : Char)
  /-- The start tag of an element, with the values of its attributes as they are
  written. -/
  | startTag (tag : String) (attrs : NameMap String)
  /-- The end tag of an element. -/
  | endTag (tag : String)

namespace Mark

/-- A mark as markup, with the newline that may come after an element. -/
def write (newlines : Bool) : Mark → List Char
  | .char c => escapeTextChar c
  | .startTag tag attrs =>
      writeStartTag tag (attrs.map .text) ++
        if voidElements.contains tag then afterElement newlines tag else []
  | .endTag tag => '<' :: '/' :: (tag.toList ++ '>' :: afterElement newlines tag)

/-- Read a mark before what was read: the lists of nodes that come after it, each inside
an element whose end tag was read and followed by what comes after that element. -/
def readBefore : Mark → List (List Node) → List (List Node)
  | .char c, after :: outer => Node.textBefore (String.singleton c) after :: outer
  | .endTag _, outer => [] :: outer
  | .startTag tag attrs, children :: outer =>
      if voidElements.contains tag then
        (.element tag (attrs.map .text) [] :: children) :: outer
      else
        match outer with
        | after :: outer => (.element tag (attrs.map .text) children :: after) :: outer
        | [] => []
  | _, [] => []

end Mark

namespace Node

mutual

/-- The marks of a tree. -/
def marks : Node → List Mark
  | .text value => value.toList.map .char
  | .root children | .foreign _ children => marksList children
  | .element tag attrs children =>
      .startTag tag (attrs.map AttrValue.asText) ::
        if voidElements.contains tag then [] else marksList children ++ [.endTag tag]

/-- The marks of some trees. -/
def marksList : List Node → List Mark
  | [] => []
  | node :: rest => marks node ++ marksList rest

end

theorem writeStartTag_asText (tag : String) (attrs : Attributes) :
    writeStartTag tag ((attrs.map AttrValue.asText).map .text) = writeStartTag tag attrs := by
  simp only [writeStartTag, NameMap.map, List.flatMap_map]
  rfl

mutual

/-- A tree is written mark by mark. -/
theorem writeNode_eq (newlines : Bool) : ∀ node : Node,
    writeNode newlines node = node.marks.flatMap (Mark.write newlines)
  | .text value => by rw [writeNode, escapeText, marks, List.flatMap_map]; rfl
  | .root children | .foreign _ children => writeNodes_eq newlines children
  | .element tag attrs children => by
      rw [writeNode, marks, List.flatMap_cons, Mark.write, writeStartTag_asText,
        writeNodes_eq newlines children]
      split
      · simp
      · simp [Mark.write]

theorem writeNodes_eq (newlines : Bool) : ∀ nodes : List Node,
    writeNodes newlines nodes = (marksList nodes).flatMap (Mark.write newlines)
  | [] => rfl
  | node :: rest => by
      rw [writeNodes, marksList, List.flatMap_append, writeNode_eq newlines node,
        writeNodes_eq newlines rest]

end

/-- Characters are read as one text. -/
theorem readBefore_text (chars : List Char) (after : List Node) (outer : List (List Node)) :
    (chars.map Mark.char).foldr Mark.readBefore (after :: outer) =
      textBefore (String.ofList chars) after :: outer := by
  induction chars with
  | nil => exact congrArg (· :: outer) (textBefore_empty after).symm
  | cons c rest ih =>
      have hchars : String.ofList (c :: rest) = String.singleton c ++ String.ofList rest := by
        rw [← String.toList_inj]
        simp
      rw [List.map_cons, List.foldr_cons, ih, hchars, textBefore_append]
      rfl

mutual

/-- The normal form is read off the marks. By induction on the tree: the end tag of an
element begins a list, which its start tag closes. -/
theorem readBefore_marks : ∀ (node : Node) (after : List Node) (outer : List (List Node)),
    node.marks.foldr Mark.readBefore (after :: outer) = node.normalBefore after :: outer
  | .text value, after, outer => by
      rw [marks, readBefore_text, String.ofList_toList, normalBefore]
  | .root children, after, outer | .foreign _ children, after, outer =>
      readBefore_marksList children after outer
  | .element tag attrs children, after, outer => by
      have hattrs : (attrs.map AttrValue.asText).map AttrValue.text =
          attrs.map fun value => .text value.asText := by
        simp [NameMap.map]
      rw [marks, List.foldr_cons, normalBefore]
      by_cases hvoid : voidElements.contains tag = true
      · simp only [if_pos hvoid, List.foldr_nil, Mark.readBefore, hattrs]
      · simp only [if_neg hvoid, List.foldr_append, List.foldr_cons, List.foldr_nil,
          Mark.readBefore, readBefore_marksList children [] (after :: outer), hattrs]

theorem readBefore_marksList : ∀ (nodes after : List Node) (outer : List (List Node)),
    (marksList nodes).foldr Mark.readBefore (after :: outer) =
      normalAllBefore nodes after :: outer
  | [], _, _ => rfl
  | node :: rest, after, outer => by
      rw [marksList, List.foldr_append, readBefore_marksList rest, readBefore_marks node,
        normalAllBefore]

end

theorem marksList_textBefore (value : String) (after : List Node) :
    marksList (textBefore value after) = value.toList.map .char ++ marksList after := by
  unfold textBefore
  split
  · simp [marksList, marks]
  · split
    · next hempty => simp [hempty]
    · rfl

mutual

/-- A tree and its normal form have the same marks. -/
theorem marksList_normalBefore : ∀ (node : Node) (after : List Node),
    marksList (node.normalBefore after) = node.marks ++ marksList after
  | .text value, after => marksList_textBefore value after
  | .root children, after | .foreign _ children, after =>
      marksList_normalAllBefore children after
  | .element tag attrs children, after => by
      have hattrs : (attrs.map fun value => AttrValue.text value.asText).map AttrValue.asText =
          attrs.map AttrValue.asText := by
        simp [NameMap.map, AttrValue.asText]
      rw [normalBefore, marksList, marks, marks, hattrs]
      split
      · rfl
      · rw [marksList_normalAllBefore children, marksList, List.append_nil]

theorem marksList_normalAllBefore : ∀ nodes after : List Node,
    marksList (normalAllBefore nodes after) = marksList nodes ++ marksList after
  | [], _ => rfl
  | node :: rest, after => by
      rw [normalAllBefore, marksList_normalBefore node, marksList_normalAllBefore rest,
        marksList, List.append_assoc]

end

/-- The marks and the normal form of a tree determine each other. -/
theorem marks_eq_iff (a b : Node) : a.marks = b.marks ↔ a.normalForm = b.normalForm := by
  constructor
  · intro h
    have hread := (readBefore_marks a [] []).symm.trans (h ▸ readBefore_marks b [] [])
    exact (List.cons.inj hread).1
  · intro h
    have hmarks := congrArg marksList h
    simpa [normalForm, marksList_normalBefore, marksList] using hmarks

/-- A normal form is in normal form. -/
theorem normalAllBefore_normalForm (tree : Node) :
    normalAllBefore tree.normalForm [] = tree.normalForm := by
  have hmarks : marksList tree.normalForm = tree.marks := by
    simp [normalForm, marksList_normalBefore, marksList]
  have hread := readBefore_marksList tree.normalForm [] []
  rw [hmarks, readBefore_marks tree [] []] at hread
  exact (List.cons.inj hread).1.symm

end Node

/-! ### Codes that can be told apart -/

/-- A code for some things, each of which can be told apart from all others at the front of
a text: what comes after it, the code of another one or the end, is known to begin in a way
that lets it end there. -/
structure IsCode {α : Type} (code : α → List Char) (Fits : α → Prop)
    (Next Stop : List Char → Prop) : Prop where
  /-- Codes at the front of equal texts are equal. -/
  cut : ∀ {a b : α} {r s : List Char}, Fits a → Fits b → Next r → Next s →
    code a ++ r = code b ++ s → a = b ∧ r = s
  /-- A code may be followed by a code. -/
  next : ∀ {a : α} (r : List Char), Fits a → Next (code a ++ r)
  /-- A code may be followed by the end. -/
  stop : ∀ {r : List Char}, Stop r → Next r
  /-- No code looks like the end. -/
  ends : ∀ {a : α} {r : List Char}, Fits a → ¬Stop (code a ++ r)

/-- Equal texts are the codes of the same things, if they end in the same way. -/
theorem IsCode.flatMap_inj {α : Type} {code : α → List Char} {Fits : α → Prop}
    {Next Stop : List Char → Prop} (hcode : IsCode code Fits Next Stop) {as bs : List α}
    (has : ∀ a ∈ as, Fits a) (hbs : ∀ b ∈ bs, Fits b) {r s : List Char} (hr : Stop r)
    (hs : Stop s) (h : as.flatMap code ++ r = bs.flatMap code ++ s) : as = bs ∧ r = s := by
  induction as generalizing bs with
  | nil =>
      cases bs with
      | nil => exact ⟨rfl, h⟩
      | cons b bs =>
          rw [List.flatMap_nil, List.nil_append, List.flatMap_cons, List.append_assoc] at h
          exact absurd (h ▸ hr) (hcode.ends (hbs b List.mem_cons_self))
  | cons a as ih =>
      have ha := has a List.mem_cons_self
      cases bs with
      | nil =>
          rw [List.flatMap_nil, List.nil_append, List.flatMap_cons, List.append_assoc] at h
          exact absurd (h ▸ hs) (hcode.ends ha)
      | cons b bs =>
          have has' : ∀ a ∈ as, Fits a := fun a ha => has a (List.mem_cons_of_mem _ ha)
          have hbs' : ∀ b ∈ bs, Fits b := fun b hb => hbs b (List.mem_cons_of_mem _ hb)
          -- Whether a further code or the end comes next, this code ends before it.
          have hnext : ∀ {cs : List α} {t : List Char}, (∀ c ∈ cs, Fits c) → Stop t →
              Next (cs.flatMap code ++ t) := by
            intro cs t hcs ht
            cases cs with
            | nil => exact hcode.stop ht
            | cons c cs =>
                rw [List.flatMap_cons, List.append_assoc]
                exact hcode.next _ (hcs c List.mem_cons_self)
          rw [List.flatMap_cons, List.flatMap_cons, List.append_assoc, List.append_assoc] at h
          obtain ⟨rfl, hrest⟩ := hcode.cut ha (hbs b List.mem_cons_self) (hnext has' hr)
            (hnext hbs' hs) h
          obtain ⟨rfl, hsame⟩ := ih has' hbs' hrest
          exact ⟨rfl, hsame⟩

namespace Html

/-! ### Names -/

/-- A character of a name: neither white space nor one that ends a name. -/
def isNameChar (c : Char) : Bool := !Text.isBlank c && !"<>/\"=&".toList.contains c

/-- A name that can be written. -/
def isName (name : String) : Bool := name != "" && name.toList.all isNameChar

/-- What comes after a name does not belong to it. -/
def EndsName (text : List Char) : Prop := ∀ c rest, text = c :: rest → isNameChar c = false

theorem isCode_nameChar :
    IsCode (fun c => [c]) (fun c => isNameChar c = true) (fun _ => True) EndsName where
  cut _ _ _ _ h := List.cons.inj h
  next _ _ := trivial
  stop _ := trivial
  ends {a r} ha hends := Bool.false_ne_true ((hends a r rfl).symm.trans ha)

/-- Names at the front of equal texts are equal. -/
theorem name_append_inj {a b : String} (ha : isName a = true) (hb : isName b = true)
    {r s : List Char} (hr : EndsName r) (hs : EndsName s) (h : a.toList ++ r = b.toList ++ s) :
    a = b ∧ r = s := by
  have hall : ∀ {name : String}, isName name = true → ∀ c ∈ name.toList, isNameChar c = true :=
    fun hname => List.all_eq_true.1 (Bool.and_eq_true_iff.1 hname).2
  rw [← List.flatMap_singleton' a.toList, ← List.flatMap_singleton' b.toList] at h
  obtain ⟨hname, hrest⟩ := isCode_nameChar.flatMap_inj (hall ha) (hall hb) hr hs h
  exact ⟨String.toList_inj.1 hname, hrest⟩

/-- A name begins with a character of a name. -/
theorem exists_of_isName {name : String} (h : isName name = true) :
    ∃ c rest, name.toList = c :: rest ∧ isNameChar c = true := by
  obtain ⟨hne, hall⟩ := Bool.and_eq_true_iff.1 h
  cases hchars : name.toList with
  | nil => exact absurd (String.toList_eq_nil_iff.1 hchars) (bne_iff_ne.1 hne)
  | cons c rest =>
      rw [hchars] at hall
      exact ⟨c, rest, rfl, (List.all_cons ▸ hall |> Bool.and_eq_true_iff.1).1⟩

/-! ### Texts and values -/

/-- No two characters are escaped alike, whatever follows. -/
theorem escapeTextChar_cut {a b : Char} {r s : List Char}
    (h : escapeTextChar a ++ r = escapeTextChar b ++ s) : a = b ∧ r = s := by
  unfold escapeTextChar at h
  split at h <;> split at h <;> grind

theorem escapeAttrChar_cut {a b : Char} {r s : List Char}
    (h : escapeAttrChar a ++ r = escapeAttrChar b ++ s) : a = b ∧ r = s := by
  -- A quote stays as it is in a text, so no escape of a text begins with `&quot;`.
  have hquote : ∀ {c : Char} {r s : List Char}, c ≠ '"' →
      "&quot;".toList ++ r ≠ escapeTextChar c ++ s := by
    intro c r s hc
    unfold escapeTextChar
    split <;> grind
  unfold escapeAttrChar at h
  split at h <;> split at h
  · next ha hb => exact ⟨ha.trans hb.symm, List.append_cancel_left h⟩
  · next hb => exact absurd h (hquote hb)
  · next ha _ => exact absurd h.symm (hquote ha)
  · exact escapeTextChar_cut h

theorem escapeTextChar_ne_nil (c : Char) : escapeTextChar c ≠ [] := by
  unfold escapeTextChar
  split <;> simp

/-- An escaped character begins no tag. -/
theorem escapeTextChar_ne_angle (c : Char) (r s : List Char) : escapeTextChar c ++ r ≠ '<' :: s := by
  unfold escapeTextChar
  split <;> simp_all

/-- A text that begins with a character. -/
abbrev StartsWith (c : Char) (text : List Char) : Prop := ∃ rest, text = c :: rest

/-- A value does not end early: no character is escaped to a quote. -/
theorem isCode_escapeAttrChar :
    IsCode escapeAttrChar (fun _ => True) (fun _ => True) (StartsWith '"') where
  cut _ _ _ _ h := escapeAttrChar_cut h
  next _ _ := trivial
  stop _ := trivial
  ends {a r} _ hends := by
    obtain ⟨rest, h⟩ := hends
    unfold escapeAttrChar at h
    split at h
    · exact absurd (List.cons.inj h).1 (by decide)
    · unfold escapeTextChar at h
      split at h <;> grind

theorem escapeAttr_append_inj {a b : String} {r s : List Char}
    (h : escapeAttr a ++ '"' :: r = escapeAttr b ++ '"' :: s) : a = b ∧ r = s := by
  obtain ⟨hvalue, hrest⟩ := isCode_escapeAttrChar.flatMap_inj (fun _ _ => trivial)
    (fun _ _ => trivial) ⟨r, rfl⟩ ⟨s, rfl⟩ h
  exact ⟨String.toList_inj.1 hvalue, (List.cons.inj hrest).2⟩

/-! ### Attributes -/

/-- What comes after an attribute: another one, or the end of the tag. -/
def EndsAttribute (text : List Char) : Prop := StartsWith ' ' text ∨ StartsWith '>' text

/-- The value of an attribute in a tag. -/
def writeValue (name value : String) : List Char :=
  if value = "" && booleanAttributes.contains name then []
  else '=' :: '"' :: (escapeAttr value ++ ['"'])

/-- An attribute with a plain value. -/
def writePlain (attr : String × String) : List Char := writeAttribute (attr.1, .text attr.2)

theorem writePlain_eq (attr : String × String) :
    writePlain attr = ' ' :: (attr.1.toList ++ writeValue attr.1 attr.2) := by
  unfold writePlain writeAttribute writeValue AttrValue.asText
  by_cases hbare : (attr.2 = "" && booleanAttributes.contains attr.1) = true
  · simp only [if_pos hbare, List.append_nil]
  · simp only [if_neg hbare, List.cons_append, List.append_assoc]

theorem endsName_of_startsWith {c : Char} {text : List Char} (h : StartsWith c text)
    (hc : isNameChar c = false) : EndsName text := by
  rintro d rest hd
  obtain ⟨rest', rfl⟩ := h
  exact (List.cons.inj hd).1 ▸ hc

theorem EndsAttribute.endsName {text : List Char} (h : EndsAttribute text) : EndsName text :=
  h.elim (endsName_of_startsWith · (by decide)) (endsName_of_startsWith · (by decide))

theorem endsName_writeValue (name value : String) {text : List Char} (h : EndsAttribute text) :
    EndsName (writeValue name value ++ text) := by
  unfold writeValue
  split
  · exact h.endsName
  · exact endsName_of_startsWith ⟨_, rfl⟩ (by decide)

/-- A value is told apart from another one of the same attribute, and from none. -/
theorem writeValue_cut {name a b : String} {r s : List Char} (hr : EndsAttribute r)
    (hs : EndsAttribute s) (h : writeValue name a ++ r = writeValue name b ++ s) :
    a = b ∧ r = s := by
  -- An attribute without a value is followed by a space or the end of the tag, not by `=`.
  have hbare : ∀ {text value : List Char}, EndsAttribute text → text ≠ '=' :: value := by
    rintro text value (⟨rest, rfl⟩ | ⟨rest, rfl⟩) h <;> exact absurd (List.cons.inj h).1 (by decide)
  unfold writeValue at h
  split at h <;> split at h
  · next ha hb =>
      rw [Bool.and_eq_true, decide_eq_true_eq] at ha hb
      exact ⟨ha.1.trans hb.1.symm, h⟩
  · exact absurd h (hbare hr)
  · exact absurd h.symm (hbare hs)
  · simp only [List.cons_append, List.append_assoc, List.cons.injEq, true_and, List.nil_append] at h
    exact escapeAttr_append_inj h

theorem isCode_writePlain :
    IsCode writePlain (fun attr => isName attr.1 = true) EndsAttribute (StartsWith '>') where
  cut {a b r s} ha hb hr hs h := by
    obtain ⟨name, value⟩ := a
    obtain ⟨name', value'⟩ := b
    rw [writePlain_eq, writePlain_eq, List.cons_append, List.cons_append, List.append_assoc,
      List.append_assoc] at h
    obtain ⟨rfl, hvalue⟩ := name_append_inj ha hb (endsName_writeValue name value hr)
      (endsName_writeValue name' value' hs) (List.cons.inj h).2
    obtain ⟨rfl, hrest⟩ := writeValue_cut hr hs hvalue
    exact ⟨rfl, hrest⟩
  next {a} r _ := .inl ⟨_, by rw [writePlain_eq]; rfl⟩
  stop h := .inr h
  ends {a r} _ hends := by
    obtain ⟨rest, h⟩ := hends
    rw [writePlain_eq] at h
    exact absurd (List.cons.inj h).1 (by decide)

end Html

/-! ### Tags -/

namespace Mark

/-- The names of a mark can be written. -/
def IsNamed : Mark → Prop
  | .char _ => True
  | .startTag tag attrs => isName tag = true ∧ ∀ attr ∈ attrs.entries, isName attr.1 = true
  | .endTag tag => isName tag = true

theorem write_startTag (newlines : Bool) (tag : String) (attrs : NameMap String) (r : List Char) :
    (startTag tag attrs).write newlines ++ r =
      '<' :: (tag.toList ++ (attrs.entries.flatMap writePlain ++ '>' ::
        ((if voidElements.contains tag then afterElement newlines tag else []) ++ r))) := by
  have hattrs : (attrs.map AttrValue.text).entries.flatMap writeAttribute =
      attrs.entries.flatMap writePlain := List.flatMap_map ..
  rw [write, writeStartTag, hattrs]
  simp only [List.cons_append, List.append_assoc, List.nil_append]

theorem startTag_cut {newlines : Bool} {tag tag' : String} {attrs attrs' : NameMap String}
    {r s : List Char} (ha : (startTag tag attrs).IsNamed) (hb : (startTag tag' attrs').IsNamed)
    (h : (startTag tag attrs).write newlines ++ r = (startTag tag' attrs').write newlines ++ s) :
    startTag tag attrs = startTag tag' attrs' ∧ r = s := by
  have hends : ∀ (attrs : NameMap String) (text : List Char),
      EndsName (attrs.entries.flatMap writePlain ++ '>' :: text) := by
    intro attrs text
    refine EndsAttribute.endsName ?_
    cases attrs.entries with
    | nil => exact .inr ⟨text, rfl⟩
    | cons attr rest => exact .inl ⟨_, by rw [List.flatMap_cons, writePlain_eq]; rfl⟩
  rw [write_startTag, write_startTag] at h
  obtain ⟨rfl, hattrs⟩ := name_append_inj ha.1 hb.1 (hends _ _) (hends _ _) (List.cons.inj h).2
  obtain ⟨hentries, hrest⟩ :=
    isCode_writePlain.flatMap_inj ha.2 hb.2 ⟨_, rfl⟩ ⟨_, rfl⟩ hattrs
  obtain rfl : attrs = attrs' := by
    cases attrs
    cases attrs'
    exact (NameMap.mk.injEq ..).mpr hentries
  exact ⟨rfl, List.append_cancel_left (List.cons.inj hrest).2⟩

theorem endTag_cut {newlines : Bool} {tag tag' : String} {r s : List Char}
    (ha : isName tag = true) (hb : isName tag' = true)
    (h : (endTag tag).write newlines ++ r = (endTag tag').write newlines ++ s) :
    endTag tag = endTag tag' ∧ r = s := by
  have hends : ∀ text, EndsName ('>' :: text) := fun text =>
    endsName_of_startsWith ⟨text, rfl⟩ (by decide)
  simp only [write, List.cons_append, List.append_assoc, List.cons.injEq, true_and] at h
  obtain ⟨rfl, hrest⟩ := name_append_inj ha hb (hends _) (hends _) h
  exact ⟨rfl, List.append_cancel_left (List.cons.inj hrest).2⟩

/-- A name does not begin with a slash, so a start tag is no end tag. -/
theorem startTag_ne_endTag {newlines : Bool} {tag tag' : String} {attrs : NameMap String}
    {r s : List Char} (ha : isName tag = true) :
    (startTag tag attrs).write newlines ++ r ≠ (endTag tag').write newlines ++ s := by
  intro h
  obtain ⟨c, rest, hchars, hc⟩ := exists_of_isName ha
  rw [write_startTag, hchars] at h
  have hslash : c = '/' := (List.cons.inj (List.cons.inj h).2).1
  rw [hslash] at hc
  exact absurd hc (by decide)

theorem isCode_write (newlines : Bool) :
    IsCode (write newlines) IsNamed (fun _ => True) (· = []) where
  cut {a b r s} ha hb _ _ h := by
    cases a with
    | char c =>
        cases b with
        | char d =>
            obtain ⟨rfl, hrest⟩ := escapeTextChar_cut h
            exact ⟨rfl, hrest⟩
        | startTag tag attrs =>
            rw [write_startTag] at h
            exact absurd h (escapeTextChar_ne_angle c r _)
        | endTag tag => exact absurd h (escapeTextChar_ne_angle c r _)
    | startTag tag attrs =>
        cases b with
        | char d =>
            rw [write_startTag] at h
            exact absurd h.symm (escapeTextChar_ne_angle d s _)
        | startTag tag' attrs' => exact startTag_cut ha hb h
        | endTag tag' => exact absurd h (startTag_ne_endTag ha.1)
    | endTag tag =>
        cases b with
        | char d => exact absurd h.symm (escapeTextChar_ne_angle d s _)
        | startTag tag' attrs' => exact absurd h.symm (startTag_ne_endTag hb.1)
        | endTag tag' => exact endTag_cut ha hb h
  next _ _ := trivial
  stop _ := trivial
  ends {a r} _ hends := by
    have hnil := (List.append_eq_nil_iff.1 hends).1
    cases a with
    | char c => exact absurd hnil (escapeTextChar_ne_nil c)
    | startTag tag attrs => exact absurd hnil nofun
    | endTag tag => exact absurd hnil nofun

end Mark

/-! ### The writer -/

namespace Node

/-- The names of an element and of its attributes can be written. -/
def CanBeNamed (element : String × Attributes) : Prop :=
  isName element.1 = true ∧ ∀ name ∈ element.2.names, isName name = true

/-- All names in a tree can be written. -/
def HasNames (tree : Node) : Prop := ∀ element ∈ tree.elements, CanBeNamed element

instance (element : String × Attributes) : Decidable (CanBeNamed element) :=
  inferInstanceAs (Decidable (_ ∧ _))

instance (tree : Node) : Decidable tree.HasNames :=
  inferInstanceAs (Decidable (∀ element ∈ tree.elements, CanBeNamed element))

mutual

theorem isNamed_of_mem_marks : ∀ {node : Node} {mark : Mark},
    (∀ element ∈ node.elements, CanBeNamed element) → mark ∈ node.marks → mark.IsNamed
  | .text value, mark, _, hmark => by
      obtain ⟨c, -, rfl⟩ := List.mem_map.1 hmark
      trivial
  | .root children, mark, h, hmark | .foreign _ children, mark, h, hmark =>
      isNamed_of_mem_marksList h hmark
  | .element tag attrs children, mark, h, hmark => by
      obtain ⟨htag, hattrs⟩ := h (tag, attrs) List.mem_cons_self
      have hchildren : ∀ element ∈ elementsList children, CanBeNamed element :=
        fun element helement => h element (List.mem_cons_of_mem _ helement)
      rcases List.mem_cons.1 hmark with rfl | hmark
      · refine ⟨htag, fun attr hattr => ?_⟩
        obtain ⟨entry, hentry, rfl⟩ := List.mem_map.1 hattr
        exact hattrs entry.1 (List.mem_map_of_mem hentry)
      · split at hmark
        · exact absurd hmark List.not_mem_nil
        · rcases List.mem_append.1 hmark with hmark | hmark
          · exact isNamed_of_mem_marksList hchildren hmark
          · obtain rfl := List.mem_singleton.1 hmark
            exact htag

theorem isNamed_of_mem_marksList : ∀ {nodes : List Node} {mark : Mark},
    (∀ element ∈ elementsList nodes, CanBeNamed element) → mark ∈ marksList nodes → mark.IsNamed
  | [], _, _, hmark => absurd hmark List.not_mem_nil
  | node :: rest, mark, h, hmark => by
      rcases List.mem_append.1 hmark with hmark | hmark
      · exact isNamed_of_mem_marks
          (fun element helement => h element (List.mem_append_left _ helement)) hmark
      · exact isNamed_of_mem_marksList
          (fun element helement => h element (List.mem_append_right _ helement)) hmark

end

theorem writeNode_eq_iff (newlines : Bool) {a b : Node} (ha : a.HasNames) (hb : b.HasNames) :
    writeNode newlines a = writeNode newlines b ↔ a.normalForm = b.normalForm := by
  rw [← marks_eq_iff, writeNode_eq, writeNode_eq]
  refine ⟨fun h => ?_, fun h => congrArg _ h⟩
  rw [← List.append_nil (a.marks.flatMap _), ← List.append_nil (b.marks.flatMap _)] at h
  exact ((Mark.isCode_write newlines).flatMap_inj (fun _ => isNamed_of_mem_marks ha)
    (fun _ => isNamed_of_mem_marks hb) rfl rfl h).1

end Node

/-- **Markup tells trees apart up to their normal form**, with newlines and without: two
trees whose names can be written are written alike exactly if they have the same normal
form, whatever their texts and values are. -/
theorem toHtml_eq_iff {a b : Node} (ha : a.HasNames) (hb : b.HasNames) :
    (toHtml a = toHtml b ↔ a.normalForm = b.normalForm) ∧
      (toCompactHtml a = toCompactHtml b ↔ a.normalForm = b.normalForm) := by
  have hwriter : ∀ newlines : Bool,
      String.ofList (writeNode newlines a) = String.ofList (writeNode newlines b) ↔
        a.normalForm = b.normalForm :=
    fun newlines => String.ofList_inj.trans (Node.writeNode_eq_iff newlines ha hb)
  exact ⟨hwriter true, hwriter false⟩

/-- A text that looks like markup stays a text, whereas roots, foreign nodes and cuts inside
a text are not to be seen. -/
theorem toHtml_eq_iff_disguised :
    let text : Node := .plain "p" [.text "<b>x</b>"]
    let cut : Node := .root [.text "", .plain "p"
      [.text "<b>", .foreign "i" [.text "x"], .root [.text "<", .text "/b>"]]]
    let bold : Node := .plain "p" [.plain "b" [.text "x"]]
    text.HasNames ∧ cut.HasNames ∧ bold.HasNames ∧
      (toHtml text = toHtml cut ∧ toCompactHtml text = toCompactHtml cut) ∧
      (toHtml text ≠ toHtml bold ∧ toCompactHtml text ≠ toCompactHtml bold) := by
  intro text cut bold
  have htext : text.HasNames := by decide +kernel
  have hcut : cut.HasNames := by decide +kernel
  have hbold : bold.HasNames := by decide +kernel
  have hsame : text.normalForm = cut.normalForm := by decide +kernel
  have hother : text.normalForm ≠ bold.normalForm := by decide +kernel
  obtain ⟨hlines, hcompact⟩ := toHtml_eq_iff htext hcut
  obtain ⟨hlines', hcompact'⟩ := toHtml_eq_iff htext hbold
  exact ⟨htext, hcut, hbold, ⟨hlines.2 hsame, hcompact.2 hsame⟩,
    fun h => hother (hlines'.1 h), fun h => hother (hcompact'.1 h)⟩

end PostPress
