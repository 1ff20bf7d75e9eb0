import PostPress.Proofs.Html.Element
import PostPress.Proofs.Html.Token

/-!
# PostPress.Proofs.Html.Tidy

**Written markup is read tag by tag.** Markup that is written without raw text is tidy: it
is made of characters that begin no tag, and of whole tags with quoted values.

* `Tidy` — such markup, with the names that its tags may have;
* `Markup.tidy_writeList` — written markup has no other tags than its elements;
* `Tidy.next` — cutting off a token gives a tag of these names, and leaves tidy markup.
-/

namespace PostPress.Html

/-- The attributes in a written start tag: all values are quoted. -/
inductive AttributeText : List Char → Prop
  | nil : AttributeText []
  | cons {name value rest : List Char} (hname : isAttributeName name = true)
      (hvalue : '"' ∉ value) (hrest : AttributeText rest) :
      AttributeText (' ' :: (name ++ '=' :: '"' :: (value ++ '"' :: rest)))

/-- Markup of characters and of whole tags with certain names. -/
inductive Tidy (Allowed : String → Prop) : List Char → Prop
  | nil : Tidy Allowed []
  | char {c : Char} {rest : List Char} (hc : c ≠ '<') (hrest : Tidy Allowed rest) :
      Tidy Allowed (c :: rest)
  | startTag {name attrs rest : List Char} (hname : isTagName name = true)
      (hallowed : Allowed (tagName name)) (hattrs : AttributeText attrs)
      (hrest : Tidy Allowed rest) : Tidy Allowed ('<' :: (name ++ (attrs ++ '>' :: rest)))
  | endTag {name rest : List Char} (hname : isTagName name = true)
      (hallowed : Allowed (tagName name)) (hrest : Tidy Allowed rest) :
      Tidy Allowed ('<' :: '/' :: (name ++ '>' :: rest))

variable {Allowed : String → Prop}

/-! ### Line ends -/

theorem normalizeNewlines_cons {c : Char} (hc : c ≠ '\r') (rest : List Char) :
    normalizeNewlines (c :: rest) = c :: normalizeNewlines rest :=
  normalizeNewlines.eq_4 c rest (fun _ h _ => hc h) hc

theorem normalizeNewlines_return {rest : List Char} (hrest : ∀ after, rest ≠ '\n' :: after) :
    normalizeNewlines ('\r' :: rest) = '\n' :: normalizeNewlines rest :=
  normalizeNewlines.eq_3 rest hrest

theorem normalizeNewlines_append (a : List Char) {b : List Char}
    (hb : ∀ after, b ≠ '\n' :: after) :
    normalizeNewlines (a ++ b) = normalizeNewlines a ++ normalizeNewlines b := by
  fun_induction normalizeNewlines a with
  | case1 => rfl
  | case2 rest ih => rw [List.cons_append, List.cons_append, normalizeNewlines, ih, List.cons_append]
  | case3 rest hrest ih =>
      rw [List.cons_append, normalizeNewlines_return, ih, List.cons_append]
      intro after heq
      cases rest with
      | nil => exact hb after heq
      | cons d rest => exact hrest rest (congrArg (· :: rest) (List.cons.inj heq).1)
  | case4 c rest _ hc ih => rw [List.cons_append, normalizeNewlines_cons hc, ih, List.cons_append]

theorem normalizeNewlines_of_notMem {text : List Char} (h : '\r' ∉ text) :
    normalizeNewlines text = text := by
  induction text with
  | nil => rfl
  | cons c rest ih =>
      rw [List.mem_cons, not_or] at h
      rw [normalizeNewlines_cons (Ne.symm h.1), ih h.2]

theorem mem_normalizeNewlines {text : List Char} {c : Char} (h : c ∈ normalizeNewlines text) :
    c = '\n' ∨ c ∈ text ∧ c ≠ '\r' := by
  fun_induction normalizeNewlines text with
  | case1 => exact absurd h List.not_mem_nil
  | case2 rest ih => grind
  | case3 rest _ ih => grind
  | case4 d rest _ hd ih => grind

theorem notMem_return_normalizeNewlines (text : List Char) : '\r' ∉ normalizeNewlines text :=
  fun h => (mem_normalizeNewlines h).elim (by decide) fun h => h.2 rfl

theorem notMem_return_of_isTagNameChar {name : List Char} (h : name.all isTagNameChar = true) :
    '\r' ∉ name :=
  fun hmem => absurd (List.all_eq_true.1 h '\r' hmem) (by decide)

theorem all_isTagNameChar_of_isTagName {name : List Char} (h : isTagName name = true) :
    name.all isTagNameChar = true := by
  cases name with
  | nil => rfl
  | cons c rest =>
      rw [isTagName, Bool.and_eq_true] at h
      exact h.2

theorem all_isTagNameChar_of_isAttributeName {name : List Char}
    (h : isAttributeName name = true) : name.all isTagNameChar = true := by
  cases name with
  | nil => rfl
  | cons c rest =>
      simp only [isAttributeName, Bool.and_eq_true, List.all_eq_true] at h
      rw [List.all_cons, h.1, Bool.true_and, List.all_eq_true]
      exact fun d hd => (h.2 d hd).1

theorem AttributeText.normalizeNewlines {text : List Char} (h : AttributeText text) :
    AttributeText (normalizeNewlines text) := by
  induction h with
  | nil => exact .nil
  | @cons name value rest hname hvalue _ ih =>
      have hreturn := notMem_return_of_isTagNameChar (all_isTagNameChar_of_isAttributeName hname)
      rw [normalizeNewlines_cons (by decide), normalizeNewlines_append _ (fun _ => by simp),
        normalizeNewlines_of_notMem hreturn, normalizeNewlines_cons (by decide),
        normalizeNewlines_cons (by decide), normalizeNewlines_append _ (fun _ => by simp),
        normalizeNewlines_cons (by decide)]
      refine .cons hname (fun hmem => ?_) ih
      rcases mem_normalizeNewlines hmem with hnewline | ⟨hold, -⟩
      · exact absurd hnewline (by decide)
      · exact hvalue hold

/-- Tidy markup is tidy with other line ends. -/
theorem Tidy.normalizeNewlines {text : List Char} (h : Tidy Allowed text) :
    Tidy Allowed (normalizeNewlines text) := by
  induction h with
  | nil => exact .nil
  | @char c rest hc _ ih =>
      by_cases hreturn : c = '\r'
      · subst hreturn
        by_cases hnewline : ∃ after, rest = '\n' :: after
        · obtain ⟨after, rfl⟩ := hnewline
          rw [normalizeNewlines_cons (by decide)] at ih
          rwa [Html.normalizeNewlines]
        · rw [normalizeNewlines_return fun after heq => hnewline ⟨after, heq⟩]
          exact .char (by decide) ih
      · rw [normalizeNewlines_cons hreturn]
        exact .char hc ih
  | startTag hname hallowed hattrs _ ih =>
      have hreturn := notMem_return_of_isTagNameChar (all_isTagNameChar_of_isTagName hname)
      have hafter : ∀ {attrs : List Char}, AttributeText attrs → ∀ rest after,
          attrs ++ '>' :: rest ≠ '\n' :: after := by
        intro attrs hattrs rest after
        cases hattrs <;> simp
      rw [normalizeNewlines_cons (by decide), normalizeNewlines_append _ (hafter hattrs _),
        normalizeNewlines_of_notMem hreturn, normalizeNewlines_append _ (fun _ => by simp),
        normalizeNewlines_cons (by decide)]
      exact .startTag hname hallowed hattrs.normalizeNewlines ih
  | endTag hname hallowed _ ih =>
      have hreturn := notMem_return_of_isTagNameChar (all_isTagNameChar_of_isTagName hname)
      rw [normalizeNewlines_cons (by decide), normalizeNewlines_cons (by decide),
        normalizeNewlines_append _ (fun _ => by simp), normalizeNewlines_of_notMem hreturn,
        normalizeNewlines_cons (by decide)]
      exact .endTag hname hallowed ih

/-! ### Reading tags -/

theorem Tidy.tail {c : Char} {rest : List Char} (h : Tidy Allowed (c :: rest)) (hc : c ≠ '<') :
    Tidy Allowed rest := by
  cases h with
  | char _ hrest => exact hrest
  | startTag | endTag => exact absurd rfl hc

/-- Without a beginning in which there is no angle, markup stays tidy. -/
theorem Tidy.cut {text rest : List Char} (h : Tidy Allowed text) (hcut : Cut text rest) :
    Tidy Allowed rest := by
  obtain ⟨cut, rfl, hangle⟩ := hcut
  induction cut with
  | nil => exact h
  | cons c cut ih =>
      rw [List.mem_cons, not_or] at hangle
      exact ih hangle.2 (h.tail (Ne.symm hangle.1))

/-- The name of an attribute is read up to its value. -/
theorem readName_append {name : List Char} (hname : isAttributeName name = true)
    (rest : List Char) : readName (name ++ '=' :: rest) = (name, '=' :: rest) := by
  cases name with
  | nil => exact absurd hname Bool.false_ne_true
  | cons c tail =>
      simp only [isAttributeName, Bool.and_eq_true, List.all_eq_true, bne_iff_ne, isTagNameChar,
        Bool.not_eq_true', Bool.or_eq_false_iff] at hname
      have hinside : ∀ d ∈ tail,
          (!(isTagBlank d || d == '/' || d == '>' || d == '=')) = true := by
        intro d hd
        obtain ⟨⟨hchar, -⟩, hequals⟩ := hname.2 d hd
        simp [hchar, hequals]
      rw [List.cons_append, readName, List.takeWhile_append_of_pos hinside,
        List.dropWhile_append_of_pos hinside, List.takeWhile_cons_of_neg (by decide),
        List.dropWhile_cons_of_neg (by decide), List.append_nil]

theorem takeWhile_ne_append {c : Char} {text : List Char} (h : c ∉ text) (rest : List Char) :
    (text ++ c :: rest).takeWhile (· ≠ c) = text := by
  have hinside : ∀ d ∈ text, decide (d ≠ c) = true := fun d hd =>
    decide_eq_true fun heq => h (heq ▸ hd)
  rw [List.takeWhile_append_of_pos hinside, List.takeWhile_cons_of_neg (by simp),
    List.append_nil]

theorem dropWhile_ne_append {c : Char} {text : List Char} (h : c ∉ text) (rest : List Char) :
    (text ++ c :: rest).dropWhile (· ≠ c) = c :: rest := by
  have hinside : ∀ d ∈ text, decide (d ≠ c) = true := fun d hd =>
    decide_eq_true fun heq => h (heq ▸ hd)
  rw [List.dropWhile_append_of_pos hinside, List.dropWhile_cons_of_neg (by simp)]

/-- A quoted value is read up to the quotation mark. -/
theorem readValue_quoted {value : List Char} (h : '"' ∉ value) (rest : List Char) :
    readValue ('"' :: (value ++ '"' :: rest)) = some (value, rest) := by
  simp only [readValue, dropWhile_ne_append h, takeWhile_ne_append h]

/-- A written attribute is read, and the rest after it. -/
theorem readAttributes_cons {name value : List Char} (hname : isAttributeName name = true)
    (hvalue : '"' ∉ value) (fuel : Nat) (attrs : List Attribute) (rest : List Char) :
    readAttributes (fuel + 1) attrs (' ' :: (name ++ '=' :: '"' :: (value ++ '"' :: rest))) =
      readAttributes fuel (addAttribute attrs (tagName name) (attributeValue value)) rest := by
  have hread := readName_append hname ('"' :: (value ++ '"' :: rest))
  have hquoted := readValue_quoted hvalue rest
  cases name with
  | nil => exact absurd hname Bool.false_ne_true
  | cons c tail =>
      rw [List.cons_append] at hread
      have hchar := List.all_eq_true.1 (all_isTagNameChar_of_isAttributeName hname) c
        List.mem_cons_self
      simp only [isTagNameChar, Bool.not_eq_true', Bool.or_eq_false_iff, beq_eq_false_iff_ne]
        at hchar
      obtain ⟨⟨⟨hblank, hslash⟩, hangle⟩, -⟩ := hchar
      have hdrop : List.dropWhile isTagBlank
          (' ' :: ((c :: tail) ++ '=' :: '"' :: (value ++ '"' :: rest))) =
            c :: (tail ++ '=' :: '"' :: (value ++ '"' :: rest)) := by
        rw [List.dropWhile_cons_of_pos (by decide), List.cons_append,
          List.dropWhile_cons_of_neg (by rw [hblank]; decide)]
      rw [readAttributes, hdrop]
      split
      · next heq => exact absurd heq (List.cons_ne_nil _ _)
      · exact absurd (List.cons.inj ‹_›).1 hangle
      · exact absurd (List.cons.inj ‹_›).1 hslash
      · exact absurd (List.cons.inj ‹_›).1 hslash
      · rw [hread]
        simp only [List.dropWhile_cons_of_neg (p := isTagBlank) (a := '=') (by decide),
          List.dropWhile_cons_of_neg (p := isTagBlank) (a := '"') (by decide), hquoted]

/-- The attributes of a written start tag are read to the end of the tag. -/
theorem rest_of_readAttributes (fuel : Nat) :
    ∀ {attrs : List Attribute} {text : List Char} (rest : List Char)
      {result : List Attribute × Bool × List Char}, AttributeText text →
      readAttributes fuel attrs (text ++ '>' :: rest) = some result → result.2.2 = rest := by
  induction fuel with
  | zero => exact fun _ _ _ h => absurd h nofun
  | succ fuel ih =>
      intro attrs text rest result htext h
      cases htext with
      | nil =>
          obtain rfl := Option.some.inj h
          rfl
      | @cons name value more hname hvalue hmore =>
          simp only [List.cons_append, List.append_assoc] at h
          rw [readAttributes_cons hname hvalue] at h
          exact ih rest hmore h

/-- What is known of a token: its tag, if it is one, has a name of some set. -/
def Token.Named (Allowed : String → Prop) (token : Token) : Prop :=
  ∀ name, token = .endTag name ∨ (∃ attrs selfClosing, token = .startTag name attrs selfClosing) →
    Allowed name

theorem named_textToken (chars : List Char) : (textToken chars).Named Allowed := by
  unfold textToken
  split <;> exact fun _ h => h.elim nofun nofun

/-- A tag is read to the end of its name, and from there to its end. -/
theorem readTag_tidy {isEnd : Bool} {name attrs rest : List Char} {result : Token × List Char}
    (hname : isTagName name = true) (hallowed : Allowed (tagName name))
    (hattrs : AttributeText attrs)
    (h : readTag isEnd (name ++ (attrs ++ '>' :: rest)) = some result) :
    result.1.Named Allowed ∧ result.2 = rest := by
  have hinside : ∀ d ∈ name, (!(isTagBlank d || d == '/' || d == '>')) = true := by
    intro d hd
    have hchar := List.all_eq_true.1 (all_isTagNameChar_of_isTagName hname) d hd
    simp only [isTagNameChar, Bool.not_eq_true', Bool.or_eq_false_iff] at hchar ⊢
    exact hchar.1
  have hafter : ∀ {attrs : List Char}, AttributeText attrs → ∃ c after,
      attrs ++ '>' :: rest = c :: after ∧
        (!(isTagBlank c || c == '/' || c == '>')) = false := by
    intro attrs hattrs
    cases hattrs with
    | nil => exact ⟨'>', rest, rfl, by decide⟩
    | cons => exact ⟨' ', _, rfl, by decide⟩
  obtain ⟨c, after, heq, hc⟩ := hafter hattrs
  unfold readTag at h
  dsimp only at h
  rw [heq, List.takeWhile_append_of_pos hinside, List.dropWhile_append_of_pos hinside,
    List.takeWhile_cons_of_neg (by rw [hc]; decide),
    List.dropWhile_cons_of_neg (by rw [hc]; decide), List.append_nil, ← heq] at h
  obtain ⟨⟨read, selfClosing, left⟩, hread, rfl⟩ := Option.map_eq_some_iff.1 h
  refine ⟨fun tag htag => ?_, rest_of_readAttributes _ rest hattrs hread⟩
  dsimp only at htag
  split at htag
  · rcases htag with hend | ⟨_, _, hstart⟩
    · exact Token.endTag.inj hend ▸ hallowed
    · exact Token.noConfusion hstart
  · rcases htag with hend | ⟨_, _, hstart⟩
    · exact Token.noConfusion hend
    · exact (Token.startTag.inj hstart).1 ▸ hallowed

/-- What a reader of tokens gives for tidy markup: a tag with a name of the set, or no tag,
and tidy markup. -/
def ReadsTidy (Allowed : String → Prop) (result : Option Token × List Char) : Prop :=
  (∀ token, result.1 = some token → token.Named Allowed) ∧ Tidy Allowed result.2

theorem readsTidy_some {token : Token} {rest : List Char} (htoken : token.Named Allowed)
    (hrest : Tidy Allowed rest) : ReadsTidy Allowed (some token, rest) :=
  ⟨fun _ heq => Option.some.inj heq ▸ htoken, hrest⟩

theorem readsTidy_tag (isEnd : Bool) {name attrs rest : List Char}
    (hname : isTagName name = true) (hallowed : Allowed (tagName name))
    (hattrs : AttributeText attrs) (hrest : Tidy Allowed rest) :
    ReadsTidy Allowed (match readTag isEnd (name ++ (attrs ++ '>' :: rest)) with
      | some (token, rest) => (some token, rest)
      | none => (none, [])) := by
  split
  · next token after hread =>
    obtain ⟨htoken, hafter⟩ := readTag_tidy hname hallowed hattrs hread
    exact readsTidy_some htoken (by rwa [← hafter] at hrest)
  · exact ⟨fun _ heq => absurd heq nofun, .nil⟩

theorem readMarkup_letter {c : Char} (hletter : c.isAlpha = true) (allowCharacterData : Bool)
    (rest : List Char) : readMarkup allowCharacterData (c :: rest) =
      match readTag false (c :: rest) with
      | some (token, rest) => (some token, rest)
      | none => (none, []) := by
  have hne : ∀ d, d.isAlpha = false → c ≠ d := by
    rintro d hd rfl
    exact Bool.false_ne_true (hd.symm.trans hletter)
  unfold readMarkup
  split
  · next heq => exact absurd (List.cons.inj heq).1 (hne '!' (by decide))
  · next heq => exact absurd (List.cons.inj heq).1 (hne '/' (by decide))
  · next heq => exact absurd (List.cons.inj heq).1 (hne '/' (by decide))
  · next heq => exact absurd (List.cons.inj heq).1 (hne '/' (by decide))
  · next heq => exact absurd (List.cons.inj heq).1 (hne '?' (by decide))
  · next heq =>
    obtain ⟨rfl, rfl⟩ := List.cons.inj heq
    exact if_pos hletter
  · next heq => exact absurd heq (List.cons_ne_nil _ _)

theorem readMarkup_slash {c : Char} (hletter : c.isAlpha = true) (allowCharacterData : Bool)
    (rest : List Char) : readMarkup allowCharacterData ('/' :: c :: rest) =
      match readTag true (c :: rest) with
      | some (token, rest) => (some token, rest)
      | none => (none, []) := by
  have hangle : c ≠ '>' := by
    rintro rfl
    exact absurd hletter (by decide)
  exact (readMarkup.eq_4 _ _ _ hangle).trans (if_pos hletter)

/-- A character that begins no tag is read with others of its kind. -/
theorem nextToken_char (Allowed : String → Prop) {c : Char} (hc : c ≠ '<')
    (allowCharacterData : Bool) (rest : List Char) : ∃ token after,
      nextToken .data allowCharacterData (c :: rest) = (some token, after) ∧
        token.Named Allowed ∧ Cut rest after := by
  unfold nextToken
  dsimp only
  split
  · exact absurd ‹_› (List.cons_ne_nil _ _)
  · next heq => exact absurd (List.cons.inj heq).1 hc
  · next heq =>
    obtain ⟨rfl, rfl⟩ := List.cons.inj heq
    exact ⟨_, _, rfl, named_textToken _, readReference_cut false rest⟩
  · next heq =>
    obtain ⟨rfl, rfl⟩ := List.cons.inj heq
    exact ⟨_, _, rfl, fun _ h => h.elim nofun nofun, Cut.refl rest⟩
  · next heq =>
    obtain ⟨rfl, rfl⟩ := List.cons.inj heq
    exact ⟨_, _, rfl, named_textToken _, Cut.dropWhile (by simp) rest⟩

theorem nextToken_angle (allowCharacterData : Bool) (rest : List Char) :
    nextToken .data allowCharacterData ('<' :: rest) = readMarkup allowCharacterData rest := rfl

/-- **Tidy markup is cut into its tags**, and characters, and what is left is tidy. -/
theorem Tidy.next {text : List Char} (h : Tidy Allowed text) (allowCharacterData : Bool) :
    ReadsTidy Allowed (nextToken .data allowCharacterData text) := by
  cases h with
  | nil => exact readsTidy_some (fun _ h => h.elim nofun nofun) .nil
  | @char c rest hc hrest =>
      obtain ⟨token, after, heq, htoken, hcut⟩ :=
        nextToken_char Allowed hc allowCharacterData rest
      rw [heq]
      exact readsTidy_some htoken (hrest.cut hcut)
  | @startTag name attrs rest hname hallowed hattrs hrest =>
      have hread := readsTidy_tag false hname hallowed hattrs hrest
      cases name with
      | nil => exact absurd hname Bool.false_ne_true
      | cons c tail =>
          have hletter := (Bool.and_eq_true_iff.1 hname).1
          rw [nextToken_angle, List.cons_append, readMarkup_letter hletter]
          exact hread
  | @endTag name rest hname hallowed hrest =>
      have hread := readsTidy_tag true hname hallowed .nil hrest
      cases name with
      | nil => exact absurd hname Bool.false_ne_true
      | cons c tail =>
          have hletter := (Bool.and_eq_true_iff.1 hname).1
          rw [nextToken_angle, List.cons_append, readMarkup_slash hletter]
          exact hread

/-! ### Writing -/

theorem Tidy.append {a b : List Char} (ha : Tidy Allowed a) (hb : Tidy Allowed b) :
    Tidy Allowed (a ++ b) := by
  induction ha with
  | nil => exact hb
  | char hc _ ih => exact .char hc ih
  | startTag hname hallowed hattrs _ ih =>
      rw [List.cons_append, List.append_assoc, List.append_assoc, List.cons_append]
      exact .startTag hname hallowed hattrs ih
  | endTag hname hallowed _ ih =>
      rw [List.cons_append, List.cons_append, List.append_assoc, List.cons_append]
      exact .endTag hname hallowed ih

theorem tidy_of_notMem {text : List Char} (h : '<' ∉ text) : Tidy Allowed text := by
  induction text with
  | nil => exact .nil
  | cons c rest ih =>
      rw [List.mem_cons, not_or] at h
      exact .char (Ne.symm h.1) (ih h.2)

theorem notMem_escape (text : List Char) : '<' ∉ text.flatMap (escapeMarkupChar false) := by
  intro h
  obtain ⟨c, -, hc⟩ := List.mem_flatMap.1 h
  unfold escapeMarkupChar at hc
  split at hc <;> grind

theorem notMem_escape_attribute (text : List Char) :
    '"' ∉ text.flatMap (escapeMarkupChar true) := by
  intro h
  obtain ⟨c, -, hc⟩ := List.mem_flatMap.1 h
  unfold escapeMarkupChar at hc
  split at hc <;> grind

theorem attributeText_write {attrs : List Attribute} (h : ∀ attr ∈ attrs, IsReadAttribute attr) :
    AttributeText (attrs.flatMap writeMarkupAttribute) := by
  induction attrs with
  | nil => exact .nil
  | cons attr rest ih =>
      rw [List.forall_mem_cons] at h
      obtain ⟨⟨hspace, hname⟩, hrest⟩ := h
      have hwrite : writeMarkupAttribute attr = ' ' :: (attr.name.toList ++ '=' :: '"' ::
          (attr.value.toList.flatMap (escapeMarkupChar true) ++ ['"'])) := by
        simp [writeMarkupAttribute, attributePrefix, hspace]
      rw [List.flatMap_cons, hwrite]
      simp only [List.cons_append, List.append_assoc, List.nil_append]
      exact .cons hname (notMem_escape_attribute _) (ih hrest)

/-- An element that is written as tags of its name, around what it holds. -/
structure Element.IsTagged (Allowed : String → Prop) (element : Element) : Prop where
  /-- Its name is read again. -/
  name : isTagName element.name.toList = true
  /-- It is the same name then. -/
  same : tagName element.name.toList = element.name
  /-- Its attributes are read again. -/
  attrs : ∀ attr ∈ element.attrs, IsReadAttribute attr
  /-- It is of the set. -/
  allowed : Allowed element.name
  /-- What it holds is not written as it is. -/
  notRaw : rawElements.contains element.name = false

namespace Markup

mutual

theorem tidy_write : ∀ node : Markup, (∀ element ∈ node.elements, element.IsTagged Allowed) →
    Tidy Allowed (node.write false)
  | .comment, _ => .nil
  | .text chars, _ => tidy_of_notMem (notMem_escape chars)
  | .element space name attrs children, h => by
      rw [elements, List.forall_mem_cons] at h
      obtain ⟨⟨hname, hsame, hattrs, hallowed, hraw⟩, hchildren⟩ := h
      dsimp only at hname hsame hattrs hallowed hraw
      have hread := attributeText_write hattrs
      rw [← hsame] at hallowed
      simp only [write, hraw, Bool.and_false, List.cons_append, List.append_assoc]
      refine .startTag hname hallowed hread ?_
      split
      · exact .nil
      · refine (tidy_writeList children hchildren).append ?_
        exact .endTag hname hallowed .nil

/-- **Written markup is tidy**, with no other tags than its elements. -/
theorem tidy_writeList : ∀ nodes : List Markup,
    (∀ element ∈ elementsList nodes, element.IsTagged Allowed) →
      Tidy Allowed (writeList false nodes)
  | [], _ => .nil
  | node :: rest, h => by
      rw [elementsList, List.forall_mem_append] at h
      exact (tidy_write node h.1).append (tidy_writeList rest h.2)

end

end Markup

end PostPress.Html
