import PostPress.Html.Construction
import PostPress.Proofs.Html.Dom

/-!
# PostPress.Proofs.Html.Construction

**Which elements reading markup makes.** Every element of a document comes from a start
tag with its name and its attributes, or is supplied without attributes: a part of a
table that was left out, an element that an end tag without a start tag stands for, or
a part of the document itself.

* `Builder.All` — what holds of all elements, and of the formatting elements that are to
  be opened again;
* `Builder.Kept` — what is kept while markup is read, from one step to the whole;
* `Builder.kept_all` — one token makes only elements of its own, and supplied ones;
* `Builder.Feeds` — what is known of all tokens of some markup;
* `elements_readDocument`, `elements_readFragment` — the elements of what is read.
-/

namespace PostPress.Html

namespace Builder

variable {P : Space → String → List Attribute → Prop} {b : Builder}

/-- What holds of some formatting elements, by their nodes, their names and their attributes. -/
def Listed (Q : Nat → String → List Attribute → Prop) (entries : List Formatting) : Prop :=
  ∀ id name attrs, .element id name attrs ∈ entries → Q id name attrs

/-- The elements whose text is read in a way of its own. -/
def textElements : List String :=
  ["title", "textarea", "style", "script", "xmp", "iframe", "noembed", "noframes", "noscript",
   "plaintext"]

/-- Text is read with tags, unless elements may be there whose text is not. -/
def ReadsTags (P : Space → String → List Attribute → Prop) (textMode : TextMode) : Prop :=
  textMode = .data ∨ ∃ name ∈ textElements, ∃ attrs, P .html name attrs

/-- What holds of all elements of the tree, and of the formatting elements. -/
def All (P : Space → String → List Attribute → Prop) (b : Builder) : Prop :=
  b.dom.All P ∧ Listed (fun _ => P .html) b.formatting ∧ ReadsTags P b.textMode

/-! ### Lists of formatting elements -/

namespace Listed

variable {Q Q' : Nat → String → List Attribute → Prop} {entries kept : List Formatting} {id : Nat}
  {name : String} {attrs : List Attribute}

theorem nil : Listed Q [] := fun _ _ _ hmem => absurd hmem List.not_mem_nil

theorem subset (h : Listed Q entries) (hkept : kept ⊆ entries) : Listed Q kept :=
  fun id name attrs hmem => h id name attrs (hkept hmem)

theorem mono (h : Listed Q entries) (hQ : ∀ id name attrs, Q id name attrs → Q' id name attrs) :
    Listed Q' entries :=
  fun id name attrs hmem => hQ id name attrs (h id name attrs hmem)

theorem append (hkept : Listed Q kept) (h : Listed Q entries) : Listed Q (kept ++ entries) :=
  fun id name attrs hmem => (List.mem_append.1 hmem).elim (hkept id name attrs) (h id name attrs)

theorem cons (h : Listed Q entries) (hnew : Q id name attrs) :
    Listed Q (.element id name attrs :: entries) := by
  intro other n as hmem
  rcases List.mem_cons.1 hmem with heq | hmem
  · obtain ⟨rfl, rfl, rfl⟩ := Formatting.element.inj heq
    exact hnew
  · exact h other n as hmem

theorem replaceEntry (h : Listed Q entries) (hnew : Q id name attrs) (node : Nat) :
    Listed Q (Builder.replaceEntry node (.element id name attrs) entries) := by
  intro other n as hmem
  obtain ⟨entry, hentry, heq⟩ := List.mem_map.1 hmem
  split at heq
  · obtain ⟨rfl, rfl, rfl⟩ := Formatting.element.inj heq
    exact hnew
  · exact h other n as (heq ▸ hentry)

theorem insertAfterEntry (h : Listed Q entries) (hnew : Q id name attrs) (node : Nat) :
    Listed Q (Builder.insertAfterEntry node (.element id name attrs) entries) := by
  induction entries with
  | nil => exact h
  | cons entry rest ih =>
      have hrest : Listed Q rest := h.subset fun _ => List.mem_cons_of_mem _
      unfold Builder.insertAfterEntry
      split
      · exact h.cons hnew
      · intro other n as hmem
        rcases List.mem_cons.1 hmem with heq | hmem
        · exact h other n as (heq ▸ List.mem_cons_self)
        · exact ih hrest other n as hmem

theorem takeWhile (h : Listed Q entries) (p : Formatting → Bool) :
    Listed Q (entries.takeWhile p) :=
  h.subset (List.takeWhile_sublist p).subset

theorem dropWhile (h : Listed Q entries) (p : Formatting → Bool) :
    Listed Q (entries.dropWhile p) :=
  h.subset (List.dropWhile_sublist p).subset

theorem dropLastWhere (h : Listed Q entries) (p : Formatting → Bool) :
    Listed Q (Builder.dropLastWhere p entries) :=
  h.subset fun _ hmem =>
    List.mem_reverse.1 (List.eraseP_sublist.subset (List.mem_reverse.1 hmem))

theorem pushFormatting (h : Listed Q b.formatting) (hnew : Q id name attrs) :
    Listed Q (b.pushFormatting id name attrs).formatting := by
  unfold Builder.pushFormatting
  refine cons (append ?_ (h.dropWhile _)) hnew
  split
  · exact (h.takeWhile _).dropLastWhere _
  · exact h.takeWhile _

theorem pushMarker (h : Listed Q b.formatting) : Listed Q b.pushMarker.formatting :=
  fun id name attrs hmem => (List.mem_cons.1 hmem).elim nofun (h id name attrs)

theorem clearFormatting (h : Listed Q b.formatting) : Listed Q b.clearFormatting.formatting :=
  (h.dropWhile _).subset (List.drop_sublist 1 _).subset

theorem removeFormatting (h : Listed Q b.formatting) (node : Nat) :
    Listed Q (b.removeFormatting node).formatting :=
  h.subset List.eraseP_sublist.subset

end Listed

/-! ### The stack and the mode -/

@[simp, grind =] theorem all_goTo (mode : Mode) : (b.goTo mode).All P ↔ b.All P := Iff.rfl

@[simp, grind =] theorem all_noFrameset : b.noFrameset.All P ↔ b.All P := Iff.rfl

@[simp, grind =] theorem all_pushOpen (id : Nat) : (b.pushOpen id).All P ↔ b.All P := Iff.rfl

@[simp, grind =] theorem all_pop : b.pop.All P ↔ b.All P := Iff.rfl

@[simp, grind =] theorem all_popUntil (names : List String) :
    (b.popUntil names).All P ↔ b.All P := Iff.rfl

@[simp, grind =] theorem all_popThrough (node : Nat) :
    (b.popThrough node).All P ↔ b.All P := Iff.rfl

@[simp, grind =] theorem all_closeImplied (but : List String) :
    (b.closeImplied but).All P ↔ b.All P := Iff.rfl

@[simp, grind =] theorem all_closeParagraph : b.closeParagraph.All P ↔ b.All P := Iff.rfl

@[simp, grind =] theorem all_endParagraph : b.endParagraph.All P ↔ b.All P := by
  unfold endParagraph
  split <;> rfl

@[simp, grind =] theorem all_removeOpen (node : Nat) :
    (b.removeOpen node).All P ↔ b.All P := Iff.rfl

@[simp, grind =] theorem all_resetMode : b.resetMode.All P ↔ b.All P := Iff.rfl

@[simp, grind =] theorem all_stopped : { b with stopped := true }.All P ↔ b.All P := Iff.rfl

@[simp, grind =] theorem all_dropNewline :
    { b with dropNewline := true, framesetOk := false }.All P ↔ b.All P := Iff.rfl

/-! ### Putting nodes into the tree -/

theorem All.withDom {dom : Dom} (h : b.All P) (hdom : dom.All P) : { b with dom }.All P :=
  ⟨hdom, h.2⟩

theorem All.withFormatting {formatting : List Formatting} (h : b.All P)
    (hlisted : Listed (fun _ => P .html) formatting) : { b with formatting }.All P :=
  ⟨h.1, hlisted, h.2.2⟩

theorem All.withTextMode {name : String} {attrs : List Attribute} (h : b.All P)
    (hname : name ∈ textElements) (hnew : P .html name attrs) (textMode : TextMode) :
    { b with textMode }.All P :=
  ⟨h.1, h.2.1, .inr ⟨name, hname, attrs, hnew⟩⟩

theorem All.putAt (h : b.All P) (place : Place) (id : Nat) : (b.putAt place id).All P := by
  unfold Builder.putAt
  split
  · exact ⟨h.1.append _ _, h.2⟩
  · split
    · exact ⟨h.1.insertBefore _ _, h.2⟩
    · exact ⟨h.1.append _ _, h.2⟩

@[grind ←] theorem All.insertText (h : b.All P) (chars : List Char) :
    (b.insertText chars).All P := by
  unfold Builder.insertText
  split
  · exact ⟨h.1.appendText _ _, h.2⟩
  · split
    · exact ⟨h.1.insertTextBefore _ _, h.2⟩
    · exact ⟨h.1.appendText _ _, h.2⟩

@[grind ←] theorem All.insertComment (h : b.All P) : b.insertComment.All P :=
  (h.withDom (h.1.create (by simp))).putAt _ _

@[grind ←] theorem All.insertClosed {space : Space} {name : String} {attrs : List Attribute}
    (h : b.All P) (hnew : P space name attrs) : (b.insertClosed space name attrs).2.All P :=
  (h.withDom (h.1.createElement hnew)).putAt _ _

@[grind ←] theorem All.insertNode {name : String} {attrs : List Attribute} (h : b.All P)
    (hnew : P .html name attrs) : (b.insertNode name attrs).2.All P :=
  h.insertClosed hnew

@[grind ←] theorem All.insert {name : String} {attrs : List Attribute} (h : b.All P)
    (hnew : P .html name attrs) : (b.insert name attrs).All P :=
  h.insertNode hnew

@[grind ←] theorem All.insertVoid {name : String} {attrs : List Attribute} (h : b.All P)
    (hnew : P .html name attrs) : (b.insertVoid name attrs).All P :=
  h.insertClosed hnew

@[grind ←] theorem All.insertTextElement {name : String} {attrs : List Attribute} (h : b.All P)
    (hname : name ∈ textElements) (hnew : P .html name attrs) (textMode : TextMode) :
    (b.insertTextElement name attrs textMode).All P :=
  (h.insert hnew).withTextMode hname hnew textMode

/-! ### Formatting elements -/

theorem All.reopenAll (entries : List Formatting) (hentries : Listed (fun _ => P .html) entries) :
    ∀ (opened : List Formatting) (b : Builder), Listed (fun _ => P .html) opened → b.All P →
      Listed (fun _ => P .html) (reopenAll entries opened b).1 ∧
        (reopenAll entries opened b).2.All P := by
  induction entries with
  | nil => exact fun _ _ hopened h => ⟨hopened, h⟩
  | cons entry rest ih =>
      intro opened b hopened h
      have hrest : Listed (fun _ => P .html) rest := hentries.subset fun _ => List.mem_cons_of_mem _
      cases entry with
      | marker => exact ih hrest opened b hopened h
      | element id name attrs =>
          have hnew : P .html name attrs := hentries id name attrs List.mem_cons_self
          exact ih hrest _ _ (hopened.cons hnew) (h.insertNode hnew)

@[grind ←] theorem All.reopenFormatting (h : b.All P) : b.reopenFormatting.All P := by
  obtain ⟨hopened, hbuilder⟩ := All.reopenAll (b.formatting.takeWhile (!b.isReady ·)).reverse
    ((h.2.1.takeWhile _).subset fun _ => List.mem_reverse.1) [] b .nil h
  exact hbuilder.withFormatting (hopened.append (h.2.1.dropWhile _))

theorem All.pushFormatting {name : String} {attrs : List Attribute} (h : b.All P)
    (hnew : P .html name attrs) (id : Nat) : (b.pushFormatting id name attrs).All P :=
  h.withFormatting (h.2.1.pushFormatting hnew)

@[grind ←] theorem All.insertFormatting {name : String} {attrs : List Attribute} (h : b.All P)
    (hnew : P .html name attrs) : (b.insertFormatting name attrs).All P :=
  (h.insertNode hnew).pushFormatting hnew _

@[grind ←] theorem All.pushMarker (h : b.All P) : b.pushMarker.All P :=
  h.withFormatting h.2.1.pushMarker

@[grind ←] theorem All.clearFormatting (h : b.All P) : b.clearFormatting.All P :=
  h.withFormatting h.2.1.clearFormatting

@[grind ←] theorem All.removeFormatting (h : b.All P) (node : Nat) :
    (b.removeFormatting node).All P :=
  h.withFormatting (h.2.1.removeFormatting node)

@[grind ←] theorem All.closeAny (h : b.All P) (name : String) : (b.closeAny name).All P := by
  unfold Builder.closeAny
  split
  · exact h
  · split
    · exact h
    · exact h

/-- The formatting element that is found is one of the list. -/
theorem mem_of_findFormatting {name : String} {node : Nat} {attrs : List Attribute}
    (h : b.findFormatting name = some (node, attrs)) : .element node name attrs ∈ b.formatting := by
  obtain ⟨entry, hentry, hfound⟩ := List.exists_of_findSome?_eq_some h
  have hmem := (List.takeWhile_sublist _).subset hentry
  cases entry with
  | marker => exact absurd hfound nofun
  | element id n as =>
      simp only at hfound
      split at hfound
      · next hname =>
        obtain ⟨rfl, rfl⟩ := Prod.mk.inj (Option.some.inj hfound)
        exact hname ▸ hmem
      · exact absurd hfound nofun

theorem All.adoptBetween (block : Nat) (between : List Nat) :
    ∀ (count : Nat) (a : Adoption), a.builder.All P →
      (adoptBetween block count between a).builder.All P := by
  induction between with
  | nil => exact fun _ _ h => h
  | cons node rest ih =>
      intro count a h
      unfold Builder.adoptBetween
      dsimp only
      split
      · next id name attrs hfind =>
        have hnew : P .html name attrs := h.2.1 id name attrs (List.mem_of_find?_eq_some hfind)
        split
        · exact ih _ _ (h.removeFormatting node)
        · exact ih _ _ ⟨(h.1.createElement hnew).append _ _, h.2.1.replaceEntry hnew _, h.2.2⟩
      · exact ih _ _ h

theorem All.adopt {name : String} {attrs : List Attribute} (h : b.All P) (hnew : P .html name attrs)
    (node : Nat) (inside around : List Nat) (block : Nat) :
    (b.adopt node name attrs inside around block).All P := by
  unfold Builder.adopt
  dsimp only
  have hbetween := All.adoptBetween block ((inside.dropWhile (· ≠ block)).drop 1) 0
    ⟨b, block, .replace node, []⟩ h
  generalize Builder.adoptBetween block 0 ((inside.dropWhile (· ≠ block)).drop 1)
    ⟨b, block, .replace node, []⟩ = a at hbetween
  have hdetached : ∀ stack : List Nat,
      { a.builder with dom := a.builder.dom.detach a.last, stack }.All P :=
    fun _ => hbetween.withDom (hbetween.1.detach a.last)
  generalize hplace : Builder.putAt _ _ _ = placed
  have hplaced : placed.All P := hplace ▸ (hdetached _).putAt _ _
  have htree := ((hplaced.1.createElement hnew).moveChildren block
    (placed.dom.createElement .html name attrs).1).append block
    (placed.dom.createElement .html name attrs).1
  refine ⟨htree, ?_, hplaced.2.2⟩
  dsimp only
  split
  · exact hplaced.2.1.replaceEntry hnew _
  · exact (hplaced.2.1.insertAfterEntry hnew _).subset List.eraseP_sublist.subset

theorem All.closeFormattingOnce (h : b.All P) (name : String) :
    (b.closeFormattingOnce name).1.All P := by
  unfold Builder.closeFormattingOnce
  split
  · exact h.closeAny name
  · next node attrs hfind =>
    have hnew := h.2.1 node name attrs (mem_of_findFormatting hfind)
    split
    · exact h.removeFormatting node
    · split
      · exact h
      · dsimp only
        split
        · exact All.removeFormatting h node
        · exact h.adopt hnew node _ _ _

/-- What a round of closing a formatting element keeps, the rounds keep. -/
theorem closeFormattingRounds_keeps {State : Builder → Prop} {name : String}
    (hkeeps : ∀ b : Builder, State b → State (b.closeFormattingOnce name).1) (rounds : Nat) :
    ∀ b : Builder, State b → State (closeFormattingRounds name rounds b) := by
  induction rounds with
  | zero => exact fun _ h => h
  | succ rounds ih =>
      intro b h
      have honce := hkeeps b h
      unfold Builder.closeFormattingRounds
      split
      · next b' heq => exact ih b' (by rwa [heq] at honce)
      · next b' heq => rwa [heq] at honce

@[grind ←] theorem All.closeFormatting (h : b.All P) (name : String) :
    (b.closeFormatting name).All P := by
  unfold Builder.closeFormatting
  split
  · exact h
  · split
    · exact h
    · exact closeFormattingRounds_keeps (fun _ h => h.closeFormattingOnce name) 8 b h

/-! ### Start tags -/

/-- The name of an element as its vocabulary spells it. -/
def nameIn (space : Space) (name : String) : String :=
  if space = .svg then withCapitals svgElementNames name else name

/-- What may be made of a start tag: an element of its name with its attributes, the parts
of a table that are left out around it, and attributes of an element that is there. -/
structure Born (P : Space → String → List Attribute → Prop) (name : String)
    (attrs : List Attribute) : Prop where
  /-- An element of HTML. -/
  own : P .html name attrs
  /-- An image under its former name. -/
  image : name = "image" → P .html "img" attrs
  /-- The group of the rows that a row or a cell is in. -/
  rows : name = "tr" ∨ name = "td" ∨ name = "th" → P .html "tbody" []
  /-- The row that a cell is in. -/
  row : name = "td" ∨ name = "th" → P .html "tr" []
  /-- The group that a column is in. -/
  columns : name = "col" → P .html "colgroup" []
  /-- An element of another vocabulary, where there are such elements. -/
  foreign : ∀ space, space ≠ .html →
    name = "svg" ∨ name = "math" ∨ (∃ other own, P space other own) →
      P space (nameIn space name) (attrs.map (adjustAttribute space))
  /-- A second `html` or `body`. -/
  merged : name = "html" ∨ name = "body" → ∀ space other own, P space other own →
    ∀ added ⊆ attrs, P space other (own ++ added)

/-- The elements that every document has. -/
def suppliedElements : List String := ["html", "head", "body"]

/-- What holds of the elements that every document has. -/
def Supplied (P : Space → String → List Attribute → Prop) : Prop :=
  ∀ name ∈ suppliedElements, P .html name []

theorem supplied_iff : Supplied P ↔ P .html "html" [] ∧ P .html "head" [] ∧ P .html "body" [] := by
  simp [Supplied, suppliedElements]

theorem All.insertForeign {name : String} {attrs : List Attribute} {space : Space} (h : b.All P)
    (hnew : P space (nameIn space name) (attrs.map (adjustAttribute space)))
    (selfClosing : Bool) : (b.insertForeign space name attrs selfClosing).All P := by
  have hclosed := h.insertClosed hnew
  unfold Builder.insertForeign
  dsimp only
  split
  · exact hclosed
  · exact hclosed

/-- The roots of other vocabularies. -/
@[grind ←] theorem All.insertRoot {name : String} {attrs : List Attribute} {space : Space}
    (h : b.All P) (hborn : Born P name attrs) (hspace : space ≠ .html)
    (hname : name = "svg" ∨ name = "math") (selfClosing : Bool) :
    (b.insertForeign space name attrs selfClosing).All P :=
  h.insertForeign (hborn.foreign space hspace (hname.imp_right .inl)) selfClosing

@[grind ←] theorem All.mergeHtml {attrs : List Attribute} (h : b.All P)
    (hborn : Born P "html" attrs) : (b.mergeHtml attrs).All P := by
  unfold Builder.mergeHtml
  split
  · exact h
  · split
    · exact h.withDom (h.1.addMissing (hborn.merged (.inl rfl)))
    · exact h

@[grind ←] theorem All.closeTemplate (h : b.All P) : b.closeTemplate.All P :=
  All.clearFormatting (b := b.popUntil ["template"]) h

@[grind ←] theorem All.endTemplate (h : b.All P) : b.endTemplate.All P := by
  unfold Builder.endTemplate
  split
  · exact All.closeTemplate (b := b.closeImpliedThoroughly) h
  · exact h

@[grind ←] theorem All.startInHead {name : String} {attrs : List Attribute} (h : b.All P)
    (hborn : Born P name attrs) : (b.startInHead name attrs).All P := by
  unfold Builder.startInHead
  split
  · exact h.insertTextElement (by decide) hborn.own _
  · exact h.insertTextElement (by decide) hborn.own _
  · exact h.insertTextElement (by decide) hborn.own _
  · exact h.insertTextElement (by decide) hborn.own _
  · exact h.insertTextElement (by decide) hborn.own _
  · exact (h.insert hborn.own).pushMarker
  · exact h.insertVoid hborn.own

@[grind ←] theorem All.createRoot {attrs : List Attribute} (h : b.All P) (hnew : P .html "html" attrs) :
    (b.createRoot attrs).All P :=
  h.withDom ((h.1.createElement hnew).append _ _)

@[grind ←] theorem All.openHead {attrs : List Attribute} (h : b.All P) (hnew : P .html "head" attrs) :
    (b.openHead attrs).All P :=
  h.insertNode hnew

/-! ### The body -/

@[grind ←] theorem All.endItem (h : b.All P) (names : List String) : (b.endItem names).All P := by
  unfold Builder.endItem
  grind

@[grind ←] theorem All.startFrameset {attrs : List Attribute} (h : b.All P)
    (hnew : P .html "frameset" attrs) : (b.startFrameset attrs).All P := by
  unfold Builder.startFrameset
  split
  · next body _ _ => exact All.insert ⟨h.1.detach body, h.2⟩ hnew
  · exact h

@[grind ←] theorem All.mergeBody {attrs : List Attribute} (h : b.All P)
    (hborn : Born P "body" attrs) : (b.mergeBody attrs).All P := by
  unfold Builder.mergeBody
  split
  · split
    · exact h
    · exact h.withDom (h.1.addMissing (hborn.merged (.inr rfl)))
  · exact h

@[grind ←] theorem All.startForm {attrs : List Attribute} (h : b.All P) (hnew : P .html "form" attrs) :
    (b.startForm attrs).All P := by
  have hinsert := All.insertNode (all_endParagraph.2 h) hnew
  unfold Builder.startForm
  dsimp only
  split
  · exact h
  · split <;> exact hinsert

@[grind ←] theorem All.startLink {attrs : List Attribute} (h : b.All P) (hnew : P .html "a" attrs) :
    (b.startLink attrs).All P := by
  unfold Builder.startLink
  grind

@[grind ←] theorem All.startSelect {attrs : List Attribute} (h : b.All P)
    (hnew : P .html "select" attrs) : (b.startSelect attrs).All P := by
  unfold Builder.startSelect
  grind

@[simp, grind =] theorem all_beforeChoice (kept : List String) :
    (b.beforeChoice kept).All P ↔ b.All P := by
  unfold Builder.beforeChoice
  grind

@[grind ←] theorem All.startInput {attrs : List Attribute} (h : b.All P) (hnew : P .html "input" attrs) :
    (b.startInput attrs).All P := by
  unfold Builder.startInput
  grind

@[grind ←] theorem All.startRule {attrs : List Attribute} (h : b.All P) (hnew : P .html "hr" attrs) :
    (b.startRule attrs).All P := by
  unfold Builder.startRule
  grind

@[grind ←] theorem All.startButton {attrs : List Attribute} (h : b.All P)
    (hnew : P .html "button" attrs) : (b.startButton attrs).All P := by
  unfold Builder.startButton
  grind

theorem All.startText {name : String} {attrs : List Attribute} (h : b.All P)
    (hname : name ∈ textElements) (hnew : P .html name attrs) : (b.startText name attrs).All P := by
  unfold Builder.startText
  split
  · exact h.insertTextElement hname hnew (.references "textarea")
  all_goals grind

@[grind ←] theorem All.startInBody {name : String} {attrs : List Attribute} (h : b.All P)
    (hborn : Born P name attrs) (selfClosing : Bool) :
    (b.startInBody name attrs selfClosing).All P := by
  have hown := hborn.own
  have himage := hborn.image
  have hblock : (b.endParagraph.insert name attrs).All P := All.insert (all_endParagraph.2 h) hown
  have hplaintext : name = "plaintext" →
      { b.endParagraph.insert name attrs with textMode := .plaintext }.All P :=
    fun hname => hblock.withTextMode (hname ▸ by decide) hown .plaintext
  have htext : name = "textarea" ∨ name = "xmp" ∨ name = "iframe" ∨ name = "noembed" ∨
      name = "noscript" → (b.startText name attrs).All P := by
    rintro hname
    have hmember : name ∈ textElements := by
      rcases hname with rfl | rfl | rfl | rfl | rfl <;> decide
    exact h.startText hmember hown
  unfold Builder.startInBody
  split
  · exact h.startInHead hborn
  · split
    · exact hblock
    · split
      · grind
      · split
        · exact h.reopenFormatting.insertFormatting hown
        · split
          · exact h
          · split
            all_goals grind

@[grind ←] theorem All.endForm (h : b.All P) : b.endForm.All P := by
  unfold Builder.endForm
  split
  · split
    · exact h
    · exact h
  · split
    · exact h
    · dsimp only
      split
      · exact h
      · exact h

@[simp, grind =] theorem all_endScoped (names : List String) :
    (b.endScoped names).All P ↔ b.All P := by
  unfold Builder.endScoped
  grind

@[grind ←] theorem All.endInBody {name : String} (h : b.All P)
    (hparagraph : name = "p" → P .html "p" []) (hbreak : name = "br" → P .html "br" []) :
    (b.endInBody name).All P := by
  replace hparagraph : name = "p" → (b.insert "p" []).All P := fun hp => h.insert (hparagraph hp)
  replace hbreak : name = "br" → (b.reopenFormatting.insertVoid "br" []).All P :=
    fun hbr => h.reopenFormatting.insertVoid (hbreak hbr)
  unfold Builder.endInBody
  split
  · grind
  · split
    · grind
    · split
      · grind
      · split
        all_goals grind only [all_closeParagraph, all_closeImplied, all_popUntil, all_noFrameset,
          All.endTemplate, All.endForm, All.closeAny, All.clearFormatting]

/-! ### Tables -/

@[simp, grind =] theorem all_clearToTable : b.clearToTable.All P ↔ b.All P := Iff.rfl

@[simp, grind =] theorem all_clearToRows : b.clearToRows.All P ↔ b.All P := Iff.rfl

@[simp, grind =] theorem all_clearToRow : b.clearToRow.All P ↔ b.All P := Iff.rfl

@[grind ←] theorem All.startTableForm {attrs : List Attribute} (h : b.All P)
    (hnew : P .html "form" attrs) : (b.startTableForm attrs).All P := by
  unfold Builder.startTableForm
  split
  · exact h
  · exact h.insertClosed hnew

@[grind ←] theorem All.closeCaption (h : b.All P) : b.closeCaption.All P := by
  unfold Builder.closeCaption
  grind

@[grind ←] theorem All.closeCell (h : b.All P) : b.closeCell.All P := by
  unfold Builder.closeCell
  grind

@[simp, grind =] theorem all_closeRow : b.closeRow.All P ↔ b.All P := Iff.rfl

@[simp, grind =] theorem all_closeRows : b.closeRows.All P ↔ b.All P := Iff.rfl

@[simp, grind =] theorem all_templateAs (mode : Mode) :
    (b.templateAs mode).All P ↔ b.All P := Iff.rfl

end Builder

/-- What may be made of a token: some end tags stand for an element that has no start tag. -/
def Token.Born (P : Space → String → List Attribute → Prop) : Token → Prop
  | .startTag name attrs _ => Builder.Born P name attrs
  | .endTag "p" => P .html "p" []
  | .endTag "br" => P .html "br" []
  | _ => True

@[grind =] theorem born_endTag {P : Space → String → List Attribute → Prop} {name : String} :
    (Token.endTag name).Born P ↔
      (name = "p" → P .html "p" []) ∧ (name = "br" → P .html "br" []) := by
  unfold Token.Born
  split <;> simp_all

@[grind =] theorem born_startTag {P : Space → String → List Attribute → Prop} {name : String}
    {attrs : List Attribute} {selfClosing : Bool} :
    (Token.startTag name attrs selfClosing).Born P ↔ Builder.Born P name attrs := Iff.rfl

/-- What a rule leaves: elements with a property, and a token that makes only such. -/
def Left (P : Space → String → List Attribute → Prop) (result : Builder × Option Token) : Prop :=
  result.1.All P ∧ ∀ token, result.2 = some token → token.Born P

/-- A rule that makes only elements with a property. -/
def Makes (P : Space → String → List Attribute → Prop) (rule : Rule) : Prop :=
  ∀ b token, b.All P → token.Born P → Left P (rule b token)

section Rules

variable {P : Space → String → List Attribute → Prop} {b : Builder} {token : Token}

@[simp, grind =] theorem left_done : Left P (done b) ↔ b.All P := by
  simp [Left, done]

@[simp, grind =] theorem left_again : Left P (again b token) ↔ b.All P ∧ token.Born P := by
  simp [Left, again]

theorem makes_ruleInitial : Makes P ruleInitial := by
  intro b token h hborn
  unfold ruleInitial
  split
  · exact left_done.2 h
  · exact left_done.2 h
  · exact left_done.2 h
  · exact left_again.2 ⟨h, hborn⟩

@[simp, grind =] theorem left_again_eof : Left P (again b .eof) ↔ b.All P := by
  simp [Left, again, Token.Born]

theorem makes_ruleBeforeHtml (hs : Builder.Supplied P) : Makes P ruleBeforeHtml := by
  rw [Builder.supplied_iff] at hs
  intro b token h hborn
  unfold ruleBeforeHtml
  dsimp only
  split
  all_goals grind [Builder.Born]

theorem makes_ruleBeforeHead (hs : Builder.Supplied P) : Makes P ruleBeforeHead := by
  rw [Builder.supplied_iff] at hs
  intro b token h hborn
  unfold ruleBeforeHead
  dsimp only
  split
  all_goals grind [Builder.Born]

theorem makes_ruleInHead : Makes P ruleInHead := by
  intro b token h hborn
  unfold ruleInHead
  dsimp only
  split
  all_goals grind

theorem makes_ruleAfterHead (hs : Builder.Supplied P) : Makes P ruleAfterHead := by
  rw [Builder.supplied_iff] at hs
  intro b token h hborn
  unfold ruleAfterHead
  dsimp only
  split
  all_goals grind [Builder.Born]

theorem makes_ruleText : Makes P ruleText := by
  intro b token h hborn
  unfold ruleText
  split
  all_goals grind

theorem left_endInTemplate (h : b.All P) : Left P b.endInTemplate := by
  unfold Builder.endInTemplate
  split
  · exact left_again_eof.2 h.closeTemplate
  · exact left_done.2 h

/-! ### The rules of the body -/

theorem makes_ruleInBody : Makes P ruleInBody := by
  intro b token h hborn
  unfold ruleInBody
  split
  all_goals grind [left_endInTemplate]

theorem makes_ruleAfterBody : Makes P ruleAfterBody := by
  intro b token h hborn
  have hbody := makes_ruleInBody b token h hborn
  unfold ruleAfterBody
  split
  all_goals grind

theorem makes_ruleAfterAfterBody : Makes P ruleAfterAfterBody := by
  intro b token h hborn
  have hbody := makes_ruleInBody b token h hborn
  unfold ruleAfterAfterBody
  split
  all_goals grind

theorem makes_ruleInFrameset : Makes P ruleInFrameset := by
  intro b token h hborn
  unfold ruleInFrameset
  split
  all_goals grind [Builder.Born]

theorem makes_ruleAfterFrameset : Makes P ruleAfterFrameset := by
  intro b token h hborn
  unfold ruleAfterFrameset
  split
  all_goals grind

theorem makes_ruleAfterAfterFrameset : Makes P ruleAfterAfterFrameset := by
  intro b token h hborn
  have hbody := makes_ruleInBody b token h hborn
  unfold ruleAfterAfterFrameset
  split
  all_goals grind

/-! ### The rules of tables -/

theorem makes_ruleFostered : Makes P ruleFostered :=
  fun b token h hborn => makes_ruleInBody { b with fostering := true } token h hborn

theorem Builder.All.flushTableText (h : b.All P) : b.flushTableText.All P := by
  unfold Builder.flushTableText
  dsimp only
  split
  · exact List.foldlRecOn (motive := Builder.All P) _ _ h fun b h chars _ => h.insertText chars
  · refine List.foldlRecOn (motive := Builder.All P) _ _ h fun b h chars _ => ?_
    refine (makes_ruleFostered b _ h ?_).1
    split <;> exact trivial

theorem makes_ruleInTable : Makes P ruleInTable := by
  intro b token h hborn
  have hfostered := makes_ruleFostered b token h hborn
  have hbody := makes_ruleInBody b token h hborn
  unfold ruleInTable
  dsimp only
  split
  · split
    · exact left_again.2 ⟨h, hborn⟩
    · exact hfostered
  · split
    · exact left_again.2 ⟨h, hborn⟩
    · exact hfostered
  · split
    · exact left_again.2 ⟨h, hborn⟩
    · exact hfostered
  · exact left_done.2 h.insertComment
  · exact left_done.2 h
  · split
    all_goals grind [Builder.Born]
  · split
    all_goals grind
  · exact hbody

theorem makes_ruleInTableText : Makes P ruleInTableText := by
  intro b token h hborn
  unfold ruleInTableText
  split
  · exact left_done.2 h
  · exact left_done.2 h
  · exact left_done.2 h
  · exact left_again.2 ⟨h.flushTableText, hborn⟩

theorem makes_ruleInCaption : Makes P ruleInCaption := by
  intro b token h hborn
  have hbody := makes_ruleInBody b token h hborn
  unfold ruleInCaption
  dsimp only
  split
  all_goals grind

theorem makes_ruleInColumnGroup : Makes P ruleInColumnGroup := by
  intro b token h hborn
  have hbody := makes_ruleInBody b token h hborn
  unfold ruleInColumnGroup
  dsimp only
  split
  all_goals grind [Builder.Born]

theorem makes_ruleInTableBody : Makes P ruleInTableBody := by
  intro b token h hborn
  have htable := makes_ruleInTable b token h hborn
  unfold ruleInTableBody
  dsimp only
  split
  · split
    all_goals grind [Builder.Born]
  · split
    all_goals grind
  · exact htable

theorem makes_ruleInRow : Makes P ruleInRow := by
  intro b token h hborn
  have htable := makes_ruleInTable b token h hborn
  unfold ruleInRow
  dsimp only
  split
  · split
    all_goals grind [Builder.Born]
  · split
    all_goals grind
  · exact htable

theorem makes_ruleInCell : Makes P ruleInCell := by
  intro b token h hborn
  have hbody := makes_ruleInBody b token h hborn
  unfold ruleInCell
  split
  · grind
  · split
    all_goals grind
  · exact hbody

theorem makes_ruleInTemplate : Makes P ruleInTemplate := by
  intro b token h hborn
  have hbody := makes_ruleInBody b token h hborn
  unfold ruleInTemplate
  split
  all_goals grind [left_endInTemplate]

/-! ### All rules -/

theorem makes_ruleOf (hs : Builder.Supplied P) (mode : Mode) : Makes P (ruleOf mode) := by
  cases mode with
  | initial => exact makes_ruleInitial
  | beforeHtml => exact makes_ruleBeforeHtml hs
  | beforeHead => exact makes_ruleBeforeHead hs
  | inHead => exact makes_ruleInHead
  | afterHead => exact makes_ruleAfterHead hs
  | inBody => exact makes_ruleInBody
  | text => exact makes_ruleText
  | inTable => exact makes_ruleInTable
  | inTableText => exact makes_ruleInTableText
  | inCaption => exact makes_ruleInCaption
  | inColumnGroup => exact makes_ruleInColumnGroup
  | inTableBody => exact makes_ruleInTableBody
  | inRow => exact makes_ruleInRow
  | inCell => exact makes_ruleInCell
  | inTemplate => exact makes_ruleInTemplate
  | afterBody => exact makes_ruleAfterBody
  | inFrameset => exact makes_ruleInFrameset
  | afterFrameset => exact makes_ruleAfterFrameset
  | afterAfterBody => exact makes_ruleAfterAfterBody
  | afterAfterFrameset => exact makes_ruleAfterAfterFrameset

/-- Where the rules for other vocabularies apply, the innermost element is of one. -/
theorem current?_of_isForeign (h : b.isForeign token = true) :
    ∃ space name, b.current? = some (space, name) ∧ space ≠ .html := by
  unfold Builder.isForeign at h
  unfold Builder.current?
  cases hstack : b.stack with
  | nil => rw [hstack] at h; exact absurd h Bool.false_ne_true
  | cons id rest =>
      rw [hstack] at h
      dsimp only at h ⊢
      rcases hname : b.dom.name? id with _ | ⟨space, name⟩
      · simp [hname] at h
      · cases space with
        | html => simp [hname] at h
        | svg => exact ⟨.svg, name, rfl, nofun⟩
        | mathml => exact ⟨.mathml, name, rfl, nofun⟩

theorem Builder.All.of_current? (h : b.All P) {space : Space} {name : String}
    (hcurrent : b.current? = some (space, name)) : ∃ attrs, P space name attrs := by
  unfold Builder.current? at hcurrent
  split at hcurrent
  · exact absurd hcurrent nofun
  · next id _ _ =>
    unfold Dom.name? at hcurrent
    split at hcurrent
    · next s n attrs content hkind =>
      obtain ⟨rfl, rfl⟩ := Prod.mk.inj (Option.some.inj hcurrent)
      exact ⟨attrs, h.1 id _ _ attrs content hkind⟩
    · exact absurd hcurrent nofun

/-- In other vocabularies elements are of the vocabulary that they are in; the rule of the
mode takes over where a tag leads out of them. -/
theorem makes_ruleForeign {html : Rule} (hhtml : Makes P html) (h : b.All P)
    (hborn : token.Born P) (hforeign : b.isForeign token = true) :
    Left P (ruleForeign html b token) := by
  have hhere := hhtml b token h hborn
  have hleft := hhtml b.leaveForeign token h hborn
  obtain ⟨space, name, hcurrent, hspace⟩ := current?_of_isForeign hforeign
  obtain ⟨own, hown⟩ := h.of_current? hcurrent
  unfold ruleForeign
  split
  · grind
  · grind
  · grind
  · grind
  · grind
  · dsimp only
    split
    · exact hleft
    · rw [hcurrent]
      exact left_done.2 (h.insertForeign
        (hborn.foreign space hspace (.inr (.inr ⟨name, own, hown⟩))) _)
  · grind
  · exact hhere

end Rules

namespace Builder

/-! ### What is kept while markup is read -/

/-- One step: the rule of the mode, or the one for other vocabularies. -/
def step (b : Builder) (token : Token) : Builder × Option Token :=
  if b.isForeign token then ruleForeign (ruleOf b.mode) b token else ruleOf b.mode b token

theorem take_of_done {b after : Builder} {token : Token} (fuel : Nat)
    (h : b.step token = (after, none)) : take (fuel + 1) b token = after := by
  unfold step at h
  simp only [take, h]

theorem take_of_again {b after : Builder} {token rest : Token} (fuel : Nat)
    (h : b.step token = (after, some rest)) : take (fuel + 1) b token = take fuel after rest := by
  unfold step at h
  rw [take]
  simp only [h]

/-- What holds of all states while markup is read, and of all tokens that are used. -/
structure Kept (State : Builder → Prop) (Used : Token → Prop) : Prop where
  /-- A step keeps it, and leaves only such a token. -/
  step : ∀ b token, State b → Used token →
    State (b.step token).1 ∧ ∀ rest, (b.step token).2 = some rest → Used rest
  /-- What is left of a text without its first line feed is such a token. -/
  newline : ∀ token rest, Used token → withoutNewline token = some rest → Used rest
  /-- A line feed is dropped only once. -/
  dropNewline : ∀ b : Builder, State b → State { b with dropNewline := false }
  /-- An end tag ends the text of an element. -/
  textMode : ∀ b : Builder, State b → State { b with textMode := .data }

/-- A text as it is read: without a mark at its beginning, and with line feeds for all line
ends. -/
def readable (text : List Char) : List Char :=
  normalizeNewlines
    (match text with
    | '\ufeff' :: rest => rest
    | text => text)

namespace Kept

variable {State : Builder → Prop} {Used : Token → Prop}

theorem take (hkept : Kept State Used) (fuel : Nat) :
    ∀ (b : Builder) (token : Token), State b → Used token → State (take fuel b token) := by
  induction fuel with
  | zero => exact fun _ _ h _ => h
  | succ fuel ih =>
      intro b token h hused
      have hstep := hkept.step b token h hused
      cases heq : b.step token with
      | mk b' left =>
          rw [heq] at hstep
          cases left with
          | none =>
              rw [take_of_done fuel heq]
              exact hstep.1
          | some token' =>
              rw [take_of_again fuel heq]
              exact ih b' token' hstep.1 (hstep.2 token' rfl)

/-- **One token** is used. -/
theorem accept (hkept : Kept State Used) {b : Builder} {token : Token} (h : State b)
    (hused : Used token) : State (b.accept token) := by
  have hdata : State { b with dropNewline := false, textMode := .data } :=
    hkept.textMode _ (hkept.dropNewline b h)
  unfold Builder.accept
  dsimp only
  generalize hnext : (if b.dropNewline = true then withoutNewline token else some token) = next
  cases next with
  | none =>
      dsimp only
      split
      · exact hdata
      · exact hkept.dropNewline b h
  | some next =>
      have hnextUsed : Used next := by
        split at hnext
        · exact hkept.newline token next hused hnext
        · exact Option.some.inj hnext ▸ hused
      refine hkept.take _ _ next ?_ hnextUsed
      split
      · exact hdata
      · exact hkept.dropNewline b h

theorem run (hkept : Kept State Used) {Kind : List Char → Prop}
    (hfeeds : ∀ (b : Builder) allowed text, State b → Kind text →
      (∀ token, (nextToken b.textMode allowed text).1 = some token → Used token) ∧
        Kind (nextToken b.textMode allowed text).2) (fuel : Nat) :
    ∀ (b : Builder) (text : List Char), State b → Kind text → State (b.run fuel text) := by
  induction fuel with
  | zero => exact fun _ _ h _ => h
  | succ fuel ih =>
      intro b text h hkind
      unfold Builder.run
      split
      · exact h
      · dsimp only
        have hnext : ∀ allowed next, nextToken b.textMode allowed text = next →
            (∀ token, next.1 = some token → Used token) ∧ Kind next.2 :=
          fun allowed next heq => heq ▸ hfeeds b allowed text h hkind
        split
        · next token rest heq =>
          obtain ⟨hused, hrest⟩ := hnext _ _ heq
          exact ih _ _ (hkept.accept h (hused token rfl)) hrest
        · next rest heq => exact ih _ _ h (hnext _ _ heq).2

/-- **All markup** is used: what holds at its beginning holds at its end. -/
theorem readAll (hkept : Kept State Used) {Kind : List Char → Prop}
    (hfeeds : ∀ (b : Builder) allowed text, State b → Kind text →
      (∀ token, (nextToken b.textMode allowed text).1 = some token → Used token) ∧
        Kind (nextToken b.textMode allowed text).2)
    {b : Builder} (h : State b) {text : List Char} (hkind : Kind (readable text)) :
    State (b.readAll text) :=
  hkept.run hfeeds _ b _ h hkind

end Kept

/-! ### All elements -/

variable {P : Space → String → List Attribute → Prop}

theorem born_withoutNewline {token rest : Token} (hborn : token.Born P)
    (h : withoutNewline token = some rest) : rest.Born P := by
  unfold withoutNewline at h
  split at h
  · split at h
    · exact absurd h nofun
    · exact Option.some.inj h ▸ trivial
  · split at h
    · exact absurd h nofun
    · rw [← Option.some.inj h]
      unfold textToken
      split <;> exact trivial
  · exact Option.some.inj h ▸ hborn

/-- **One token** makes only elements of its own, and supplied ones. -/
theorem kept_all (hs : Supplied P) : Kept (·.All P) (·.Born P) where
  step b token h hborn := by
    unfold step
    split
    · next hforeign => exact makes_ruleForeign (makes_ruleOf hs b.mode) h hborn hforeign
    · exact makes_ruleOf hs b.mode b token h hborn
  newline _ _ := born_withoutNewline
  dropNewline _ h := h
  textMode _ h := ⟨h.1, h.2.1, .inl rfl⟩

/-- Texts of a kind are cut into tokens of which only elements with a property are made, and
leave texts of the same kind. -/
def Feeds (P : Space → String → List Attribute → Prop) (Kind : List Char → Prop) : Prop :=
  ∀ textMode allowCharacterData text, ReadsTags P textMode → Kind text →
    (∀ token, (nextToken textMode allowCharacterData text).1 = some token → token.Born P) ∧
      Kind (nextToken textMode allowCharacterData text).2

theorem All.readAll {b : Builder} {Kind : List Char → Prop} (hs : Supplied P)
    (hfeeds : Feeds P Kind) (h : b.All P) {text : List Char} (hkind : Kind (readable text)) :
    (b.readAll text).All P :=
  (kept_all hs).readAll (fun b allowed text h => hfeeds b.textMode allowed text h.2.2) h hkind

theorem all_forDocument : forDocument.All P :=
  ⟨Dom.all_empty false, .nil, .inl rfl⟩

theorem all_forFragment (hs : Supplied P) : forFragment.All P :=
  all_forDocument.withDom
    (((Dom.all_empty true).createElement ((supplied_iff.1 hs).1)).append _ _)

end Builder

/-- **The elements of a document.** What holds of supplied elements, and of all that may be
made of the tokens, holds of every element that is read. -/
theorem elements_readDocument {P : Space → String → List Attribute → Prop}
    {Kind : List Char → Prop} {text : List Char} (hs : Builder.Supplied P)
    (hfeeds : Builder.Feeds P Kind) (hkind : Kind (Builder.readable text)) :
    ∀ element ∈ Markup.elementsList (readDocument text),
      P element.space element.name element.attrs := by
  have hall := Builder.all_forDocument.readAll hs hfeeds hkind
  intro element helement
  unfold readDocument at helement
  dsimp only at helement
  split at helement
  · exact hall.1.childrenToMarkup _ element helement
  · exact absurd helement List.not_mem_nil

/-- The same of a part of a document. -/
theorem elements_readFragment {P : Space → String → List Attribute → Prop}
    {Kind : List Char → Prop} {text : List Char} (hs : Builder.Supplied P)
    (hfeeds : Builder.Feeds P Kind) (hkind : Kind (Builder.readable text)) :
    ∀ element ∈ Markup.elementsList (readFragment text),
      P element.space element.name element.attrs := by
  have hall := (Builder.all_forFragment hs).readAll hs hfeeds hkind
  intro element helement
  unfold readFragment at helement
  dsimp only at helement
  split at helement
  · exact hall.1.childrenToMarkup _ element helement
  · exact absurd helement List.not_mem_nil

end PostPress.Html
