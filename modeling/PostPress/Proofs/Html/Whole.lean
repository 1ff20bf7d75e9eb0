import PostPress.Proofs.Html.Table

/-!
# PostPress.Proofs.Html.Whole

**The body of a document holds none of the elements that every document has.** Before the
body is opened, `html` and `head` are put where they belong; then everything stays in the
body (`Builder.Settled`). Each rule leads from one of these states to one of them, so what
holds before the first token holds after the last one.

* `Builder.Opening` — a document whose body has not been opened;
* `Builder.Underway` — all states in which ordinary markup is read;
* `notMem_supplied_readDocument` — what is in the body.
-/

namespace PostPress.Html

open Builder (suppliedElements)

namespace Builder

variable {b : Builder} {token : Token} {tags : List String}

/-- A tree in which no body has been opened, with some open elements. -/
structure Outset (tags : List String) (dom : Dom) (stack : List Nat)
    (formatting : List Formatting) (form head : Option Nat) : Prop where
  /-- Open elements are nodes that hold what is put into them. -/
  valid : ∀ id ∈ stack, id < dom.nodes.size ∧ dom.contentOf id = id
  /-- Their names. -/
  tags : stack.map dom.tag = tags
  /-- The document is a node. -/
  document : Dom.document < dom.nodes.size ∧ dom.name? Dom.document = none
  /-- The parts of the document are in their places. -/
  placed : dom.Placed
  /-- There are no formatting elements. -/
  formatting : formatting = []
  /-- There is no form. -/
  form : form = none
  /-- The head, if there is one. -/
  head : ∀ id, head = some id → id < dom.nodes.size ∧ dom.tag id = "head"

/-- A state before the body is opened, with some open elements. -/
def Opening (tags : List String) (b : Builder) : Prop :=
  Outset tags b.dom b.stack b.formatting b.form b.head

theorem Opening.withDom {dom : Dom} (h : b.Opening tags) (hgrows : b.dom.Grows dom) :
    { b with dom }.Opening tags where
  valid id hid := by
    obtain ⟨hvalid, hcontent⟩ := h.valid id hid
    exact ⟨hvalid.trans_le hgrows.size, (hgrows.contentOf id hvalid).trans hcontent⟩
  tags := (hgrows.map_tag fun id hid => (h.valid id hid).1).trans h.tags
  document := ⟨h.document.1.trans_le hgrows.size,
    (hgrows.name? _ h.document.1).trans h.document.2⟩
  placed := hgrows.placed h.placed
  formatting := h.formatting
  form := h.form
  head id hid := by
    obtain ⟨hvalid, htag⟩ := h.head id hid
    exact ⟨hvalid.trans_le hgrows.size, (hgrows.tag hvalid).trans htag⟩

/-- The place for the next node is in the innermost element. -/
theorem Opening.place_eq {tag : String} {rest : List String} (h : b.Opening (tag :: rest))
    (htag : tag ∉ ["table", "tbody", "tfoot", "thead", "tr"]) :
    ∃ id below, b.stack = id :: below ∧ b.dom.tag id = tag ∧ b.place = .inside id := by
  obtain ⟨id, below, hstack, hid, -⟩ := List.map_eq_cons_iff.1 h.tags
  refine ⟨id, below, hstack, hid, ?_⟩
  have hhtml : b.isHtml ["table", "tbody", "tfoot", "thead", "tr"] id = false :=
    eq_false_of_ne_true fun hhtml => htag (hid ▸ tag_mem_of_isHtml hhtml)
  have hcontent := (h.valid id (hstack ▸ List.mem_cons_self)).2
  unfold place placeIn
  rw [hstack, List.head?_cons, Option.getD_some, hhtml, Bool.and_false, if_neg Bool.false_ne_true,
    hcontent]

/-- A part of the document is put into its `html` element. -/
theorem Opening.grows_insert {rest : List String} (h : b.Opening ("html" :: rest))
    (name : String) (attrs : List Attribute) :
    (b.dom.createElement .html name attrs).2.Grows (b.insert name attrs).dom := by
  obtain ⟨id, below, hstack, hid, hplace⟩ := h.place_eq (by decide)
  have hvalid := (h.valid id (hstack ▸ List.mem_cons_self)).1
  have hcreate := Dom.grows_createElement b.dom .html name attrs
  have hhold : (b.dom.createElement .html name attrs).2.MayHold id
      (b.dom.createElement .html name attrs).1 :=
    ⟨(Dom.tag_createElement b.dom name attrs).1, fun _ =>
      ⟨hvalid.trans_le hcreate.size, .inr ((hcreate.tag hvalid).trans hid)⟩⟩
  have hput := Dom.grows_appendPart hhold
  show (b.dom.createElement .html name attrs).2.Grows
    (Builder.putAt { b with dom := (b.dom.createElement .html name attrs).2 } b.place _).dom
  rw [hplace]
  exact hput

/-- Opening a part of the document. -/
theorem Opening.insert {name : String} {rest : List String} (h : b.Opening ("html" :: rest))
    (attrs : List Attribute) (hname : name ≠ "template") :
    (b.insert name attrs).Opening (name :: "html" :: rest) := by
  have hput := h.grows_insert name attrs
  have hdom := h.withDom ((Dom.grows_createElement b.dom .html name attrs).trans hput)
  obtain ⟨hvalid, htags⟩ := map_tag_insert (fun id hid => (h.valid id hid).1) hput
  rw [insert_eq] at hvalid htags ⊢
  refine { hdom with valid := fun id hid => ⟨hvalid id hid, ?_⟩, tags := htags.trans ?_ }
  · rcases List.mem_cons.1 hid with rfl | hid
    · exact (hput.contentOf _ (Dom.tag_createElement b.dom name attrs).1).trans
        (Dom.contentOf_createElement b.dom attrs hname)
    · exact (hdom.valid id hid).2
  · rw [h.tags]

theorem Opening.openHead (h : b.Opening ["html"]) (attrs : List Attribute) :
    (b.openHead attrs).Opening ["head", "html"] := by
  have hinsert := h.insert attrs (show "head" ≠ "template" by decide)
  obtain ⟨hsize, htag⟩ := Dom.tag_createElement b.dom "head" attrs
  have hput := h.grows_insert "head" attrs
  refine { hinsert with head := fun id hid => ?_ }
  obtain rfl := Option.some.inj hid
  exact ⟨hsize.trans_le hput.size, (hput.tag hsize).trans htag⟩

/-- Making the `html` element. -/
theorem Opening.createRoot (h : b.Opening []) (attrs : List Attribute) :
    (b.createRoot attrs).Opening ["html"] := by
  obtain ⟨hsize, htag⟩ := Dom.tag_createElement b.dom "html" attrs
  have hcreate := Dom.grows_createElement b.dom .html "html" attrs
  have hcontent := Dom.contentOf_createElement b.dom attrs (show "html" ≠ "template" by decide)
  have hhold : (b.dom.createElement .html "html" attrs).2.MayHold Dom.document
      (b.dom.createElement .html "html" attrs).1 :=
    ⟨hsize, fun _ => ⟨h.document.1.trans_le hcreate.size,
      .inl ((hcreate.name? _ h.document.1).trans h.document.2)⟩⟩
  have hput := Dom.grows_appendPart hhold
  refine { h.withDom (hcreate.trans hput) with valid := fun id hid => ?_, tags := ?_ }
  · obtain rfl := List.mem_singleton.1 hid
    exact ⟨hsize.trans_le hput.size, (hput.contentOf _ hsize).trans hcontent⟩
  · exact congrArg ([·]) ((hput.tag hsize).trans htag)

theorem Opening.pop {tag : String} (h : b.Opening (tag :: tags)) : b.pop.Opening tags := by
  refine { h with
    valid := fun id hid => h.valid id ((List.drop_sublist 1 _).subset hid), tags := ?_ }
  rw [Builder.pop, List.map_drop, h.tags]
  rfl

/-- The body is open. -/
theorem Opening.stands (h : b.Opening ["body", "html"]) :
    b.Stands ⟨b.dom, b.mode, b.returnMode, ["body", "html"]⟩ := by
  refine ⟨⟨fun id hid => (h.valid id hid).1, ?_, ?_, h.placed, ?_, ?_⟩, .refl _, rfl, rfl⟩
  · rw [h.tags]
    exact .body rfl rfl
  · rw [h.tags]
    exact (by decide : partsOf ["body", "html"] = ["body", "html"])
  · rw [h.formatting]
    exact Listed.nil
  · rw [h.form]
    exact fun _ => nofun

/-! ### All states -/

/-- The elements that are open in a mode before the body. -/
def startTags : Mode → Option (List String)
  | .initial | .beforeHtml => some []
  | .beforeHead | .afterHead => some ["html"]
  | .inHead => some ["head", "html"]
  | _ => none

/-- The states in which ordinary markup is read: in a body, or before it. -/
def Underway (b : Builder) : Prop :=
  b.Settled ∨ ∃ tags, startTags b.mode = some tags ∧ b.Opening tags

theorem Opening.underway (h : b.Opening tags) (hmode : startTags b.mode = some tags) :
    b.Underway :=
  .inr ⟨tags, hmode, h⟩

section

variable (h : b.Opening tags) (hmode : startTags b.mode = some tags)

include h hmode

theorem Opening.underway_insertText (chars : List Char) : (b.insertText chars).Underway :=
  insertText_eq b chars ▸ (h.withDom (grows_insertText b chars)).underway hmode

theorem Opening.underway_insertComment : b.insertComment.Underway :=
  insertComment_eq b ▸ (h.withDom (grows_insertComment b)).underway hmode

theorem Opening.underway_mergeHtml (attrs : List Attribute) : (b.mergeHtml attrs).Underway := by
  unfold Builder.mergeHtml
  split
  · exact h.underway hmode
  · split
    · exact (h.withDom (Dom.grows_addMissing _ _ _)).underway hmode
    · exact h.underway hmode

theorem Opening.underway_insertVoid {name : String} {attrs : List Attribute}
    (hname : name ∉ suppliedElements) : (b.insertVoid name attrs).Underway := by
  have hclosed := (h.withDom (grows_insertClosed attrs b hname)).underway hmode
  rwa [← insertClosed_eq] at hclosed

end

theorem Opening.enter (h : b.Opening tags) {mode : Mode} (hmode : startTags mode = some tags) :
    (b.goTo mode).Underway :=
  .inr ⟨tags, hmode, h⟩

theorem Opening.enterBody (h : b.Opening ["html"]) (attrs : List Attribute) :
    ((b.insert "body" attrs).goTo .inBody).Underway :=
  .inl ((h.insert attrs (by decide)).stands.enter rfl)

/-! ### Rules -/

theorem Opening.after_initial (h : b.Opening []) (hmode : b.mode = .initial)
    (hord : token.Ordinary) : After Underway (ruleInitial b token) := by
  have hstay : b.Underway := h.underway (hmode ▸ rfl)
  unfold ruleInitial
  split
  · exact after_done.2 hstay
  · exact after_done.2 hstay
  · exact after_done.2 (h.enter rfl)
  · exact after_again.2 ⟨.inr ⟨[], rfl, h⟩, hord⟩

theorem Opening.after_beforeHtml (h : b.Opening []) (hmode : b.mode = .beforeHtml)
    (hord : token.Ordinary) : After Underway (ruleBeforeHtml b token) := by
  have hstay : b.Underway := h.underway (hmode ▸ rfl)
  have hroot : ∀ attrs, ((b.createRoot attrs).goTo .beforeHead).Underway :=
    fun attrs => (h.createRoot attrs).enter rfl
  have hfallback : After Underway (again ((b.createRoot []).goTo .beforeHead) token) :=
    after_again.2 ⟨hroot [], hord⟩
  unfold ruleBeforeHtml
  dsimp only
  split
  · exact after_done.2 hstay
  · exact after_done.2 hstay
  · exact after_done.2 hstay
  · exact after_done.2 (hroot _)
  · split
    · exact hfallback
    · exact after_done.2 hstay
  · exact hfallback

theorem Opening.after_beforeHead (h : b.Opening ["html"]) (hmode : b.mode = .beforeHead)
    (hord : token.Ordinary) : After Underway (ruleBeforeHead b token) := by
  have hstart : startTags b.mode = some ["html"] := hmode ▸ rfl
  have hhead : ∀ attrs, (b.openHead attrs).Underway :=
    fun attrs => (h.openHead attrs).underway rfl
  have hfallback : After Underway (again (b.openHead []) token) :=
    after_again.2 ⟨hhead [], hord⟩
  unfold ruleBeforeHead
  dsimp only
  split
  · exact after_done.2 (h.underway hstart)
  · exact after_done.2 (h.underway hstart)
  · exact after_done.2 (h.underway_insertComment hstart)
  · exact after_done.2 (h.underway_mergeHtml hstart _)
  · exact after_done.2 (hhead _)
  · split
    · exact hfallback
    · exact after_done.2 (h.underway hstart)
  · exact hfallback

/-- The tags that belong into a head and are read as others are. -/
theorem startInHead_eq {name : String} {attrs : List Attribute} (hname : name ∉ unusualTags) :
    b.startInHead name attrs = b.insertVoid name attrs := by
  unfold Builder.startInHead
  split
  all_goals try exact absurd (by decide) hname
  rfl

theorem notMem_supplied_of_headTags {name : String}
    (h : (headTags.contains name || name = "noscript") = true) : name ∉ suppliedElements := by
  have hall : ∀ name ∈ suppliedElements, (headTags.contains name || name = "noscript") = false := by
    decide
  exact fun hmem => Bool.false_ne_true ((hall name hmem).symm.trans h)

theorem Opening.after_inHead (h : b.Opening ["head", "html"]) (hmode : b.mode = .inHead)
    (hord : token.Ordinary) : After Underway (ruleInHead b token) := by
  have hstart : startTags b.mode = some ["head", "html"] := hmode ▸ rfl
  have hpop : (b.pop.goTo .afterHead).Underway := h.pop.enter rfl
  have hfallback : After Underway (again (b.pop.goTo .afterHead) token) :=
    after_again.2 ⟨hpop, hord⟩
  unfold ruleInHead
  dsimp only
  split
  · exact after_done.2 (h.underway_insertText hstart _)
  · exact after_done.2 (h.underway_insertComment hstart)
  · exact after_done.2 (h.underway hstart)
  · exact after_done.2 (h.underway_mergeHtml hstart _)
  · exact after_done.2 (h.underway hstart)
  · split
    · next htag =>
      rw [startInHead_eq hord.startTag]
      exact after_done.2 (h.underway_insertVoid hstart (notMem_supplied_of_headTags htag))
    · exact hfallback
  · exact after_done.2 hpop
  · exact absurd (by decide) hord.endTag
  · split
    · exact hfallback
    · exact after_done.2 (h.underway hstart)
  · exact hfallback

/-- What belongs into the head is put there after it was closed. -/
theorem Opening.underway_headTag {head : Nat} {name : String} {attrs : List Attribute}
    (h : b.Opening ["html"]) (hmode : b.mode = .afterHead) (hhead : b.head = some head)
    (hname : name ∉ suppliedElements) :
    (((b.pushOpen head).insertVoid name attrs).removeOpen head).Underway := by
  have hgrows := grows_insertClosed attrs (b.pushOpen head) hname
  have hout : ∀ id ∈ b.stack, id ≠ head := by
    rintro id hid rfl
    have htag : b.dom.tag id ∈ ["html"] := h.tags ▸ List.mem_map_of_mem hid
    rw [(h.head id hhead).2] at htag
    exact absurd htag (by decide)
  have hstack : (head :: b.stack).filter (· ≠ head) = b.stack := by
    rw [List.filter_cons_of_neg (by simp)]
    exact List.filter_eq_self.2 fun id hid => decide_eq_true (hout id hid)
  have hvoid : ((b.pushOpen head).insertVoid name attrs).removeOpen head =
      { b with
        dom := ((b.pushOpen head).insertVoid name attrs).dom
        stack := (head :: b.stack).filter (· ≠ head) } :=
    congrArg (Builder.removeOpen · head) (insertClosed_eq (b.pushOpen head) .html name attrs)
  rw [hvoid, hstack]
  exact (h.withDom hgrows).underway (hmode ▸ rfl)

theorem Opening.after_afterHead (h : b.Opening ["html"]) (hmode : b.mode = .afterHead)
    (hord : token.Ordinary) : After Underway (ruleAfterHead b token) := by
  have hstart : startTags b.mode = some ["html"] := hmode ▸ rfl
  have hfallback : After Underway (again ((b.insert "body" []).goTo .inBody) token) :=
    after_again.2 ⟨h.enterBody [], hord⟩
  unfold ruleAfterHead
  dsimp only
  split
  · exact after_done.2 (h.underway_insertText hstart _)
  · exact after_done.2 (h.underway_insertComment hstart)
  · exact after_done.2 (h.underway hstart)
  · exact after_done.2 (h.underway_mergeHtml hstart _)
  · exact after_done.2 (h.enterBody _)
  · exact absurd (by decide) hord.startTag
  · exact after_done.2 (h.underway hstart)
  · split
    · next htag =>
      have hname := notMem_supplied_of_headTags (Bool.or_eq_true_iff.2 (.inl htag))
      split
      · next head hhead =>
        rw [startInHead_eq hord.startTag]
        exact after_done.2 (h.underway_headTag hmode hhead hname)
      · rw [startInHead_eq hord.startTag]
        exact after_done.2 (h.underway_insertVoid hstart hname)
    · exact hfallback
  · exact absurd (by decide) hord.endTag
  · split
    · exact hfallback
    · exact after_done.2 (h.underway hstart)
  · exact hfallback

/-- **What every rule leaves** of ordinary markup. -/
theorem after_ruleOf (h : b.Underway) (hord : token.Ordinary) :
    After Underway (ruleOf b.mode b token) := by
  rcases h with hsettled | ⟨tags, hstart, hopening⟩
  · exact (settledAfter_ruleOf hsettled hord).imp_left .inl
  · cases hmode : b.mode with
    | initial =>
        obtain rfl := Option.some.inj (hmode ▸ hstart)
        exact hopening.after_initial hmode hord
    | beforeHtml =>
        obtain rfl := Option.some.inj (hmode ▸ hstart)
        exact hopening.after_beforeHtml hmode hord
    | beforeHead =>
        obtain rfl := Option.some.inj (hmode ▸ hstart)
        exact hopening.after_beforeHead hmode hord
    | inHead =>
        obtain rfl := Option.some.inj (hmode ▸ hstart)
        exact hopening.after_inHead hmode hord
    | afterHead =>
        obtain rfl := Option.some.inj (hmode ▸ hstart)
        exact hopening.after_afterHead hmode hord
    | _ => exact absurd (hmode ▸ hstart) nofun

theorem opening_forDocument : forDocument.Opening [] where
  valid _ hid := absurd hid List.not_mem_nil
  tags := rfl
  document := ⟨by decide, rfl⟩
  placed parent child hchild := by
    have hempty : ((Dom.empty false).node parent).children = [] := by
      match parent with
      | 0 => rfl
      | parent + 1 => rfl
    exact absurd (hempty ▸ hchild) List.not_mem_nil
  formatting := rfl
  form := rfl
  head _ := nofun

/-- The parts of the document are in their places. -/
theorem Underway.placed (h : b.Underway) : b.dom.Placed := by
  rcases h with ⟨frame, hstands, -⟩ | ⟨tags, -, hopening⟩
  · exact hstands.1.placed
  · exact hopening.placed

section

variable {P : Space → String → List Attribute → Prop}

theorem ordinary_withoutNewline {rest : Token} (hord : token.Ordinary)
    (h : withoutNewline token = some rest) : rest.Ordinary := by
  unfold withoutNewline at h
  split at h
  · split at h
    · exact absurd h nofun
    · exact Option.some.inj h ▸ fun _ h => h.elim nofun nofun
  · split at h
    · exact absurd h nofun
    · exact Option.some.inj h ▸ named_textToken _
  · exact Option.some.inj h ▸ hord

/-- Where all elements are of HTML, the rules of the modes apply. -/
theorem step_of_html (hhtml : ∀ space name attrs, P space name attrs → space = .html)
    (h : b.All P) : b.step token = ruleOf b.mode b token := by
  refine if_neg fun hforeign => ?_
  obtain ⟨space, name, hcurrent, hspace⟩ := current?_of_isForeign hforeign
  obtain ⟨attrs, hown⟩ := h.of_current? hcurrent
  exact hspace (hhtml _ _ _ hown)

/-- Ordinary markup of HTML is read through the modes before the body and in it. -/
theorem kept_underway (hs : Supplied P)
    (hhtml : ∀ space name attrs, P space name attrs → space = .html) :
    Kept (fun b => b.All P ∧ b.Underway) (fun token => token.Born P ∧ token.Ordinary) where
  step b token h hused := by
    obtain ⟨hall, hborn⟩ := (kept_all hs).step b token h.1 hused.1
    obtain ⟨hunderway, hord⟩ := after_ruleOf h.2 hused.2
    rw [← step_of_html hhtml h.1] at hunderway hord
    exact ⟨⟨hall, hunderway⟩, fun rest heq => ⟨hborn rest heq, hord rest heq⟩⟩
  newline token rest hused heq :=
    ⟨born_withoutNewline hused.1 heq, ordinary_withoutNewline hused.2 heq⟩
  dropNewline b h := ⟨(kept_all hs).dropNewline b h.1, h.2⟩
  textMode b h := ⟨(kept_all hs).textMode b h.1, h.2⟩

end

end Builder

theorem Dom.name?_of_childNamed? {dom : Dom} {id child : Nat} {name : String}
    (h : dom.childNamed? id name = some child) : ∃ space, dom.name? child = some (space, name) := by
  have hname := List.find?_some h
  split at hname
  · next space n heq => exact ⟨space, eq_of_beq hname ▸ heq⟩
  · exact absurd hname Bool.false_ne_true

/-- **The body of a document** of ordinary markup of HTML holds none of the elements that
every document has. -/
theorem notMem_supplied_readDocument {P : Space → String → List Attribute → Prop}
    {Kind : List Char → Prop} {text : List Char} (hs : Builder.Supplied P)
    (hhtml : ∀ space name attrs, P space name attrs → space = .html)
    (hfeeds : Builder.Feeds P Kind)
    (hordinary : ∀ textMode allowed text, Builder.ReadsTags P textMode → Kind text →
      ∀ token, (nextToken textMode allowed text).1 = some token → token.Ordinary)
    (hkind : Kind (Builder.readable text)) :
    ∀ element ∈ Markup.elementsList (readDocument text), element.name ∉ suppliedElements := by
  obtain ⟨hall, hunderway⟩ := (Builder.kept_underway hs hhtml).readAll
    (fun b allowed text h hkind => ⟨fun token heq =>
      ⟨(hfeeds b.textMode allowed text h.1.2.2 hkind).1 token heq,
        hordinary b.textMode allowed text h.1.2.2 hkind token heq⟩,
      (hfeeds b.textMode allowed text h.1.2.2 hkind).2⟩)
    ⟨Builder.all_forDocument, Builder.opening_forDocument.underway rfl⟩ hkind
  intro element helement
  unfold readDocument at helement
  dsimp only at helement
  split at helement
  · next body hbody =>
    obtain ⟨html, -, hchild⟩ := Option.bind_eq_some_iff.1 hbody
    obtain ⟨space, hname⟩ := Dom.name?_of_childNamed? hchild
    refine hunderway.placed.common_childrenToMarkup
      (fun id space name attrs content hkind => hhtml _ _ _ (hall.1 id _ _ _ content hkind)) ?_ ?_
      element helement
    · rw [hname]
      exact Option.some_ne_none _
    · unfold Dom.tag
      rw [hname]
      cases space with
      | html => exact (by decide : "body" ≠ "html")
      | svg | mathml => exact (by decide : "" ≠ "html")
  · exact absurd helement List.not_mem_nil

end PostPress.Html
