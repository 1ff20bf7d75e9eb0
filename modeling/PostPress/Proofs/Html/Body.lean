import PostPress.Proofs.Html.Stack

/-!
# PostPress.Proofs.Html.Body

**What happens in a body keeps the parts of tables open.** Putting elements into the tree,
opening formatting elements again and closing them across blocks, and the tags of the body
itself: each keeps the open elements well nested, with the same parts
(`Builder.Stands`), except that a table is opened.

* `Builder.Stands.adopt` — closing a formatting element whose content reaches over the end
  of a block;
* `Builder.Stands.startInBody`, `Builder.Stands.endInBody` — the tags of a body.
-/

namespace PostPress.Html

open Builder (suppliedElements)

namespace Builder

variable {frame : Frame} {b : Builder}

/-! ### Putting nodes into the tree -/

theorem putAt_eq (b : Builder) (place : Place) (id : Nat) :
    b.putAt place id = { b with dom := (b.putAt place id).dom } := by
  unfold putAt
  split
  · rfl
  · split <;> rfl

theorem grows_putAt {id : Nat} (hid : b.dom.IsCommon id) (place : Place) :
    b.dom.Grows (b.putAt place id).dom := by
  unfold putAt
  split
  · exact Dom.grows_append _ hid
  · split
    · exact Dom.grows_insertBefore _ hid
    · exact Dom.grows_append _ hid

theorem insertText_eq (b : Builder) (chars : List Char) :
    b.insertText chars = { b with dom := (b.insertText chars).dom } := by
  unfold insertText
  split
  · rfl
  · split <;> rfl

theorem grows_insertText (b : Builder) (chars : List Char) :
    b.dom.Grows (b.insertText chars).dom := by
  unfold insertText
  split
  · exact Dom.grows_appendText _ _ _
  · split
    · exact Dom.grows_insertTextBefore _ _ _
    · exact Dom.grows_appendText _ _ _

theorem insertComment_eq (b : Builder) :
    b.insertComment = { b with dom := b.insertComment.dom } :=
  putAt_eq { b with dom := (b.dom.create .comment).2 } b.place _

theorem grows_insertComment (b : Builder) : b.dom.Grows b.insertComment.dom :=
  (Dom.grows_create b.dom .comment).trans
    (grows_putAt (b := { b with dom := (b.dom.create .comment).2 })
      (Dom.isCommon_create fun _ _ _ => nofun) _)

theorem insertClosed_eq (b : Builder) (space : Space) (name : String) (attrs : List Attribute) :
    (b.insertClosed space name attrs).2 =
      { b with dom := (b.insertClosed space name attrs).2.dom } :=
  putAt_eq { b with dom := (b.dom.createElement space name attrs).2 } b.place _

section

variable {name : String} (attrs : List Attribute)

/-- A new element that is not one of those that every document has. -/
theorem isCommon_createElement (dom : Dom) (hname : name ∉ suppliedElements) :
    (dom.createElement .html name attrs).2.IsCommon (dom.createElement .html name attrs).1 := by
  obtain ⟨hsize, htag⟩ := Dom.tag_createElement dom name attrs
  exact ⟨hsize, htag.symm ▸ hname⟩

theorem grows_insertClosed (b : Builder) (hname : name ∉ suppliedElements) :
    b.dom.Grows (b.insertClosed .html name attrs).2.dom :=
  (Dom.grows_createElement b.dom .html name attrs).trans
    (grows_putAt (b := { b with dom := (b.dom.createElement .html name attrs).2 })
      (isCommon_createElement attrs b.dom hname) _)

/-- A new element, as it is in the tree. -/
theorem tag_insertClosed (b : Builder) (hname : name ∉ suppliedElements) :
    (b.insertClosed .html name attrs).1 < (b.insertClosed .html name attrs).2.dom.nodes.size ∧
      (b.insertClosed .html name attrs).2.dom.tag (b.insertClosed .html name attrs).1 = name := by
  obtain ⟨hsize, htag⟩ := Dom.tag_createElement b.dom name attrs
  have hgrows := grows_putAt (b := { b with dom := (b.dom.createElement .html name attrs).2 })
    (isCommon_createElement attrs b.dom hname) b.place
  exact ⟨hsize.trans_le hgrows.size, (hgrows.tag hsize).trans htag⟩

end

theorem notMem_supplied {name : String} (h : name ∉ structuralTags) : name ∉ suppliedElements := by
  have hsupplied : ∀ name ∈ suppliedElements, name ∈ structuralTags := by decide
  exact fun hmem => h (hsupplied name hmem)

@[grind ←] theorem Stands.insertText (h : b.Stands frame) (chars : List Char) :
    (b.insertText chars).Stands frame :=
  insertText_eq b chars ▸ h.withDom (grows_insertText b chars)

@[grind ←] theorem Stands.insertComment (h : b.Stands frame) : b.insertComment.Stands frame :=
  insertComment_eq b ▸ h.withDom (grows_insertComment b)

section

variable {name : String} {attrs : List Attribute}

theorem Stands.insertClosed (h : b.Stands frame) (hname : name ∉ suppliedElements) :
    (b.insertClosed .html name attrs).2.Stands frame :=
  insertClosed_eq b .html name attrs ▸ h.withDom (grows_insertClosed attrs b hname)

theorem isInner_insertClosed (hname : name ∉ structuralTags) :
    (b.insertClosed .html name attrs).2.dom.IsInner (b.insertClosed .html name attrs).1 := by
  obtain ⟨hsize, htag⟩ := tag_insertClosed attrs b (notMem_supplied hname)
  exact ⟨hsize, htag.symm ▸ hname⟩

@[grind ←] theorem Stands.insertVoid (h : b.Stands frame) (hname : name ∉ structuralTags) :
    (b.insertVoid name attrs).Stands frame :=
  h.insertClosed (notMem_supplied hname)

@[grind ←] theorem Stands.insertNode (h : b.Stands frame) (hname : name ∉ structuralTags) :
    (b.insertNode name attrs).2.Stands frame :=
  (h.insertClosed (notMem_supplied hname)).pushOpen (isInner_insertClosed hname)

@[grind ←] theorem Stands.insert (h : b.Stands frame) (hname : name ∉ structuralTags) :
    (b.insert name attrs).Stands frame :=
  h.insertNode hname

end

/-! ### Formatting elements -/

/-- Opening formatting elements again. -/
theorem Stands.reopenAll (entries : List Formatting)
    (hentries : Listed (fun _ name _ => name ∉ structuralTags) entries) :
    ∀ (opened : List Formatting) (b : Builder), ListsInner b.dom opened → b.Stands frame →
      let result := reopenAll entries opened b
      ListsInner result.2.dom result.1 ∧ result.2.Stands frame ∧ b.dom.Grows result.2.dom := by
  induction entries with
  | nil => exact fun _ b hopened h => ⟨hopened, h, .refl b.dom⟩
  | cons entry rest ih =>
      intro opened b hopened h
      have hrest := ih (hentries.subset fun _ => List.mem_cons_of_mem _)
      cases entry with
      | marker => exact hrest opened b hopened h
      | element id name attrs =>
          have hname := hentries id name attrs List.mem_cons_self
          have hgrows := grows_insertClosed attrs b (notMem_supplied hname)
          have hnew : ListsInner (b.insertClosed .html name attrs).2.dom
              (.element (b.insertClosed .html name attrs).1 name attrs :: opened) :=
            (hopened.grows hgrows).cons ⟨isInner_insertClosed hname, hname⟩
          obtain ⟨hlists, hstands, hgrows'⟩ :=
            hrest _ (b.insertNode name attrs).2 hnew (h.insertNode hname)
          exact ⟨hlists, hstands, hgrows.trans hgrows'⟩

@[grind ←] theorem Stands.reopenFormatting (h : b.Stands frame) :
    b.reopenFormatting.Stands frame := by
  have hnames : Listed (fun _ name _ => name ∉ structuralTags)
      (b.formatting.takeWhile (!b.isReady ·)).reverse :=
    ((h.1.listed.mono fun _ _ _ => And.right).takeWhile _).subset fun _ => List.mem_reverse.1
  obtain ⟨hlists, hstands, hgrows⟩ := Stands.reopenAll _ hnames [] b .nil h
  exact hstands.withFormatting (hlists.append ((h.1.listed.grows hgrows).dropWhile _))

@[grind ←] theorem Stands.insertFormatting {name : String} {attrs : List Attribute}
    (h : b.Stands frame) (hname : name ∉ structuralTags) :
    (b.insertFormatting name attrs).Stands frame :=
  (h.insertNode hname).withFormatting
    ((h.insertNode hname).1.listed.pushFormatting ⟨isInner_insertClosed hname, hname⟩)

@[grind ←] theorem Stands.pushMarker (h : b.Stands frame) : b.pushMarker.Stands frame :=
  h.withFormatting h.1.listed.pushMarker

@[grind ←] theorem Stands.clearFormatting (h : b.Stands frame) : b.clearFormatting.Stands frame :=
  h.withFormatting h.1.listed.clearFormatting

@[grind ←] theorem Stands.removeFormatting (h : b.Stands frame) (node : Nat) :
    (b.removeFormatting node).Stands frame :=
  h.withFormatting (h.1.listed.removeFormatting node)

/-! ### Closing formatting elements -/

/-- What is known while the formatting elements between are copied: all that is kept open is
inner, and only the tree has changed. -/
structure Adopting (frame : Frame) (b : Builder) (a : Adoption) : Prop where
  /-- Elements are well nested. -/
  stands : a.builder.Stands frame
  /-- The tree has grown. -/
  grows : b.dom.Grows a.builder.dom
  /-- The same elements are open. -/
  stack : a.builder.stack = b.stack
  /-- The block, or a copy around it, is an inner element. -/
  last : a.builder.dom.IsInner a.last
  /-- So are the copies. -/
  kept : ∀ id ∈ a.kept, a.builder.dom.IsInner id

theorem isInner_createElement (dom : Dom) {name : String} (attrs : List Attribute)
    (hname : name ∉ structuralTags) :
    (dom.createElement .html name attrs).2.IsInner (dom.createElement .html name attrs).1 := by
  obtain ⟨hsize, htag⟩ := Dom.tag_createElement dom name attrs
  exact ⟨hsize, htag.symm ▸ hname⟩

theorem Adopting.adoptBetween (block : Nat) (between : List Nat) :
    ∀ (count : Nat) (a : Adoption), Adopting frame b a →
      Adopting frame b (adoptBetween block count between a) := by
  induction between with
  | nil => exact fun _ _ h => h
  | cons node rest ih =>
      intro count a h
      unfold Builder.adoptBetween
      dsimp only
      split
      · next id name attrs hfind =>
        obtain ⟨-, hname⟩ := h.stands.1.listed id name attrs (List.mem_of_find?_eq_some hfind)
        split
        · exact ih _ _ { h with stands := h.stands.removeFormatting node }
        · have hcopy := isInner_createElement a.builder.dom attrs hname
          have hcreate := Dom.grows_createElement a.builder.dom .html name attrs
          have hgrows := hcreate.trans (Dom.grows_append
            (a.builder.dom.createElement .html name attrs).1 (hcreate.isInner h.last).isCommon)
          have hinner := (Dom.grows_append (a.builder.dom.createElement .html name attrs).1
            (hcreate.isInner h.last).isCommon).isInner hcopy
          refine ih _ _ ⟨?_, h.grows.trans hgrows, h.stack, hinner, fun id hid => ?_⟩
          · exact (h.stands.withDom hgrows).withFormatting
              ((h.stands.1.listed.grows hgrows).replaceEntry ⟨hinner, hname⟩ node)
          · rcases List.mem_append.1 hid with hold | hnew
            · exact hgrows.isInner (h.kept id hold)
            · exact List.mem_singleton.1 hnew ▸ hinner
      · exact ih _ _ h

/-- The block, or what was put around it, is moved to its place: only the tree changes. -/
theorem Adopting.putLast {a : Adoption} (h : Adopting frame b a) (stack : List Nat)
    (place : Place) : ∃ dom, a.builder.dom.Grows dom ∧
      Builder.putAt { a.builder with dom := a.builder.dom.detach a.last, stack } place a.last =
        { a.builder with dom, stack } := by
  have hdetach := Dom.grows_detach a.builder.dom a.last
  refine ⟨_, hdetach.trans ?_, putAt_eq _ _ _⟩
  exact grows_putAt (b := { a.builder with dom := a.builder.dom.detach a.last, stack })
    (hdetach.isInner h.last).isCommon place

/-- The copy of a formatting element takes all that is in the block. -/
theorem grows_fillCopy {dom : Dom} {block copy : Nat} (hplaced : dom.Placed)
    (hblock : dom.IsInner block) (helement : dom.name? block ≠ none) (hcopy : dom.IsInner copy) :
    dom.Grows ((dom.moveChildren block copy).append block copy) := by
  have hmove := Dom.grows_moveChildren hplaced copy helement fun hhtml =>
    hblock.2 (hhtml ▸ by decide)
  exact hmove.trans (Dom.grows_append block (hmove.isInner hcopy).isCommon)

/-- What is around a formatting element stays open. -/
theorem Adopting.around {a : Adoption} {closed around : List Nat} (h : Adopting frame b a)
    (hstack : b.stack = closed ++ around) (hclosed : ∀ id ∈ closed, b.dom.IsInner id) :
    { a.builder with stack := around }.Stands frame :=
  h.stands.cut (h.stack.trans hstack) fun id hid => (h.grows.isInner (hclosed id hid)).2

/-- What is open after a formatting element was closed are inner elements: those inside of it
that are not in the block, and in it the new copy, the block and the copies between. -/
theorem Adopting.isInner_opened {a : Adoption} {inside : List Nat} {block copy : Nat} {dom : Dom}
    (h : Adopting frame b a) (hinside : ∀ id ∈ inside, b.dom.IsInner id) (hblock : block ∈ inside)
    (hgrows : a.builder.dom.Grows dom) (hcopy : dom.IsInner copy) :
    ∀ id ∈ inside.takeWhile (· ≠ block) ++ copy :: block :: a.kept, dom.IsInner id := by
  have hold : ∀ id ∈ inside, dom.IsInner id := fun id hid =>
    (h.grows.trans hgrows).isInner (hinside id hid)
  intro id hid
  rcases List.mem_append.1 hid with hupper | hid
  · exact hold id ((List.takeWhile_sublist _).subset hupper)
  · rcases List.mem_cons.1 hid with rfl | hid
    · exact hcopy
    · rcases List.mem_cons.1 hid with rfl | hid
      · exact hold id hblock
      · exact hgrows.isInner (h.kept id hid)

/-- A formatting element that is open, and what is open inside of it, are inner elements. -/
theorem Stands.isInner_of_stack {node : Nat} {inside around : List Nat} (h : b.Stands frame)
    (hstack : b.stack = inside ++ node :: around)
    (hinside : ∀ id ∈ inside, b.dom.tag id ∉ structuralTags)
    (hnode : b.dom.tag node ∉ structuralTags) : ∀ id ∈ inside ++ [node], b.dom.IsInner id := by
  intro id hid
  have hsplit : b.stack = (inside ++ [node]) ++ around := hstack.trans (List.append_cons ..)
  refine ⟨h.1.valid id (hsplit ▸ List.mem_append_left _ hid), ?_⟩
  rcases List.mem_append.1 hid with hid | hid
  · exact hinside id hid
  · exact List.mem_singleton.1 hid ▸ hnode

/-- **Closing a formatting element** whose content reaches over the end of a block. -/
theorem Stands.adopt {name : String} {attrs : List Attribute} {node block : Nat}
    {inside around : List Nat} (h : b.Stands frame) (hname : name ∉ structuralTags)
    (hstack : b.stack = inside ++ node :: around)
    (hinside : ∀ id ∈ inside, b.dom.tag id ∉ structuralTags)
    (hnode : b.dom.tag node ∉ structuralTags) (hblock : block ∈ inside)
    (hspecial : b.isSpecial block = true) :
    (b.adopt node name attrs inside around block).Stands frame := by
  have hsplit : b.stack = (inside ++ [node]) ++ around := hstack.trans (List.append_cons ..)
  have hclosed := h.isInner_of_stack hstack hinside hnode
  have hinner : ∀ id ∈ inside, b.dom.IsInner id := fun id hid =>
    hclosed id (List.mem_append_left _ hid)
  have helement : b.dom.name? block ≠ none := by
    intro hnone
    simp [Builder.isSpecial, isHtml, htmlName?, hnone] at hspecial
  unfold Builder.adopt
  dsimp only
  have hadopting : Adopting frame b (Builder.adoptBetween block 0
      ((inside.dropWhile (· ≠ block)).drop 1) ⟨b, block, .replace node, []⟩) :=
    Adopting.adoptBetween block _ 0 _
      ⟨h, .refl _, rfl, hinner block hblock, fun _ hmem => absurd hmem List.not_mem_nil⟩
  generalize Builder.adoptBetween block 0 ((inside.dropWhile (· ≠ block)).drop 1)
    ⟨b, block, .replace node, []⟩ = a at hadopting
  obtain ⟨dom, hput, hplace⟩ := hadopting.putLast
    (inside.takeWhile (· ≠ block) ++ block :: a.kept ++ node :: around)
    (Builder.placeIn _ (around.head?.getD Dom.document))
  rw [hplace]
  dsimp only
  have hcreated := hput.trans (Dom.grows_createElement dom .html name attrs)
  have hcopy := isInner_createElement dom attrs hname
  generalize (dom.createElement .html name attrs).1 = copy at hcopy ⊢
  generalize (dom.createElement .html name attrs).2 = created at hcreated hcopy ⊢
  have hgrown := hadopting.grows.trans hcreated
  have hfill : created.Grows ((created.moveChildren block copy).append block copy) := by
    refine grows_fillCopy (hcreated.placed hadopting.stands.1.placed)
      (hgrown.isInner (hinner block hblock)) ?_ hcopy
    rw [hgrown.name? block (hinner block hblock).1]
    exact helement
  generalize (created.moveChildren block copy).append block copy = filled at hfill ⊢
  have hfinal := hcreated.trans hfill
  have hopen := hadopting.isInner_opened hinner hblock hfinal (hfill.isInner hcopy)
  have hlists := hadopting.stands.1.listed.grows hfinal
  have hresult := ((hadopting.around hsplit hclosed).withDom hfinal).pushAll hopen
  simp only [List.append_assoc, List.cons_append] at hresult ⊢
  refine hresult.withFormatting ?_
  split
  · exact hlists.replaceEntry ⟨hfill.isInner hcopy, hname⟩ _
  · exact (hlists.insertAfterEntry ⟨hfill.isInner hcopy, hname⟩ _).subset
      List.eraseP_sublist.subset

theorem Stands.notMem_parts {name : String} (h : b.Stands frame) (hname : name ∉ structuralTags) :
    name ∉ frame.parts := by
  rw [← h.1.parts, mem_partsOf]
  exact fun hmem => hname hmem.2

theorem mem_dropWhile_ne {node : Nat} {stack : List Nat} (h : node ∈ stack) :
    stack.dropWhile (· ≠ node) = node :: (stack.dropWhile (· ≠ node)).drop 1 := by
  induction stack with
  | nil => exact absurd h List.not_mem_nil
  | cons id rest ih =>
      by_cases hid : id = node
      · rw [hid, List.dropWhile_cons_of_neg (by simp)]
        rfl
      · rw [List.dropWhile_cons_of_pos (by simp [hid])]
        exact ih ((List.mem_cons.1 h).resolve_left (Ne.symm hid))

theorem Stands.closeFormattingOnce {name : String} (h : b.Stands frame)
    (hname : name ∉ structuralTags) : (b.closeFormattingOnce name).1.Stands frame := by
  unfold Builder.closeFormattingOnce
  split
  · exact h.closeAny (h.notMem_parts hname)
  · next node attrs hfind =>
    obtain ⟨hnode, -⟩ := h.1.listed node name attrs (mem_of_findFormatting hfind)
    split
    · exact h.removeFormatting node
    · next hopen =>
      split
      · exact h
      · next hscope =>
        have hmem : node ∈ b.stack := by simpa using hopen
        have hfound : b.nodeInScope node = true := by simpa using hscope
        have habove := h.inner_of_searchScope (· == node) (b.endsScope [])
          (fun id hid => eq_of_beq hid ▸ hnode.2) (fun _ => endsScope_of_tag) hfound
        have hsame : (fun id => !(id == node)) = fun id => decide (id ≠ node) := by
          funext id
          simp [beq_eq_decide]
        rw [hsame] at habove
        have hstack : b.stack = b.stack.takeWhile (· ≠ node) ++
            node :: (b.stack.dropWhile (· ≠ node)).drop 1 := by
          rw [← mem_dropWhile_ne hmem]
          exact List.takeWhile_append_dropWhile.symm
        dsimp only [splitStack]
        split
        · refine Stands.removeFormatting (b := { b with stack := _ }) ?_ node
          refine h.cut (hstack.trans (List.append_cons ..)) fun id hid => ?_
          rcases List.mem_append.1 hid with hid | hid
          · exact habove id hid
          · exact List.mem_singleton.1 hid ▸ hnode.2
        · next block hblock =>
          exact h.adopt hname hstack habove hnode.2
            (List.mem_reverse.1 (List.mem_of_find?_eq_some hblock)) (List.find?_some hblock)

@[grind ←] theorem Stands.closeFormatting {name : String} (h : b.Stands frame)
    (hname : name ∉ structuralTags) : (b.closeFormatting name).Stands frame := by
  unfold Builder.closeFormatting
  split
  · exact h
  · next id rest hstack =>
    split
    · next hcurrent =>
      rw [Bool.and_eq_true] at hcurrent
      have htag := List.mem_singleton.1 (tag_mem_of_isHtml hcurrent.1)
      have hsplit : b.stack = [id] ++ rest := hstack
      exact h.cut hsplit fun other hother => List.mem_singleton.1 hother ▸ htag ▸ hname
    · exact closeFormattingRounds_keeps (fun _ h => h.closeFormattingOnce hname) 8 b h

/-! ### What does not matter -/

@[simp, grind =] theorem stands_noFrameset : b.noFrameset.Stands frame ↔ b.Stands frame := Iff.rfl

@[simp, grind =] theorem stands_dropNewline :
    { b with dropNewline := true, framesetOk := false }.Stands frame ↔ b.Stands frame := Iff.rfl

/-! ### Closing elements of the body -/

/-- Closing an element with all elements in it whose end need not be written. -/
theorem Stands.close {names but : List String} (h : b.Stands frame) (hclear : b.Clear names)
    (hnames : ∀ name ∈ names, name ∉ structuralTags)
    (hbut : ∀ name ∈ names, name ∈ impliedEnds → name ∈ but) :
    ((b.closeImplied but).popUntil names).Stands frame :=
  (h.closeImplied but).popUntil (hclear.closeImplied hbut) hnames

@[grind ←] theorem Stands.endParagraph (h : b.Stands frame) : b.endParagraph.Stands frame := by
  unfold Builder.endParagraph
  split
  · next hscope => exact h.close (h.clear_of_inButtonScope (by decide) hscope) (by decide) (by decide)
  · exact h

theorem Stands.endScoped {names : List String} (h : b.Stands frame)
    (hnames : ∀ name ∈ names, name ∉ structuralTags ∧ name ∉ impliedEnds) :
    (b.endScoped names).Stands frame := by
  have hinner : ∀ name ∈ names, name ∉ structuralTags := fun name hname => (hnames name hname).1
  unfold Builder.endScoped
  split
  · next hscope =>
    exact h.close (h.clear_of_inScope hinner hscope) hinner fun name hname himplied =>
      absurd himplied (hnames name hname).2
  · exact h

theorem Stands.popScoped {names : List String} (h : b.Stands frame)
    (hnames : ∀ name ∈ names, name ∉ structuralTags) :
    (if b.inScope names then b.popUntil names else b).Stands frame := by
  split
  · next hscope => exact h.popUntil (h.clear_of_inScope hnames hscope) hnames
  · exact h

theorem Stands.popCurrent {names : List String} (h : b.Stands frame)
    (hnames : ∀ name ∈ names, name ∉ structuralTags) :
    (if b.currentIs names then b.pop else b).Stands frame := by
  split
  · next hcurrent =>
    obtain ⟨id, rest, hstack, htag⟩ := exists_of_currentIs hcurrent
    have hsplit : b.stack = [id] ++ b.stack.drop 1 := by rw [hstack]; rfl
    exact h.cut hsplit fun other hother => List.mem_singleton.1 hother ▸ hnames _ htag
  · exact h

theorem Stands.endItem {names : List String} (h : b.Stands frame)
    (hnames : ∀ name ∈ names, name ∉ structuralTags) : (b.endItem names).Stands frame := by
  unfold Builder.endItem
  dsimp only
  split
  · exact h
  · next id hfind =>
    split
    · next name hhtml =>
      split
      · next hmem =>
        have hname : name ∈ names := List.contains_iff_mem.1 hmem
        have hid : b.isHtml [name] id = true := by
          rw [isHtml, hhtml]
          exact List.contains_iff_mem.2 List.mem_cons_self
        obtain ⟨-, above, rest, hstack, habove⟩ := List.find?_eq_some_iff_append.1 hfind
        have hclear : b.Clear [name] := by
          intro other hother hstructural
          rw [hstack] at hother
          have hfar := habove other (takeWhile_subset_of_append (by simp [hid]) above rest hother)
          -- A structural element would be a barrier.
          have hblock : b.isHtml ["address", "div", "p"] other = false := by
            refine eq_false_of_ne_true fun hblock => ?_
            have hall : ∀ name ∈ ["address", "div", "p"], name ∉ structuralTags := by decide
            exact hall _ (tag_mem_of_isHtml hblock) hstructural
          simp [isSpecial_of_tag hstructural, hblock] at hfar
        refine h.close hclear (fun other hother => ?_) fun other hother _ => hother
        exact List.mem_singleton.1 hother ▸ hnames name hname
      · exact h
    · exact h

theorem clear_insert {name : String} {attrs : List Attribute} (hname : name ∉ structuralTags)
    (hempty : name ≠ "") : (b.insert name attrs).Clear [name] := by
  have htag := (tag_insertClosed attrs b (notMem_supplied hname)).2
  have hcurrent : (b.insert name attrs).isHtml [name] (b.insertClosed .html name attrs).1 = true :=
    isHtml_of_tag_mem (b := b.insert name attrs) (List.mem_singleton.2 htag)
      fun h => hempty (htag.symm.trans h)
  intro id hid
  have hstack : (b.insert name attrs).stack = (b.insertClosed .html name attrs).1 ::
      (b.insertClosed .html name attrs).2.stack := rfl
  rw [hstack, List.takeWhile_cons_of_neg (by rw [hcurrent]; decide)] at hid
  exact absurd hid List.not_mem_nil

/-! ### Tags of the body -/

@[grind ←] theorem Stands.mergeHtml (h : b.Stands frame) (attrs : List Attribute) :
    (b.mergeHtml attrs).Stands frame := by
  unfold Builder.mergeHtml
  split
  · exact h
  · split
    · exact h.withDom (Dom.grows_addMissing _ _ _)
    · exact h

@[grind ←] theorem Stands.mergeBody (h : b.Stands frame) (attrs : List Attribute) :
    (b.mergeBody attrs).Stands frame := by
  unfold Builder.mergeBody
  split
  · split
    · exact h
    · exact h.withDom (Dom.grows_addMissing _ _ _)
  · exact h

theorem Stands.withForm {id : Nat} (h : b.Stands frame) (hid : b.dom.IsInner id) :
    { b with form := some id }.Stands frame :=
  ⟨{ h.1 with form := fun _ heq => Option.some.inj heq ▸ hid }, h.2⟩

@[grind ←] theorem Stands.startForm (h : b.Stands frame) (attrs : List Attribute) :
    (b.startForm attrs).Stands frame := by
  have hform : "form" ∉ structuralTags := by decide
  have hinsert : (b.endParagraph.insertNode "form" attrs).2.Stands frame :=
    h.endParagraph.insertNode hform
  unfold Builder.startForm
  dsimp only
  split
  · exact h
  · split
    · exact hinsert
    · exact hinsert.withForm (isInner_insertClosed (b := b.endParagraph) hform)

@[grind ←] theorem Stands.startLink (h : b.Stands frame) (attrs : List Attribute) :
    (b.startLink attrs).Stands frame := by
  have hlink : "a" ∉ structuralTags := by decide
  have hclosed : ∀ node attrs, b.findFormatting "a" = some (node, attrs) →
      (((b.closeFormatting "a").removeFormatting node).removeOpen node).Stands frame := by
    intro node attrs hfind
    have hnode := (h.1.listed node "a" attrs (mem_of_findFormatting hfind)).1
    -- The link keeps its name while it is closed.
    have hclosed : (b.closeFormatting "a").Stands { frame with dom := b.dom } :=
      Stands.closeFormatting ⟨h.1, .refl b.dom, h.2.2⟩ hlink
    refine Stands.removeOpen ((h.closeFormatting hlink).removeFormatting node) ?_
    exact (hclosed.2.1.isInner hnode).2
  unfold Builder.startLink
  dsimp only
  split
  · next node attrs hfind => exact (hclosed node attrs hfind).reopenFormatting.insertFormatting hlink
  · exact h.reopenFormatting.insertFormatting hlink

@[grind ←] theorem Stands.startSelect (h : b.Stands frame) (attrs : List Attribute) :
    (b.startSelect attrs).Stands frame := by
  unfold Builder.startSelect
  split
  · next hscope => exact h.popUntil (h.clear_of_inScope (by decide) hscope) (by decide)
  · exact h.reopenFormatting.insert (by decide)

@[grind ←] theorem Stands.beforeChoice (h : b.Stands frame) (kept : List String) :
    (b.beforeChoice kept).Stands frame := by
  unfold Builder.beforeChoice
  split
  · exact h.closeImplied kept
  · exact h.popCurrent (by decide)

@[grind ←] theorem Stands.startInput (h : b.Stands frame) (attrs : List Attribute) :
    (b.startInput attrs).Stands frame := by
  have hinput : "input" ∉ structuralTags := by decide
  have hclosed : (if b.inScope ["select"] then b.popUntil ["select"] else b).Stands frame :=
    h.popScoped (by decide)
  unfold Builder.startInput
  dsimp only
  split
  · exact hclosed.reopenFormatting.insertVoid hinput
  · exact hclosed.reopenFormatting.insertVoid hinput

@[grind ←] theorem Stands.startRule (h : b.Stands frame) (attrs : List Attribute) :
    (b.startRule attrs).Stands frame := by
  have hrule : "hr" ∉ structuralTags := by decide
  unfold Builder.startRule
  dsimp only
  split
  · exact (h.endParagraph.closeImplied []).insertVoid hrule
  · exact h.endParagraph.insertVoid hrule

@[grind ←] theorem Stands.startButton (h : b.Stands frame) (attrs : List Attribute) :
    (b.startButton attrs).Stands frame := by
  have hbutton : "button" ∉ structuralTags := by decide
  unfold Builder.startButton
  dsimp only
  split
  · next hscope =>
    have hclosed : ((b.closeImplied []).popUntil ["button"]).Stands frame :=
      h.close (h.clear_of_inScope (by decide) hscope) (by decide) (by decide)
    exact hclosed.reopenFormatting.insert hbutton
  · exact h.reopenFormatting.insert hbutton

@[grind ←] theorem Stands.endForm (h : b.Stands frame) : b.endForm.Stands frame := by
  have hwithout : { b with form := none }.Stands frame := ⟨{ h.1 with form := nofun }, h.2⟩
  have htemplate : b.isOpen "template" = false := h.not_isOpen (by decide)
  unfold Builder.endForm
  rw [htemplate]
  dsimp only
  rw [if_neg Bool.false_ne_true]
  split
  · exact h
  · next form heq =>
    split
    · exact (hwithout.closeImplied []).removeOpen (h.1.form form heq).2
    · exact hwithout

theorem Stands.startInHead {name : String} {attrs : List Attribute} (h : b.Stands frame)
    (hname : name ∉ unusualTags) (hinner : name ∉ structuralTags) :
    (b.startInHead name attrs).Stands frame := by
  unfold Builder.startInHead
  split
  · exact absurd (by decide) hname
  · exact absurd (by decide) hname
  · exact absurd (by decide) hname
  · exact absurd (by decide) hname
  · exact absurd (by decide) hname
  · exact absurd (by decide) hname
  · exact h.insertVoid hinner

theorem startInBody_misplaced {name : String} (hname : name ∈ misplacedTags)
    (attrs : List Attribute) (selfClosing : Bool) : b.startInBody name attrs selfClosing = b := by
  have hother : ∀ name ∈ misplacedTags, headTags.contains name = false ∧
      blockTags.contains name = false ∧ headingTags.contains name = false ∧
      formattingTags.contains name = false := by decide
  obtain ⟨hhead, hblock, hheading, hformatting⟩ := hother name hname
  unfold Builder.startInBody
  rw [hhead, hblock, hheading, hformatting, List.contains_iff_mem.2 hname]
  rfl

/-- **The start tags of a body** that open no table. -/
theorem Stands.startInBody {name : String} {attrs : List Attribute} (h : b.Stands frame)
    (hname : name ∉ unusualTags) (htable : name ≠ "table") (selfClosing : Bool) :
    (b.startInBody name attrs selfClosing).Stands frame := by
  by_cases hstructural : name ∈ structuralTags
  · have hcases : ∀ name ∈ structuralTags, name = "html" ∨ name = "body" ∨ name = "table" ∨
        name ∈ misplacedTags ∨ name ∈ unusualTags := by decide
    rcases hcases name hstructural with rfl | rfl | rfl | hmisplaced | hunusual
    · exact h.mergeHtml attrs
    · exact h.mergeBody attrs
    · exact absurd rfl htable
    · exact startInBody_misplaced hmisplaced attrs selfClosing ▸ h
    · exact absurd hunusual hname
  · have hrelaxed : b.noFrameset.Stands frame := h
    have hitem : (b.noFrameset.endItem ["li"]).Stands frame := hrelaxed.endItem (by decide)
    have hterm : (b.noFrameset.endItem ["dd", "dt"]).Stands frame := hrelaxed.endItem (by decide)
    have himage : "img" ∉ structuralTags := by decide
    have hruby : ∀ kept, (if b.inScope ["ruby"] then b.closeImplied kept else b).Stands frame := by
      intro kept
      split
      · exact h.closeImplied kept
      · exact h
    unfold Builder.startInBody
    split
    · exact h.startInHead hname hstructural
    · split
      · exact h.endParagraph.insert hstructural
      · split
        · refine Stands.insert (h.endParagraph.popCurrent (by decide)) hstructural
        · split
          · exact h.reopenFormatting.insertFormatting hstructural
          · split
            · exact h
            · split
              -- What asks for another way of reading is not here.
              all_goals try exact absurd (by decide) hname
              all_goals grind

/-- Closing an element of its own name in some scope. -/
theorem Stands.closeNamed {name : String} {scope : Bool} (h : b.Stands frame)
    (hscope : scope = true → b.Clear [name]) (hname : name ∉ structuralTags) :
    (if scope then (b.closeImplied [name]).popUntil [name] else b).Stands frame := by
  split
  · next hin =>
    exact h.close (hscope hin) (fun other hother => List.mem_singleton.1 hother ▸ hname)
      fun _ hother _ => hother
  · exact h

/-- With an object the formatting in it ends. -/
theorem Stands.endObject {names : List String} (h : b.Stands frame)
    (hnames : ∀ name ∈ names, name ∉ structuralTags ∧ name ∉ impliedEnds) :
    (if b.inScope names then ((b.closeImplied []).popUntil names).clearFormatting
      else b).Stands frame := by
  have hclosed : (b.endScoped names).Stands frame := h.endScoped hnames
  unfold Builder.endScoped at hclosed
  split
  · next hscope =>
    rw [if_pos hscope] at hclosed
    exact hclosed.clearFormatting
  · exact h

/-- The end tag of a paragraph closes one, which is opened before if there is none. -/
theorem Stands.closeOpenedParagraph (h : b.Stands frame) :
    (if b.inButtonScope ["p"] then b else b.insert "p" []).closeParagraph.Stands frame := by
  have hp : "p" ∉ structuralTags := by decide
  split
  · next hscope => exact h.close (h.clear_of_inButtonScope (by decide) hscope) (by decide) (by decide)
  · exact (h.insert hp).close (clear_insert hp (by decide)) (by decide) (by decide)

/-- **The end tags of a body** that close no part of a table. -/
theorem Stands.endInBody {name : String} (h : b.Stands frame) (hname : name ∉ unusualTags)
    (hparts : name ∉ frame.parts) : (b.endInBody name).Stands frame := by
  have hblocks : ∀ name ∈ endedBlocks, name ∉ structuralTags ∧ name ∉ impliedEnds := by decide
  have hformatting : ∀ name ∈ formattingTags, name ∉ structuralTags := by decide
  have hlink : "a" ∉ structuralTags ∧ "nobr" ∉ structuralTags := by decide
  unfold Builder.endInBody
  split
  · next hended =>
    exact h.endScoped fun other hother =>
      List.mem_singleton.1 hother ▸ hblocks name (List.contains_iff_mem.1 hended)
  · split
    · split
      · next hscope =>
        exact h.close (h.clear_of_inScope (by decide) hscope) (by decide) (by decide)
      · exact h
    · split
      · next hformat =>
        refine h.closeFormatting ?_
        grind
      · split
        · exact absurd (by decide) hname
        · exact h.endForm
        · exact h.closeOpenedParagraph
        · exact h.closeNamed (h.clear_of_inListScope (by decide)) (by decide)
        · exact h.closeNamed (h.clear_of_inScope (by decide)) (by decide)
        · exact h.closeNamed (h.clear_of_inScope (by decide)) (by decide)
        · exact h.endObject (by decide)
        · exact h.endObject (by decide)
        · exact h.endObject (by decide)
        · exact h.reopenFormatting.insertVoid (by decide)
        · exact h.closeAny hparts

/-- A form in a table stays empty. -/
theorem Stands.startTableForm {attrs : List Attribute} (h : b.Stands frame) :
    (b.startTableForm attrs).Stands frame := by
  have hform : "form" ∉ structuralTags := by decide
  unfold Builder.startTableForm
  split
  · exact h
  · exact (h.insertClosed (notMem_supplied hform)).withForm (isInner_insertClosed hform)

/-! ### Parts of tables -/

theorem Stands.goTo (h : b.Stands frame) (mode : Mode) :
    (b.goTo mode).Stands { frame with mode } :=
  ⟨h.1, h.2.1, rfl, h.2.2.2⟩

/-- Opening an element changes the tree and the stack. -/
theorem insert_eq (name : String) (attrs : List Attribute) :
    b.insert name attrs =
      { b with
        dom := (b.insert name attrs).dom
        stack := (b.insertClosed .html name attrs).1 :: b.stack } := by
  have hinsert : b.insert name attrs =
      (b.insertClosed .html name attrs).2.pushOpen (b.insertClosed .html name attrs).1 := rfl
  rw [hinsert, insertClosed_eq]
  rfl

theorem map_tag_insert {name : String} {attrs : List Attribute}
    (hvalid : ∀ id ∈ b.stack, id < b.dom.nodes.size)
    (hput : (b.dom.createElement .html name attrs).2.Grows (b.insert name attrs).dom) :
    (∀ id ∈ (b.insert name attrs).stack, id < (b.insert name attrs).dom.nodes.size) ∧
      (b.insert name attrs).stack.map (b.insert name attrs).dom.tag =
        name :: b.stack.map b.dom.tag := by
  obtain ⟨hsize, htag⟩ := Dom.tag_createElement b.dom name attrs
  have hgrows := (Dom.grows_createElement b.dom .html name attrs).trans hput
  have hstack := congrArg Builder.stack (insert_eq (b := b) name attrs)
  rw [hstack, List.map_cons, hgrows.map_tag hvalid, List.forall_mem_cons]
  refine ⟨⟨hsize.trans_le hput.size, fun id hid => (hvalid id hid).trans_le hgrows.size⟩, ?_⟩
  exact congrArg (· :: b.stack.map b.dom.tag) ((hput.tag hsize).trans htag)

/-- Opening a part of a table. -/
theorem Stands.openPart {name : String} {attrs : List Attribute} (h : b.Stands frame)
    (hname : name ∉ suppliedElements) (hpart : name ∈ structuralTags)
    (hnested : WellNested (name :: b.stack.map b.dom.tag)) :
    (b.insert name attrs).Stands { frame with parts := name :: frame.parts } := by
  have hclosed : (b.insertClosed .html name attrs).2.Stands frame := h.insertClosed hname
  obtain ⟨hvalid, htags⟩ := map_tag_insert h.1.valid
    (grows_putAt (b := { b with dom := (b.dom.createElement .html name attrs).2 })
      (isCommon_createElement attrs b.dom hname) b.place)
  refine ⟨{ hclosed.1 with valid := hvalid, nested := htags ▸ hnested, parts := ?_ }, hclosed.2⟩
  rw [htags, partsOf, List.filter_cons_of_pos (by simpa using hpart)]
  exact congrArg (name :: ·) h.1.parts

/-- **A table** in a body. -/
theorem Stands.startTable {attrs : List Attribute} (h : b.Stands frame) (selfClosing : Bool) :
    (b.startInBody "table" attrs selfClosing).Stands
      { frame with mode := .inTable, parts := "table" :: frame.parts } := by
  have hopen : ∀ b' : Builder, b'.Stands frame →
      ((b'.insert "table" attrs).noFrameset.goTo .inTable).Stands
        { frame with mode := .inTable, parts := "table" :: frame.parts } := fun b' h' =>
    (h'.openPart (by decide) (by decide) (.table rfl h'.1.nested)).goTo .inTable
  exact hopen (if b.tableInParagraph then b else b.endParagraph) (by grind)

end Builder

end PostPress.Html
