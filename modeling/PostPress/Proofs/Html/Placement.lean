import Mathlib.Order.Nat
import Mathlib.Tactic.ByContra
import PostPress.Proofs.Html.Construction

/-!
# PostPress.Proofs.Html.Placement

**Where the parts of a document are.** The elements that every document has, `html`, `head`
and `body`, are nowhere but in the document and in its `html` element (`Dom.Placed`), so
none of them is in the body.

* `Dom.Grows` — a change of a tree under construction that keeps all names, and with them
  the places of these elements; one lemma for each operation;
* `Dom.Placed.common_childrenToMarkup` — what is in the body of a finished tree.
-/

namespace PostPress.Html

open Builder (suppliedElements)

namespace Dom

variable {dom : Dom}

/-- The name of an HTML element; empty for other nodes. -/
def tag (dom : Dom) (id : Nat) : String :=
  match dom.name? id with
  | some (.html, name) => name
  | _ => ""

/-- All children are nodes, and elements that every document has are only in the document
and in its `html` element. -/
def Placed (dom : Dom) : Prop :=
  ∀ parent, ∀ child ∈ (dom.node parent).children, child < dom.nodes.size ∧
    (dom.tag child ∈ suppliedElements → dom.name? parent = none ∨ dom.tag parent = "html")

/-- A change of a tree that keeps the names of all nodes. -/
structure Grows (dom dom' : Dom) : Prop where
  /-- No node is lost. -/
  size : dom.nodes.size ≤ dom'.nodes.size
  /-- All nodes have the names that they had. -/
  name? : ∀ id < dom.nodes.size, dom'.name? id = dom.name? id
  /-- What is put into them goes where it went. -/
  contentOf : ∀ id < dom.nodes.size, dom'.contentOf id = dom.contentOf id
  /-- The parts of the document stay where they are. -/
  placed : dom.Placed → dom'.Placed

/-- A node that is not one of the parts that every document has. -/
def IsCommon (dom : Dom) (id : Nat) : Prop :=
  id < dom.nodes.size ∧ dom.tag id ∉ suppliedElements

/-- Whether a node may be put into another one. -/
def MayHold (dom : Dom) (parent child : Nat) : Prop :=
  child < dom.nodes.size ∧ (dom.tag child ∈ suppliedElements →
    parent < dom.nodes.size ∧ (dom.name? parent = none ∨ dom.tag parent = "html"))

theorem IsCommon.mayHold {id : Nat} (h : dom.IsCommon id) (parent : Nat) :
    dom.MayHold parent id :=
  ⟨h.1, fun hsupplied => absurd hsupplied h.2⟩

theorem Grows.refl (dom : Dom) : dom.Grows dom :=
  ⟨le_refl _, fun _ _ => rfl, fun _ _ => rfl, id⟩

theorem Grows.trans {dom₁ dom₂ dom₃ : Dom} (h : dom₁.Grows dom₂) (h' : dom₂.Grows dom₃) :
    dom₁.Grows dom₃ :=
  ⟨h.size.trans h'.size,
    fun id hid => (h'.name? id (hid.trans_le h.size)).trans (h.name? id hid),
    fun id hid => (h'.contentOf id (hid.trans_le h.size)).trans (h.contentOf id hid),
    fun hplaced => h'.placed (h.placed hplaced)⟩

theorem Grows.tag {dom' : Dom} (h : dom.Grows dom') {id : Nat} (hid : id < dom.nodes.size) :
    dom'.tag id = dom.tag id := by
  rw [Dom.tag, Dom.tag, h.name? id hid]

theorem Grows.isCommon {dom' : Dom} (h : dom.Grows dom') {id : Nat} (hid : dom.IsCommon id) :
    dom'.IsCommon id :=
  ⟨hid.1.trans_le h.size, h.tag hid.1 ▸ hid.2⟩

theorem Grows.mayHold {dom' : Dom} (h : dom.Grows dom') {parent child : Nat}
    (hhold : dom.MayHold parent child) : dom'.MayHold parent child := by
  refine ⟨hhold.1.trans_le h.size, fun hsupplied => ?_⟩
  obtain ⟨hparent, hplace⟩ := hhold.2 (h.tag hhold.1 ▸ hsupplied)
  rw [h.name? parent hparent, h.tag hparent]
  exact ⟨hparent.trans_le h.size, hplace⟩

/-- A node that has children is one. -/
theorem lt_size_of_mem_children {id child : Nat} (h : child ∈ (dom.node id).children) :
    id < dom.nodes.size := by
  by_contra hid
  have hnode : dom.node id = ⟨.comment, none, []⟩ := by
    unfold node
    rw [Array.getD_eq_getD_getElem?, Array.getElem?_eq_none (not_lt.1 hid)]
    rfl
  rw [hnode] at h
  exact absurd h List.not_mem_nil

/-- What has only such children more as it may have keeps all parts of the document in their
places. -/
theorem grows_of_children {dom' : Dom} (hsize : dom.nodes.size ≤ dom'.nodes.size)
    (hname : ∀ id < dom.nodes.size, dom'.name? id = dom.name? id)
    (hcontent : ∀ id < dom.nodes.size, dom'.contentOf id = dom.contentOf id)
    (hchildren : ∀ parent, ∀ child ∈ (dom'.node parent).children,
      child ∈ (dom.node parent).children ∨ dom.MayHold parent child) : dom.Grows dom' := by
  have htag : ∀ id < dom.nodes.size, dom'.tag id = dom.tag id := fun id hid => by
    rw [tag, tag, hname id hid]
  refine ⟨hsize, hname, hcontent, fun hplaced parent child hchild => ?_⟩
  rcases hchildren parent child hchild with hold | hnew
  · obtain ⟨hvalid, hpart⟩ := hplaced parent child hold
    have hparent := lt_size_of_mem_children hold
    refine ⟨hvalid.trans_le hsize, fun hsupplied => ?_⟩
    rw [hname parent hparent, htag parent hparent]
    exact hpart (htag child hvalid ▸ hsupplied)
  · refine ⟨hnew.1.trans_le hsize, fun hsupplied => ?_⟩
    obtain ⟨hparent, hplace⟩ := hnew.2 (htag child hnew.1 ▸ hsupplied)
    rw [hname parent hparent, htag parent hparent]
    exact hplace

/-! ### The operations -/

theorem size_modify (dom : Dom) (id : Nat) (f : DomNode → DomNode) :
    (dom.modify id f).nodes.size = dom.nodes.size :=
  Array.size_modify ..

theorem grows_modify {id : Nat} {f : DomNode → DomNode}
    (hname : (dom.modify id f).name? id = dom.name? id)
    (hcontent : (dom.modify id f).contentOf id = dom.contentOf id)
    (hchildren : ∀ child ∈ (f (dom.node id)).children,
      child ∈ (dom.node id).children ∨ dom.MayHold id child) : dom.Grows (dom.modify id f) := by
  have hother : ∀ other, other ≠ id → (dom.modify id f).node other = dom.node other :=
    fun other hother => by rw [node_modify, if_neg fun h => hother h.1]
  refine grows_of_children (size_modify dom id f).ge (fun other _ => ?_) (fun other _ => ?_)
    fun parent child h => ?_
  · by_cases heq : other = id
    · rw [heq, hname]
    · rw [name?, name?, hother other heq]
  · by_cases heq : other = id
    · rw [heq, hcontent]
    · rw [Dom.contentOf, Dom.contentOf, hother other heq]
  · rw [node_modify] at h
    split at h
    · next hparent => exact hparent.1 ▸ hchildren child (hparent.1 ▸ h)
    · exact .inl h

/-- A node that only has other children. -/
theorem grows_setChildren {id : Nat} {f : DomNode → DomNode}
    (hkind : ∀ node, (f node).kind = node.kind)
    (hchildren : ∀ child ∈ (f (dom.node id)).children,
      child ∈ (dom.node id).children ∨ dom.MayHold id child) : dom.Grows (dom.modify id f) := by
  refine grows_modify ?_ ?_ hchildren
  · rw [name?, name?, kind_modify hkind]
  · rw [Dom.contentOf, Dom.contentOf, kind_modify hkind]

theorem grows_setParent (dom : Dom) (id : Nat) (parent : Option Nat) :
    dom.Grows (dom.modify id fun node => { node with parent }) :=
  grows_setChildren (fun _ => rfl) fun _ h => .inl h

theorem grows_create (dom : Dom) (kind : DomKind) : dom.Grows (dom.create kind).2 := by
  have hsize : (dom.create kind).2.nodes.size = dom.nodes.size + 1 := Array.size_push ..
  refine grows_of_children (by omega) (fun id hid => ?_) (fun id hid => ?_) fun parent child h => ?_
  · rw [name?, name?, node_create, if_neg hid.ne]
  · rw [Dom.contentOf, Dom.contentOf, node_create, if_neg hid.ne]
  · rw [node_create] at h
    split at h
    · exact absurd h List.not_mem_nil
    · exact .inl h

theorem isCommon_create {kind : DomKind}
    (hkind : ∀ name attrs content, kind = .element .html name attrs content →
      name ∉ suppliedElements) : (dom.create kind).2.IsCommon (dom.create kind).1 := by
  have hsize : (dom.create kind).2.nodes.size = dom.nodes.size + 1 := Array.size_push ..
  have hnode : (dom.create kind).2.node (dom.create kind).1 = ⟨kind, none, []⟩ := by
    rw [node_create]
    exact if_pos rfl
  refine ⟨by rw [hsize]; exact Nat.lt_succ_self _, ?_⟩
  unfold tag name?
  rw [hnode]
  cases kind with
  | fragment | text | comment => exact (by decide : "" ∉ suppliedElements)
  | element space name attrs content =>
      cases space with
      | html => exact hkind name attrs content rfl
      | svg | mathml => exact (by decide : "" ∉ suppliedElements)

theorem grows_createElement (dom : Dom) (space : Space) (name : String) (attrs : List Attribute) :
    dom.Grows (dom.createElement space name attrs).2 := by
  unfold createElement
  split
  · exact (grows_create dom _).trans (grows_create _ _)
  · exact grows_create dom _

/-- A new element has the name that it is made with. -/
theorem tag_createElement (dom : Dom) (name : String) (attrs : List Attribute) :
    (dom.createElement .html name attrs).1 < (dom.createElement .html name attrs).2.nodes.size ∧
      (dom.createElement .html name attrs).2.tag (dom.createElement .html name attrs).1 =
        name := by
  have hcreate : ∀ (dom : Dom) content,
      (dom.create (.element .html name attrs content)).1 <
          (dom.create (.element .html name attrs content)).2.nodes.size ∧
        (dom.create (.element .html name attrs content)).2.tag
          (dom.create (.element .html name attrs content)).1 = name := by
    intro dom content
    have hsize : (dom.create (.element .html name attrs content)).2.nodes.size =
        dom.nodes.size + 1 := Array.size_push ..
    refine ⟨by rw [hsize]; exact Nat.lt_succ_self _, ?_⟩
    unfold tag name?
    rw [node_create, if_pos (show (dom.create _).1 = dom.nodes.size from rfl)]
  unfold createElement
  split
  · exact hcreate _ _
  · exact hcreate _ _

/-- A new element holds what is put into it, unless it is a template. -/
theorem contentOf_createElement {name : String} (dom : Dom) (attrs : List Attribute)
    (hname : name ≠ "template") :
    (dom.createElement .html name attrs).2.contentOf (dom.createElement .html name attrs).1 =
      (dom.createElement .html name attrs).1 := by
  have hcreate : dom.createElement .html name attrs =
      dom.create (.element .html name attrs none) := by
    unfold createElement
    exact if_neg (by simp [hname])
  rw [hcreate]
  unfold Dom.contentOf
  rw [node_create, if_pos (show (dom.create _).1 = dom.nodes.size from rfl)]

/-- A node that only has other characters or other attributes. -/
theorem grows_setKind {id : Nat} {f : DomNode → DomNode}
    (hchildren : ∀ node, (f node).children = node.children)
    (hkind : ∀ node, (f node).kind = node.kind ∨
      (∃ chars chars', node.kind = .text chars ∧ (f node).kind = .text chars') ∨
      ∃ space name attrs attrs' content, node.kind = .element space name attrs content ∧
        (f node).kind = .element space name attrs' content) : dom.Grows (dom.modify id f) := by
  have hsame : (dom.modify id f).name? id = dom.name? id ∧
      (dom.modify id f).contentOf id = dom.contentOf id := by
    unfold name? Dom.contentOf
    rw [node_modify]
    by_cases hid : id < dom.nodes.size
    · rw [if_pos ⟨rfl, hid⟩]
      rcases hkind (dom.node id) with heq | ⟨_, _, hold, hnew⟩ | ⟨_, _, _, _, content, hold, hnew⟩
      · rw [heq]
        exact ⟨rfl, rfl⟩
      · rw [hold, hnew]
        exact ⟨rfl, rfl⟩
      · rw [hold, hnew]
        cases content with
        | none => exact ⟨rfl, rfl⟩
        | some content => exact ⟨rfl, rfl⟩
    · rw [if_neg fun h => hid h.2]
      exact ⟨rfl, rfl⟩
  exact grows_modify hsame.1 hsame.2 fun child h => .inl (hchildren _ ▸ h)

theorem grows_addMissing (dom : Dom) (id : Nat) (attrs : List Attribute) :
    dom.Grows (dom.addMissing id attrs) := by
  refine grows_setKind (fun node => ?_) fun node => ?_
  · split <;> rfl
  · split
    · next space name own content hkind =>
      exact .inr (.inr ⟨space, name, own, _, content, hkind, rfl⟩)
    · exact .inl rfl

theorem grows_extendText (dom : Dom) (id : Nat) (chars : List Char) :
    dom.Grows (dom.extendText id chars) := by
  refine grows_setKind (fun node => ?_) fun node => ?_
  · split <;> rfl
  · split
    · next own hkind => exact .inr (.inl ⟨own, _, hkind, rfl⟩)
    · exact .inl rfl

theorem grows_detach (dom : Dom) (id : Nat) : dom.Grows (dom.detach id) := by
  unfold detach
  split
  · exact .refl dom
  · next parent _ =>
    have hout : dom.Grows
        (dom.modify parent fun p => { p with children := p.children.filter (· ≠ id) }) :=
      grows_setChildren (fun _ => rfl) fun child h => .inl (List.mem_filter.1 h).1
    exact hout.trans (grows_setParent _ id none)

/-- Putting a node into another one that may hold it. -/
theorem grows_appendPart {parent id : Nat} (hid : dom.MayHold parent id) :
    dom.Grows (dom.append parent id) := by
  have hdetached := grows_detach dom id
  have hin : (dom.detach id).Grows
      ((dom.detach id).modify parent fun p => { p with children := p.children ++ [id] }) := by
    refine grows_setChildren (fun _ => rfl) fun child h => ?_
    rcases List.mem_append.1 h with hold | hnew
    · exact .inl hold
    · exact .inr (List.mem_singleton.1 hnew ▸ hdetached.mayHold hid)
  exact (hdetached.trans hin).trans (grows_setParent _ id _)

theorem grows_append (parent : Nat) {id : Nat} (hid : dom.IsCommon id) :
    dom.Grows (dom.append parent id) :=
  grows_appendPart (hid.mayHold parent)

theorem mem_insertBeforeIn {sibling id child : Nat} {children : List Nat}
    (h : child ∈ insertBeforeIn sibling id children) : child ∈ children ∨ child = id := by
  induction children with
  | nil => exact absurd h List.not_mem_nil
  | cons c rest ih =>
      unfold insertBeforeIn at h
      split at h
      · exact (List.mem_cons.1 h).symm
      · rcases List.mem_cons.1 h with rfl | hrest
        · exact .inl List.mem_cons_self
        · exact (ih hrest).imp_left (List.mem_cons_of_mem _)

theorem grows_insertBefore (sibling : Nat) {id : Nat} (hid : dom.IsCommon id) :
    dom.Grows (dom.insertBefore sibling id) := by
  have hdetached := grows_detach dom id
  unfold insertBefore
  split
  · exact .refl dom
  · next parent _ =>
    have hin : (dom.detach id).Grows ((dom.detach id).modify parent fun p =>
        { p with children := insertBeforeIn sibling id p.children }) :=
      grows_setChildren (fun _ => rfl) fun child h => by
        rcases mem_insertBeforeIn h with hold | rfl
        · exact .inl hold
        · exact .inr ((hdetached.isCommon hid).mayHold parent)
    exact (hdetached.trans hin).trans (grows_setParent _ id _)

theorem isCommon_createText (dom : Dom) (chars : List Char) :
    (dom.create (.text chars)).2.IsCommon (dom.create (.text chars)).1 :=
  isCommon_create fun _ _ _ => nofun

theorem grows_appendText (dom : Dom) (parent : Nat) (chars : List Char) :
    dom.Grows (dom.appendText parent chars) := by
  have hnew := (grows_create dom (.text chars)).trans
    (grows_append parent (isCommon_createText dom chars))
  unfold appendText
  split
  · split
    · exact grows_extendText dom _ chars
    · exact hnew
  · exact hnew

theorem grows_insertTextBefore (dom : Dom) (sibling : Nat) (chars : List Char) :
    dom.Grows (dom.insertTextBefore sibling chars) := by
  have hnew := (grows_create dom (.text chars)).trans
    (grows_insertBefore sibling (isCommon_createText dom chars))
  unfold insertTextBefore
  split
  · exact .refl dom
  · split
    · split
      · exact grows_extendText dom _ chars
      · exact hnew
    · exact hnew

theorem isCommon_of_mem_children (hplaced : dom.Placed) {id child : Nat}
    (helement : dom.name? id ≠ none) (hhtml : dom.tag id ≠ "html")
    (hchild : child ∈ (dom.node id).children) : dom.IsCommon child :=
  ⟨(hplaced id child hchild).1, fun hsupplied =>
    ((hplaced id child hchild).2 hsupplied).elim helement hhtml⟩

/-- Children can be moved out of an element that is not the `html` element. -/
theorem grows_moveChildren (hplaced : dom.Placed) {source : Nat} (target : Nat)
    (helement : dom.name? source ≠ none) (hhtml : dom.tag source ≠ "html") :
    dom.Grows (dom.moveChildren source target) := by
  have hfold := List.foldlRecOn (motive := dom.Grows) (dom.node source).children
    (fun dom id => dom.modify id fun n => { n with parent := some target }) (.refl dom)
    fun parented h id _ => h.trans (grows_setParent parented id _)
  have hmoved : ∀ child ∈ (dom.node source).children, dom.IsCommon child :=
    fun child hchild => isCommon_of_mem_children hplaced helement hhtml hchild
  unfold moveChildren
  dsimp only
  generalize hset : (dom.node source).children.foldl _ dom = parented
  have hparented : dom.Grows parented := hset ▸ hfold
  have hout : parented.Grows (parented.modify source fun n => { n with children := [] }) :=
    grows_setChildren (fun _ => rfl) fun child h => absurd h List.not_mem_nil
  refine (hparented.trans hout).trans (grows_setChildren (fun _ => rfl) fun child h => ?_)
  rcases List.mem_append.1 h with hold | hnew
  · exact .inl hold
  · exact .inr (((hparented.trans hout).isCommon (hmoved child hnew)).mayHold target)

/-! ### The finished tree -/

theorem Placed.common_toMarkup (hplaced : dom.Placed)
    (hhtml : dom.All fun space _ _ => space = .html) (depth : Nat) :
    ∀ {id : Nat}, dom.IsCommon id → ∀ element ∈ Markup.elementsList (dom.toMarkup depth id),
      element.name ∉ suppliedElements := by
  induction depth with
  | zero => exact fun _ _ hmem => absurd hmem List.not_mem_nil
  | succ depth ih =>
      intro id hid element helement
      unfold toMarkup at helement
      split at helement
      · exact absurd helement List.not_mem_nil
      · exact absurd helement List.not_mem_nil
      · exact absurd helement List.not_mem_nil
      · next space name attrs content hkind =>
        obtain rfl := hhtml id space name attrs content hkind
        have hname : dom.name? id = some (.html, name) := by rw [name?, hkind]
        have htag : dom.tag id = name := by rw [tag, hname]
        rw [Markup.elementsList, Markup.elementsList, List.append_nil, Markup.elements,
          elementsList_flatMap, List.mem_cons, List.mem_flatMap] at helement
        rcases helement with rfl | ⟨child, hchild, hinside⟩
        · exact htag ▸ hid.2
        · refine ih (isCommon_of_mem_children hplaced ?_ ?_ hchild) element hinside
          · rw [hname]
            exact Option.some_ne_none _
          · rintro heq
            exact hid.2 (heq ▸ (by decide : "html" ∈ suppliedElements))

/-- **What is in an element other than `html`** is none of the parts of a document. -/
theorem Placed.common_childrenToMarkup (hplaced : dom.Placed)
    (hhtml : dom.All fun space _ _ => space = .html) {id : Nat} (helement : dom.name? id ≠ none)
    (hother : dom.tag id ≠ "html") :
    ∀ element ∈ Markup.elementsList (dom.childrenToMarkup id),
      element.name ∉ suppliedElements := by
  intro element hmem
  rw [childrenToMarkup, elementsList_flatMap, List.mem_flatMap] at hmem
  obtain ⟨child, hchild, hinside⟩ := hmem
  exact hplaced.common_toMarkup hhtml _ (isCommon_of_mem_children hplaced helement hother hchild)
    element hinside

end Dom

end PostPress.Html
