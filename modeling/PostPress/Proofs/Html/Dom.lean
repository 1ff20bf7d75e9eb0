import PostPress.Html.Dom
import PostPress.Proofs.Html.Element

/-!
# PostPress.Proofs.Html.Dom

**The elements of a tree under construction.** Moving nodes changes no element, so what
holds of all elements goes on to hold (`Dom.All`); only new elements count, and added
attributes. A finished tree has no other elements (`Dom.elementsList_childrenToMarkup`).
-/

namespace PostPress.Html

namespace Dom

variable {P : Space → String → List Attribute → Prop} {dom : Dom}

/-! ### The kinds of nodes -/

theorem node_modify (dom : Dom) (id : Nat) (f : DomNode → DomNode) (other : Nat) :
    (dom.modify id f).node other =
      if other = id ∧ id < dom.nodes.size then f (dom.node other) else dom.node other := by
  unfold modify node
  simp only [Array.getD_eq_getD_getElem?, Array.getElem?_modify]
  by_cases hid : id = other
  · subst hid
    by_cases hsize : id < dom.nodes.size
    · simp [hsize]
    · simp [hsize]
  · simp [hid, Ne.symm hid]

theorem node_create (dom : Dom) (kind : DomKind) (other : Nat) :
    (dom.create kind).2.node other =
      if other = dom.nodes.size then ⟨kind, none, []⟩ else dom.node other := by
  unfold create node
  simp only [Array.getD_eq_getD_getElem?, Array.getElem?_push]
  split <;> rfl

/-- Changes of nodes that leave their kinds as they are. -/
theorem kind_modify {id : Nat} {f : DomNode → DomNode} (hf : ∀ node, (f node).kind = node.kind)
    (other : Nat) : ((dom.modify id f).node other).kind = (dom.node other).kind := by
  rw [node_modify]
  split
  · exact hf _
  · rfl

/-! ### What holds of all elements -/

/-- Every element has a property, by its vocabulary, its name and its attributes. -/
def All (P : Space → String → List Attribute → Prop) (dom : Dom) : Prop :=
  ∀ id space name attrs content, (dom.node id).kind = .element space name attrs content →
    P space name attrs

theorem All.modify {id : Nat} {f : DomNode → DomNode} (h : dom.All P)
    (hf : ∀ node, (f node).kind = node.kind) : (dom.modify id f).All P := by
  intro other space name attrs content hkind
  rw [kind_modify hf] at hkind
  exact h other space name attrs content hkind

theorem all_empty (apart : Bool) : (empty apart).All P := by
  intro id space name attrs content hkind
  unfold empty node at hkind
  match id with
  | 0 => exact absurd hkind nofun
  | id + 1 => exact absurd hkind nofun

theorem All.create {kind : DomKind} (h : dom.All P)
    (hkind : ∀ space name attrs content, kind = .element space name attrs content →
      P space name attrs) :
    (dom.create kind).2.All P := by
  intro id space name attrs content hnode
  rw [node_create] at hnode
  split at hnode
  · exact hkind space name attrs content hnode
  · exact h id space name attrs content hnode

theorem All.createElement {space : Space} {name : String} {attrs : List Attribute}
    (h : dom.All P) (hnew : P space name attrs) :
    (dom.createElement space name attrs).2.All P := by
  have hkind : ∀ content s n as c,
      DomKind.element space name attrs content = .element s n as c → P s n as := by
    rintro content s n as c heq
    obtain ⟨rfl, rfl, rfl, -⟩ := DomKind.element.inj heq
    exact hnew
  unfold Dom.createElement
  split
  · exact (h.create (by intros; simp_all)).create (hkind _)
  · exact h.create (hkind _)

theorem All.addMissing {id : Nat} {attrs : List Attribute} (h : dom.All P)
    (hadded : ∀ space name own, P space name own → ∀ added ⊆ attrs, P space name (own ++ added)) :
    (dom.addMissing id attrs).All P := by
  intro other space name all content hkind
  unfold Dom.addMissing at hkind
  rw [node_modify] at hkind
  split at hkind
  · split at hkind
    · next s n own c hown =>
      obtain ⟨rfl, rfl, rfl, -⟩ := DomKind.element.inj hkind
      exact hadded _ _ _ (h _ _ _ _ _ hown) _ fun _ hattr => (List.mem_filter.1 hattr).1
    · exact h other space name all content hkind
  · exact h other space name all content hkind

theorem All.detach (h : dom.All P) (id : Nat) : (dom.detach id).All P := by
  unfold Dom.detach
  split
  · exact h
  · refine All.modify (All.modify h ?_) ?_
    all_goals exact fun _ => rfl

theorem All.append (h : dom.All P) (parent id : Nat) : (dom.append parent id).All P := by
  refine All.modify (All.modify (h.detach id) ?_) ?_
  all_goals exact fun _ => rfl

theorem All.insertBefore (h : dom.All P) (sibling id : Nat) : (dom.insertBefore sibling id).All P := by
  unfold Dom.insertBefore
  split
  · exact h
  · refine All.modify (All.modify (h.detach id) ?_) ?_
    all_goals exact fun _ => rfl

theorem All.extendText (h : dom.All P) (id : Nat) (chars : List Char) :
    (dom.extendText id chars).All P := by
  intro other space name attrs content hkind
  unfold Dom.extendText at hkind
  rw [node_modify] at hkind
  split at hkind
  · split at hkind
    · exact absurd hkind nofun
    · exact h other space name attrs content hkind
  · exact h other space name attrs content hkind

theorem All.createText (h : dom.All P) (chars : List Char) : (dom.create (.text chars)).2.All P :=
  h.create fun _ _ _ _ h => nomatch h

theorem All.appendText (h : dom.All P) (parent : Nat) (chars : List Char) :
    (dom.appendText parent chars).All P := by
  unfold Dom.appendText
  split
  · split
    · exact h.extendText _ chars
    · exact (h.createText chars).append _ _
  · exact (h.createText chars).append _ _

theorem All.insertTextBefore (h : dom.All P) (sibling : Nat) (chars : List Char) :
    (dom.insertTextBefore sibling chars).All P := by
  unfold Dom.insertTextBefore
  split
  · exact h
  · split
    · split
      · exact h.extendText _ chars
      · exact (h.createText chars).insertBefore _ _
    · exact (h.createText chars).insertBefore _ _

theorem All.moveChildren (h : dom.All P) (source target : Nat) :
    (dom.moveChildren source target).All P := by
  have hmoved := List.foldlRecOn (motive := Dom.All P) (dom.node source).children
    (fun dom id => dom.modify id fun n => { n with parent := some target }) h
    fun dom h id _ => All.modify h fun _ => rfl
  exact All.modify (All.modify hmoved fun _ => rfl) fun _ => rfl

/-! ### The finished tree -/

theorem elementsList_flatMap {α : Type} (f : α → List Markup) (items : List α) :
    Markup.elementsList (items.flatMap f) = items.flatMap fun item => Markup.elementsList (f item) := by
  induction items with
  | nil => rfl
  | cons item rest ih => rw [List.flatMap_cons, List.flatMap_cons, Markup.elementsList_append, ih]

theorem All.toMarkup (h : dom.All P) (depth id : Nat) :
    ∀ element ∈ Markup.elementsList (dom.toMarkup depth id),
      P element.space element.name element.attrs := by
  induction depth generalizing id with
  | zero => exact fun _ hmem => absurd hmem List.not_mem_nil
  | succ depth ih =>
      intro element helement
      unfold Dom.toMarkup at helement
      split at helement
      · exact absurd helement List.not_mem_nil
      · exact absurd helement List.not_mem_nil
      · exact absurd helement List.not_mem_nil
      · next space name attrs content hkind =>
        rw [Markup.elementsList, Markup.elementsList, List.append_nil, Markup.elements,
          elementsList_flatMap, List.mem_cons, List.mem_flatMap] at helement
        rcases helement with rfl | ⟨child, -, hchild⟩
        · exact h id space name attrs content hkind
        · exact ih child element hchild

/-- What holds of all elements under construction holds of those of the finished tree. -/
theorem All.childrenToMarkup (h : dom.All P) (id : Nat) :
    ∀ element ∈ Markup.elementsList (dom.childrenToMarkup id),
      P element.space element.name element.attrs := by
  intro element helement
  rw [Dom.childrenToMarkup, elementsList_flatMap, List.mem_flatMap] at helement
  obtain ⟨child, -, hchild⟩ := helement
  exact h.toMarkup _ _ element hchild

end Dom

end PostPress.Html
