import PostPress.Normalize
import PostPress.Proofs.Tree.Everywhere
import PostPress.Proofs.Tree.Nodes

/-!
# PostPress.Proofs.Normalize

**Formatting becomes elements.** The walk over a tree does what a map on trees does, which
has an element for every foreign node that stands for formatting, at any depth
(`walk_formatted`). The one exception is the top: it cannot be replaced, but its children
have been taken out of it by then, so a top that stands for formatting ends up without them
(`normalize_of_isFormatting`).

* `Node.IsFormatting`, `Node.formatted` — the nodes that have an element, and the map;
* `Node.texts` — the texts of a tree in document order;
* `Node.IsNormal` — what is left of formatting after the walk.

A second run changes nothing (`normalize_eq_self`), and no text is lost unless the top stands
for formatting (`texts_normalize_iff`).
-/

namespace PostPress

/-! ### Formatting -/

namespace Node

/-- A foreign node that stands for formatting. -/
def IsFormatting (node : Node) : Prop :=
  ∃ name ∈ ["u", "del", "s"], ∃ children, node = .foreign name children

/-- An inline construct with an element if it has one: `u` is an underline, `del` and `s`
are a deletion. -/
def ofInline (name : String) (children : List Node) : Node :=
  match name with
  | "u" => .element "u" ∅ children
  | "del" | "s" => .element "del" ∅ children
  | name => .foreign name children

mutual

/-- The tree with an element for every foreign node in it that stands for formatting. The
element has no attributes, and the children of the node. -/
def formatted : Node → Node
  | .text value => .text value
  | .root children => .root (formattedList children)
  | .element tag attrs children => .element tag attrs (formattedList children)
  | .foreign name children => ofInline name (formattedList children)

/-- The trees of a list with elements for formatting. -/
def formattedList : List Node → List Node
  | [] => []
  | node :: rest => formatted node :: formattedList rest

end

theorem formattedList_eq_map (nodes : List Node) : formattedList nodes = nodes.map formatted := by
  induction nodes with
  | nil => rfl
  | cons node rest ih => rw [formattedList, ih, List.map_cons]

theorem ofInline_of_mem {name : String} (h : name ∈ ["u", "del", "s"]) (children : List Node) :
    ∃ tag, canonicalTag name = some tag ∧ ofInline name children = .plain tag children := by
  simp only [List.mem_cons, List.not_mem_nil, or_false] at h
  rcases h with rfl | rfl | rfl
  · exact ⟨"u", rfl, rfl⟩
  · exact ⟨"del", rfl, rfl⟩
  · exact ⟨"del", rfl, rfl⟩

theorem ofInline_of_notMem {name : String} (h : name ∉ ["u", "del", "s"]) (children : List Node) :
    canonicalTag name = none ∧ ofInline name children = .foreign name children := by
  have hother : name ≠ "u" ∧ name ≠ "del" ∧ name ≠ "s" := by simpa using h
  simp [canonicalTag, ofInline, hother]

theorem isFormatting_foreign_iff {name : String} {children : List Node} :
    (foreign name children).IsFormatting ↔ name ∈ ["u", "del", "s"] := by
  refine ⟨?_, fun h => ⟨name, h, children, rfl⟩⟩
  rintro ⟨other, hmem, below, hsame⟩
  exact (foreign.inj hsame).1 ▸ hmem

theorem IsFormatting.isForeign {node : Node} (h : node.IsFormatting) : node.isForeign = true := by
  obtain ⟨name, -, children, rfl⟩ := h
  rfl

/-- A node that does not stand for formatting stays, with its children formatted. -/
theorem formatted_of_not_isFormatting {node : Node} (h : ¬node.IsFormatting) :
    node.formatted = node.withChildren (node.children.map formatted) := by
  cases node with
  | text _ => rfl
  | root children => exact congrArg root (formattedList_eq_map children)
  | element tag attrs children => exact congrArg (element tag attrs) (formattedList_eq_map children)
  | foreign name children =>
      rw [isFormatting_foreign_iff] at h
      rw [formatted, formattedList_eq_map, (ofInline_of_notMem h _).2]
      rfl

theorem children_ofInline (name : String) (children : List Node) :
    (ofInline name children).children = children := by
  unfold ofInline
  split <;> rfl

theorem children_formatted (node : Node) :
    node.formatted.children = node.children.map formatted := by
  cases node with
  | text _ => rfl
  | root children | element _ _ children => exact formattedList_eq_map children
  | foreign name children => exact (children_ofInline ..).trans (formattedList_eq_map children)

theorem not_isFormatting_formatted (node : Node) : ¬node.formatted.IsFormatting := by
  cases node with
  | text _ | root _ | element _ _ _ => exact fun h => absurd h.isForeign Bool.false_ne_true
  | foreign name children =>
      rw [formatted]
      by_cases hmem : name ∈ ["u", "del", "s"]
      · obtain ⟨tag, -, hinline⟩ := ofInline_of_mem hmem (formattedList children)
        rw [hinline]
        exact fun h => absurd h.isForeign Bool.false_ne_true
      · rwa [(ofInline_of_notMem hmem _).2, isFormatting_foreign_iff]

/-- In the formatted tree nothing is left that stands for formatting. -/
theorem not_isFormatting_of_mem_formatted (tree : Node) :
    ∀ node ∈ tree.formatted.nodes, ¬node.IsFormatting := by
  induction tree using Node.induction_children with
  | step tree ih =>
      intro node hnode
      rw [nodes_eq, children_formatted, nodesList_eq_flatMap, List.flatMap_map] at hnode
      rcases List.mem_cons.1 hnode with rfl | hbelow
      · exact not_isFormatting_formatted tree
      · obtain ⟨child, hchild, hmem⟩ := List.mem_flatMap.1 hbelow
        exact ih child hchild node hmem

end Node

/-! ### Visits -/

/-- A foreign node that stands for formatting is at the top, where it cannot be replaced,
and holds nothing, as its children were taken out of it. -/
def Node.IsNormal (parent : Option Parent) (node : Node) : Prop :=
  ∀ name children, node = .foreign name children →
    canonicalTag name = none ∨ parent = none ∧ children = []

theorem Node.isNormal_of_not_foreign {parent : Option Parent} {node : Node}
    (h : node.isForeign = false) : node.IsNormal parent := by
  rintro name children rfl
  exact Bool.noConfusion h

theorem tested_normalizeVisitor_foreign (name : String) (children : List Node)
    (position : Option (Nat × Parent)) :
    normalizeVisitor.tested Node.isForeign () ⟨.foreign name children, position⟩ =
      match canonicalTag name, position with
      | none, _ => ⟨(), .foreign name children, .descend⟩
      | some _, none => ⟨(), .foreign name [], .descend⟩
      | some tag, some _ => ⟨(), .plain tag children, .descend⟩ := by
  simp only [Visitor.tested, Node.isForeign, if_true, normalizeVisitor]
  cases canonicalTag name with
  | none => rfl
  | some tag => cases position <;> rfl

theorem tested_normalizeVisitor_other {node : Node} (h : node.isForeign = false)
    (position : Option (Nat × Parent)) :
    normalizeVisitor.tested Node.isForeign () ⟨node, position⟩ = ⟨(), node, .descend⟩ := by
  simp [Visitor.tested, h]

/-- A visit leaves a foreign node that stands for formatting only at the top, without its
children. -/
theorem tested_normalizeVisitor (slot : Slot) :
    (normalizeVisitor.tested Node.isForeign () slot).next = .descend ∧
      (normalizeVisitor.tested Node.isForeign () slot).node.height ≤ slot.node.height ∧
      (normalizeVisitor.tested Node.isForeign () slot).node.IsNormal slot.parent? := by
  obtain ⟨node, position⟩ := slot
  cases node with
  | text _ | root _ | element _ _ _ =>
      rw [tested_normalizeVisitor_other rfl]
      exact ⟨rfl, Nat.le_refl _, Node.isNormal_of_not_foreign rfl⟩
  | foreign name children =>
      rw [tested_normalizeVisitor_foreign]
      cases htag : canonicalTag name with
      | none =>
          refine ⟨rfl, Nat.le_refl _, ?_⟩
          rintro other below hsame
          obtain ⟨rfl, -⟩ := Node.foreign.inj hsame
          exact .inl htag
      | some tag =>
          cases position with
          | none =>
              refine ⟨rfl, Nat.succ_le_succ (Nat.zero_le _), ?_⟩
              rintro other below hsame
              obtain ⟨-, rfl⟩ := Node.foreign.inj hsame
              exact .inr ⟨rfl, rfl⟩
          | some position => exact ⟨rfl, Nat.le_refl _, Node.isNormal_of_not_foreign rfl⟩

/-- Other children, as many as before, leave a node normal. -/
theorem Node.IsNormal.withChildren {parent : Option Parent} {node : Node} {children : List Node}
    (h : node.IsNormal parent) (hlength : children.length = node.children.length) :
    (node.withChildren children).IsNormal parent := by
  cases node with
  | text _ | root _ | element _ _ _ => exact Node.isNormal_of_not_foreign rfl
  | foreign name before =>
      rintro other below hsame
      obtain ⟨rfl, rfl⟩ := Node.foreign.inj hsame
      refine (h name before rfl).imp_right fun ⟨htop, hnone⟩ => ⟨htop, ?_⟩
      rw [hnone] at hlength
      exact List.eq_nil_of_length_eq_zero hlength

theorem shrinks_normalizeVisitor : normalizeVisitor.Shrinks Node.isForeign := by
  intro state slot htest _
  have hheight := (tested_normalizeVisitor slot).2.1
  rwa [Visitor.tested, if_pos htest] at hheight

theorem brings_normalizeVisitor :
    normalizeVisitor.Brings Node.isForeign (fun _ _ => True) Node.IsNormal where
  shrinks := shrinks_normalizeVisitor
  skipped _ hnext := by
    rw [(tested_normalizeVisitor _).1] at hnext
    exact absurd hnext nofun
  below _ _ _ _ := Everywhere.of_forall (fun _ _ => trivial) _ _
  descended _ _ _ hlength := (tested_normalizeVisitor _).2.2.withChildren hlength

/-- A normalized tree is normal everywhere. -/
theorem everywhere_normalize (tree : Node) : Everywhere Node.IsNormal none (normalize tree) := by
  have hbefore := Everywhere.of_forall (P := fun _ _ => True) (fun _ _ => trivial) none tree
  exact everywhere_walk brings_normalizeVisitor ⟨tree, none⟩ hbefore ()

/-- Where a tree is normal everywhere, nothing is left to do. -/
theorem normalize_eq_self {tree : Node} (h : Everywhere Node.IsNormal none tree) :
    normalize tree = tree := by
  refine congrArg Prod.snd (walk_eq_self shrinks_normalizeVisitor ?_ h () rfl)
  rintro ⟨⟩ ⟨node, position⟩ h
  cases node with
  | text _ | root _ | element _ _ _ => exact tested_normalizeVisitor_other rfl position
  | foreign name children =>
      rw [tested_normalizeVisitor_foreign]
      rcases h.here name children rfl with hnone | ⟨htop, rfl⟩
      · rw [hnone]
      · obtain rfl := Option.map_eq_none_iff.1 htop
        cases canonicalTag name <;> rfl

/-! ### The walk is the map -/

/-- The walk leaves the formatted tree in the slot, unless it is the top of a tree and stands
for formatting. -/
theorem walk_formatted (node : Node) {position : Option (Nat × Parent)}
    (h : position = none → ¬node.IsFormatting) :
    (walk Node.isForeign normalizeVisitor () ⟨node, position⟩).2 = node.formatted := by
  induction node using Node.induction_children generalizing position with
  | step node ih =>
      have hchildren : ∀ {children}, children = node.children → ∀ {parent : Parent},
          (walkList Node.isForeign normalizeVisitor parent 0 () children).2 =
            children.map Node.formatted := by
        rintro _ rfl parent
        exact walkList_nodes (fun child hchild _ _ => ih child hchild (absurd · nofun)) 0 ()
      rw [walk_eq shrinks_normalizeVisitor, walkStep]
      cases node with
      | text _ =>
          rw [tested_normalizeVisitor_other rfl]
          rfl
      | root children =>
          rw [tested_normalizeVisitor_other rfl, Node.formatted, Node.formattedList_eq_map]
          exact congrArg Node.root (hchildren rfl)
      | element tag attrs children =>
          rw [tested_normalizeVisitor_other rfl, Node.formatted, Node.formattedList_eq_map]
          exact congrArg (Node.element tag attrs) (hchildren rfl)
      | foreign name children =>
          rw [tested_normalizeVisitor_foreign]
          -- The walk goes on in the element that was put into the slot: its children are those
          -- of the node before, for which the induction is.
          by_cases hmem : name ∈ ["u", "del", "s"]
          · obtain ⟨tag, htag, hinline⟩ := Node.ofInline_of_mem hmem (children.map Node.formatted)
            rw [Node.formatted, Node.formattedList_eq_map, hinline, htag]
            cases position with
            | none => exact absurd (Node.isFormatting_foreign_iff.2 hmem) (h rfl)
            | some position => exact congrArg (Node.plain tag) (hchildren rfl)
          · obtain ⟨htag, hinline⟩ := Node.ofInline_of_notMem hmem (children.map Node.formatted)
            rw [Node.formatted, Node.formattedList_eq_map, hinline, htag]
            exact congrArg (Node.foreign name) (hchildren rfl)

theorem normalize_of_not_isFormatting {tree : Node} (h : ¬tree.IsFormatting) :
    normalize tree = tree.formatted :=
  walk_formatted tree fun _ => h

/-- At the top the element is refused, when the children have been taken out already. -/
theorem normalize_of_isFormatting {tree : Node} (h : tree.IsFormatting) :
    normalize tree = tree.withChildren [] := by
  obtain ⟨name, hmem, children, rfl⟩ := h
  obtain ⟨tag, htag, -⟩ := Node.ofInline_of_mem hmem children
  have hwalk := walk_eq shrinks_normalizeVisitor () ⟨.foreign name children, none⟩
  rw [walkStep, tested_normalizeVisitor_foreign, htag] at hwalk
  exact congrArg Prod.snd hwalk

/-- **Formatting.** For every tree whose top is not foreign, the walk does what the map on
trees does. So no foreign node is left that stands for formatting, and a second walk changes
nothing. -/
theorem normalize_eq_formatted {tree : Node} (h : tree.isForeign = false) :
    normalize tree = tree.formatted ∧
      (∀ node ∈ (normalize tree).nodes, ¬node.IsFormatting) ∧
      normalize (normalize tree) = normalize tree := by
  have hmap : normalize tree = tree.formatted := by
    refine normalize_of_not_isFormatting fun hformatting => ?_
    rw [hformatting.isForeign] at h
    exact Bool.noConfusion h
  refine ⟨hmap, ?_, normalize_eq_self (everywhere_normalize tree)⟩
  rw [hmap]
  exact Node.not_isFormatting_of_mem_formatted tree

/-- Formatting below a foreign node of another name, below a root, and below formatting. -/
theorem normalize_eq_formatted_nested :
    let tree : Node := .root [.foreign "mark" [.foreign "u" [.root [.foreign "s" [.text "x"]],
      .foreign "del" []]], .foreign "U" []]
    tree.isForeign = false ∧
      normalize tree = .root [.foreign "mark" [.plain "u" [.root [.plain "del" [.text "x"]],
        .plain "del" []]], .foreign "U" []] := by
  intro tree
  have htop : tree.isForeign = false := rfl
  exact ⟨htop, (normalize_eq_formatted htop).1⟩

/-! ### Texts -/

namespace Node

/-- The value of a text. -/
def text? : Node → Option String
  | .text value => some value
  | _ => none

/-- The values of the texts of a tree in document order. -/
def texts (tree : Node) : List String := tree.nodes.filterMap text?

theorem texts_eq (node : Node) :
    node.texts = node.text?.toList ++ node.children.flatMap texts := by
  rw [texts, nodes_eq, nodesList_eq_flatMap, List.filterMap_cons, List.filterMap_flatMap]
  cases node.text? <;> rfl

theorem text?_formatted (node : Node) : node.formatted.text? = node.text? := by
  cases node with
  | text _ | root _ | element _ _ _ => rfl
  | foreign name children =>
      unfold formatted ofInline
      split <;> rfl

/-- The formatted tree has the same texts. -/
theorem texts_formatted (tree : Node) : tree.formatted.texts = tree.texts := by
  induction tree using Node.induction_children with
  | step tree ih =>
      rw [texts_eq, text?_formatted, children_formatted, List.flatMap_map, texts_eq tree]
      exact congrArg _ (List.flatMap_congr ih)

end Node

/-- **What is lost.** For every tree, the texts stay the same, and the top stays with its
children formatted, unless the top stands for formatting: then it has no children any more,
so that all of its texts are lost. -/
theorem texts_normalize_iff (tree : Node) :
    ((normalize tree).texts = tree.texts ↔ (tree.IsFormatting → tree.texts = [])) ∧
      (normalize tree = tree.withChildren (tree.children.map Node.formatted) ↔
        (tree.IsFormatting → tree.children = [])) ∧
      (tree.IsFormatting → normalize tree = tree.withChildren []) := by
  by_cases h : tree.IsFormatting
  · have hleft : normalize tree = tree.withChildren [] := normalize_of_isFormatting h
    rw [hleft]
    obtain ⟨name, -, children, rfl⟩ := id h
    refine ⟨?_, ?_, fun _ => rfl⟩
    · rw [forall_prop_of_true h]
      exact eq_comm
    · rw [forall_prop_of_true h]
      refine ⟨fun hsame => ?_, fun hnone => ?_⟩
      · exact List.map_eq_nil_iff.1 (Node.foreign.inj hsame).2.symm
      · rw [hnone]
        rfl
  · have hmap : normalize tree = tree.formatted := normalize_of_not_isFormatting h
    rw [hmap]
    refine ⟨?_, ?_, fun hformatting => absurd hformatting h⟩
    · exact iff_of_true (Node.texts_formatted tree) fun hformatting => absurd hformatting h
    · exact iff_of_true (Node.formatted_of_not_isFormatting h) fun hformatting =>
        absurd hformatting h

/-- A top that stands for formatting loses its text. -/
theorem texts_normalize_top :
    let tree : Node := .foreign "u" [.text "x"]
    tree.texts = ["x"] ∧ (normalize tree).texts = [] ∧ normalize tree = .foreign "u" [] := by
  decide +kernel

end PostPress
