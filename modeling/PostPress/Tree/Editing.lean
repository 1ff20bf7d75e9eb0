import PostPress.Tree.Visit

/-!
# PostPress.Tree.Editing

Editing a tree by rules on labels. Every node has a label that a reader can
write down; a rule names a label, the tree that takes the place of such a node,
and whether the walk goes on below.

* `Node.label`, `Selector` — naming nodes, and classes of nodes;
* `Rule`, `edit?` — the walk that applies the first rule for each label, with
  a record of every node it came to.
-/

namespace PostPress

/-- The label of a node: `#root`, the tag of an element, a quote and the text, or
the name of a foreign node in angle brackets. -/
def Node.label : Node → String
  | .root _ => "#root"
  | .element tag _ _ => tag
  | .text value => "'" ++ value
  | .foreign name _ => "<" ++ name ++ ">"

/-- A class of nodes. -/
inductive Selector
  /-- Every node. -/
  | all
  /-- Roots. -/
  | root
  /-- Texts. -/
  | text
  /-- Elements. -/
  | element
  /-- Foreign nodes. -/
  | foreign
  /-- Elements with one tag. -/
  | tag (name : String)
deriving DecidableEq, Repr

namespace Selector

/-- Whether a node is in the class. -/
def accepts : Selector → Node → Bool
  | .all, _ => true
  | .root, .root _ => true
  | .text, .text _ => true
  | .element, .element .. => true
  | .foreign, .foreign .. => true
  | .tag name, node => node.isElement name
  | _, _ => false

/-- The class that a word names; a word that names none is a tag. -/
def ofWord : String → Selector
  | "all" => .all
  | "root" => .root
  | "text" => .text
  | "element" => .element
  | "foreign" => .foreign
  | name => .tag name

end Selector

/-- What to do with the nodes of one label. -/
structure Rule where
  /-- The label of the nodes. -/
  label : String
  /-- The tree that takes their place, if they are replaced. -/
  replacement : Option Node
  /-- Whether the walk goes on below. -/
  next : Visit
deriving DecidableEq, Repr

/-- A node that an editing walk came to. -/
structure Sighting where
  /-- The label of the node found in the slot. -/
  label : String
  /-- Where the slot is. -/
  position : Option (Nat × Parent)
  /-- The displaced node if a replacement was asked for: nothing inside if it
  was refused. -/
  displaced : Option (Option Node)
deriving DecidableEq, Repr

namespace Rule

/-- The visitor that applies the first rule for a node's label and records the
visit. -/
def visitor (rules : List Rule) : Visitor (List Sighting) := fun seen slot =>
  match rules.find? (·.label == slot.node.label) with
  | none => ⟨seen ++ [⟨slot.node.label, slot.position, none⟩], slot.node, .descend⟩
  | some rule =>
      match rule.replacement with
      | none => ⟨seen ++ [⟨slot.node.label, slot.position, none⟩], slot.node, rule.next⟩
      | some node =>
          let (slot', displaced) := slot.replace node
          ⟨seen ++ [⟨slot.node.label, slot.position, some displaced⟩], slot'.node, rule.next⟩

/-- Levels that are enough for every walk by these rules that ends: on a path
down no rule can apply twice in a replacement of its own. -/
def levels (rules : List Rule) (tree : Node) : Nat :=
  rules.foldl (fun levels rule => levels + (rule.replacement.map Node.height).getD 0) tree.height

end Rule

/-- Walk a tree with rules: the nodes the walk came to, and the tree it left;
nothing if the walk does not end. -/
def Node.edit? (test : Node → Bool) (rules : List Rule) (tree : Node) :
    Option (List Sighting × Node) :=
  tree.visitMut? test (Rule.visitor rules) (Rule.levels rules tree) []

end PostPress
