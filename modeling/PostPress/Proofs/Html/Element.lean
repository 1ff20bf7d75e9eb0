import PostPress.Html.Dom
import PostPress.Tree.Basic

/-!
# PostPress.Proofs.Html.Element

**The elements of trees.** All elements at any depth, without what they hold: of markup
(`Markup.elements`) and of a document (`Node.elements`).
-/

namespace PostPress

namespace Html

/-- An element of markup, without what it holds. -/
structure Element where
  /-- Its vocabulary. -/
  space : Space
  /-- Its name. -/
  name : String
  /-- Its attributes. -/
  attrs : List Attribute
deriving DecidableEq, Repr

namespace Markup

mutual

/-- The elements of a tree of markup in document order. -/
def elements : Markup → List Element
  | .text _ | .comment => []
  | .element space name attrs children => ⟨space, name, attrs⟩ :: elementsList children

/-- The elements of some trees of markup. -/
def elementsList : List Markup → List Element
  | [] => []
  | node :: rest => elements node ++ elementsList rest

end

@[simp] theorem elementsList_append (as bs : List Markup) :
    elementsList (as ++ bs) = elementsList as ++ elementsList bs := by
  induction as with
  | nil => rfl
  | cons node rest ih =>
      rw [List.cons_append, elementsList, ih, elementsList, List.append_assoc]

end Markup

end Html

namespace Node

mutual

/-- The elements of a tree in document order, each with its attributes. -/
def elements : Node → List (String × Attributes)
  | .text _ => []
  | .root children | .foreign _ children => elementsList children
  | .element tag attrs children => (tag, attrs) :: elementsList children

/-- The elements of some trees. -/
def elementsList : List Node → List (String × Attributes)
  | [] => []
  | node :: rest => elements node ++ elementsList rest

end

@[simp] theorem elementsList_append (as bs : List Node) :
    elementsList (as ++ bs) = elementsList as ++ elementsList bs := by
  induction as with
  | nil => rfl
  | cons node rest ih =>
      rw [List.cons_append, elementsList, ih, elementsList, List.append_assoc]

mutual

/-- Whether a tree has neither foreign nodes nor roots. -/
def isPlain : Node → Bool
  | .text _ => true
  | .root _ | .foreign .. => false
  | .element _ _ children => isPlainList children

/-- Whether no tree of a list has foreign nodes or roots. -/
def isPlainList : List Node → Bool
  | [] => true
  | node :: rest => isPlain node && isPlainList rest

end

theorem isPlainList_append (as bs : List Node) :
    isPlainList (as ++ bs) = (isPlainList as && isPlainList bs) := by
  induction as with
  | nil => rfl
  | cons node rest ih =>
      rw [List.cons_append, isPlainList, ih, isPlainList, Bool.and_assoc]

end Node

end PostPress
