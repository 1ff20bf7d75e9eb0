import PostPress.Proofs.Html.Element
import PostPress.Sanitize.Sanitizer

/-!
# PostPress.Proofs.Sanitize.Unwrapping

**What unwrapping leaves.** Foreign nodes and inner roots give way to what they hold, and
foreign nodes that are named like a tag to be stripped go with it. All else stays: a reader
who does not notice foreign nodes and roots reads the same before and after, but for what is
stripped (`SeesThrough.readList_unwrapForeign`).

* `Node.without` — a tree less some of its subtrees;
* `Node.SeesThrough` — readings of a tree in which roots and foreign nodes leave no trace;
* `Node.events` — the most detailed of them: trees without roots and foreign nodes can be
  rebuilt from it (`Node.eventsList_inj`).
-/

namespace PostPress

namespace Node

/-! ### Taking subtrees out -/

mutual

/-- A tree less the subtrees below its top that are to go. -/
def without (goes : Node → Bool) : Node → Node
  | .text value => .text value
  | .root children => .root (withoutList goes children)
  | .element tag attrs children => .element tag attrs (withoutList goes children)
  | .foreign name children => .foreign name (withoutList goes children)

/-- Some trees less the subtrees that are to go. -/
def withoutList (goes : Node → Bool) : List Node → List Node
  | [] => []
  | node :: rest =>
      if goes node then withoutList goes rest
      else without goes node :: withoutList goes rest

end

mutual

/-- Where only foreign nodes are to go, a tree without foreign nodes stays as it is. -/
theorem without_of_isPlain {goes : Node → Bool} (hforeign : ∀ node, node.isForeign = false →
    goes node = false) : ∀ {node : Node}, node.isPlain = true → node.without goes = node
  | .text _, _ => rfl
  | .element tag attrs _, h =>
      congrArg (Node.element tag attrs) (withoutList_of_isPlainList hforeign h)

theorem withoutList_of_isPlainList {goes : Node → Bool} (hforeign : ∀ node,
    node.isForeign = false → goes node = false) : ∀ {nodes : List Node},
    isPlainList nodes = true → withoutList goes nodes = nodes
  | [], _ => rfl
  | node :: rest, h => by
      obtain ⟨hnode, hrest⟩ := Bool.and_eq_true_iff.1 h
      have hstays : goes node = false := hforeign node <| by
        cases node with
        | foreign => exact absurd hnode Bool.false_ne_true
        | text | root | element => rfl
      rw [withoutList, hstays, if_neg Bool.false_ne_true, without_of_isPlain hforeign hnode,
        withoutList_of_isPlainList hforeign hrest]

end

/-! ### Reading past roots and foreign nodes -/

/-- Readings of a tree and of some trees in which roots and foreign nodes leave no trace:
what is read of them is what is read of the nodes that they hold. -/
structure SeesThrough {α : Type} (read : Node → List α) (readList : List Node → List α) :
    Prop where
  /-- Of no trees nothing is read. -/
  nil : readList [] = []
  /-- Trees are read one after the other. -/
  cons : ∀ node rest, readList (node :: rest) = read node ++ readList rest
  /-- A root leaves no trace. -/
  root : ∀ children, read (.root children) = readList children
  /-- A foreign node leaves no trace. -/
  foreign : ∀ name children, read (.foreign name children) = readList children
  /-- Of what an element holds only that counts which is read of it. -/
  element : ∀ tag attrs {children children'}, readList children = readList children' →
    read (.element tag attrs children) = read (.element tag attrs children')

theorem SeesThrough.append {α : Type} {read : Node → List α} {readList : List Node → List α}
    (h : SeesThrough read readList) (nodes more : List Node) :
    readList (nodes ++ more) = readList nodes ++ readList more := by
  induction nodes with
  | nil => rw [h.nil, List.nil_append, List.nil_append]
  | cons node rest ih => rw [List.cons_append, h.cons, h.cons, ih, List.append_assoc]

theorem SeesThrough.singleton {α : Type} {read : Node → List α} {readList : List Node → List α}
    (h : SeesThrough read readList) (node : Node) : readList [node] = read node := by
  rw [h.cons, h.nil, List.append_nil]

/-- What is written of a tree does not show its roots and foreign nodes. -/
theorem seesThrough_writeNode (newlines : Bool) :
    SeesThrough (Html.writeNode newlines) (Html.writeNodes newlines) where
  nil := rfl
  cons _ _ := rfl
  root _ := rfl
  foreign _ _ := rfl
  element tag attrs _ _ h := by rw [Html.writeNode, Html.writeNode, h]

/-- What a reader meets on the way through a tree. -/
inductive Event
  /-- An element begins. -/
  | enter (tag : String) (attrs : Attributes)
  /-- There is a text. -/
  | text (value : String)
  /-- The element ends that began last and has not ended. -/
  | leave

mutual

/-- All that a reader meets in a tree, without noticing roots and foreign nodes. -/
def events : Node → List Event
  | .text value => [.text value]
  | .root children | .foreign _ children => eventsList children
  | .element tag attrs children => .enter tag attrs :: (eventsList children ++ [.leave])

/-- All that a reader meets in some trees. -/
def eventsList : List Node → List Event
  | [] => []
  | node :: rest => events node ++ eventsList rest

end

theorem seesThrough_events : SeesThrough events eventsList where
  nil := rfl
  cons _ _ := rfl
  root _ := rfl
  foreign _ _ := rfl
  element tag attrs _ _ h := by rw [events, events, h]

/-- Rebuild trees from what a reader meets, from the end on: the trees after an event, and
those after each element that the event is in. -/
def Event.readBefore : Event → List (List Node) → List (List Node)
  | .text value, after :: outer => (.text value :: after) :: outer
  | .leave, outer => [] :: outer
  | .enter tag attrs, children :: after :: outer => (.element tag attrs children :: after) :: outer
  | _, _ => []

mutual

/-- A tree without roots and foreign nodes is rebuilt. -/
theorem readBefore_events : ∀ {node : Node}, node.isPlain = true →
    ∀ (after : List Node) (outer : List (List Node)),
      node.events.foldr Event.readBefore (after :: outer) = (node :: after) :: outer
  | .text _, _, _, _ => rfl
  | .element tag attrs children, h, after, outer => by
      rw [events, List.foldr_cons, List.foldr_append, List.foldr_cons, List.foldr_nil,
        Event.readBefore, readBefore_eventsList h [] (after :: outer), List.append_nil,
        Event.readBefore]

theorem readBefore_eventsList : ∀ {nodes : List Node}, isPlainList nodes = true →
    ∀ (after : List Node) (outer : List (List Node)),
      (eventsList nodes).foldr Event.readBefore (after :: outer) = (nodes ++ after) :: outer
  | [], _, _, _ => rfl
  | node :: rest, h, after, outer => by
      obtain ⟨hnode, hrest⟩ := Bool.and_eq_true_iff.1 h
      rw [eventsList, List.foldr_append, readBefore_eventsList hrest, readBefore_events hnode,
        List.cons_append]

end

/-- Trees without roots and foreign nodes are determined by what a reader meets in them. -/
theorem eventsList_inj {as bs : List Node} (has : isPlainList as = true)
    (hbs : isPlainList bs = true) (h : eventsList as = eventsList bs) : as = bs := by
  have hread := (readBefore_eventsList has [] []).symm.trans (h ▸ readBefore_eventsList hbs [] [])
  rw [List.append_nil, List.append_nil] at hread
  exact (List.cons.inj hread).1

end Node

namespace Schema

open Node

/-! ### Unwrapping -/

/-- Whether a node goes with all that it holds when foreign nodes are unwrapped. -/
def isStripped (schema : Schema) : Node → Bool
  | .foreign name _ => schema.strip.contains (Text.asciiLower name)
  | _ => false

theorem isStripped_of_not_isForeign (schema : Schema) {node : Node} (h : node.isForeign = false) :
    schema.isStripped node = false := by
  cases node with
  | foreign => exact absurd h.symm Bool.false_ne_true
  | text | root | element => rfl

mutual

theorem isPlainList_unwrapNode (schema : Schema) : ∀ node : Node,
    isPlainList (schema.unwrapNode node) = true
  | .text _ => rfl
  | .root children => isPlainList_unwrapForeign schema children
  | .element _ _ children =>
      (Bool.and_true _).trans (isPlainList_unwrapForeign schema children)
  | .foreign name children => by
      rw [unwrapNode]
      split
      · rfl
      · exact isPlainList_unwrapForeign schema children

/-- Unwrapping leaves no foreign nodes and no roots. -/
theorem isPlainList_unwrapForeign (schema : Schema) : ∀ nodes : List Node,
    isPlainList (schema.unwrapForeign nodes) = true
  | [] => rfl
  | node :: rest => by
      rw [unwrapForeign, isPlainList_append, isPlainList_unwrapNode schema node,
        isPlainList_unwrapForeign schema rest, Bool.and_true]

end

section Reading

variable {α : Type} {read : Node → List α} {readList : List Node → List α}
  (hread : SeesThrough read readList) (schema : Schema)

include hread

mutual

theorem readList_unwrapNode : ∀ node : Node,
    readList (schema.unwrapNode node) =
      if schema.isStripped node then [] else read (node.without schema.isStripped)
  | .text value => hread.singleton (.text value)
  | .root children => (readList_unwrapForeign children).trans (hread.root _).symm
  | .element tag attrs children =>
      (hread.singleton _).trans (hread.element tag attrs (readList_unwrapForeign children))
  | .foreign name children => by
      rw [unwrapNode, isStripped]
      split
      · exact hread.nil
      · exact (readList_unwrapForeign children).trans (hread.foreign name _).symm

/-- Unwrapping changes nothing for who does not notice roots and foreign nodes, but that what
is stripped is gone. By induction on the trees: a node that is unwrapped is read as what it
holds, before and after. -/
theorem readList_unwrapForeign : ∀ nodes : List Node,
    readList (schema.unwrapForeign nodes) = readList (withoutList schema.isStripped nodes)
  | [] => rfl
  | node :: rest => by
      rw [unwrapForeign, hread.append, readList_unwrapNode node, readList_unwrapForeign rest,
        withoutList]
      split
      · rw [List.nil_append]
      · exact (hread.cons _ _).symm

end

end Reading

/-- Where there are no foreign nodes and no roots, unwrapping changes nothing: nothing is left
to be stripped, so a reader meets the same. -/
theorem unwrapForeign_of_isPlainList (schema : Schema) {nodes : List Node}
    (h : isPlainList nodes = true) : schema.unwrapForeign nodes = nodes := by
  have hstays := withoutList_of_isPlainList (fun _ => schema.isStripped_of_not_isForeign) h
  refine eventsList_inj (schema.isPlainList_unwrapForeign nodes) h ?_
  rw [readList_unwrapForeign seesThrough_events schema nodes, hstays]

/-- **What unwrapping leaves** are the only nodes without foreign nodes and roots that a reader
goes through as through the given ones less what is stripped: all other elements are there with
their tags and attributes, and hold what they held in the same order. So the same is written
of both, and unwrapping once more changes nothing. -/
theorem unwrapForeign_leaves (schema : Schema) (nodes : List Node) :
    (∀ result, schema.unwrapForeign nodes = result ↔
      isPlainList result = true ∧
        eventsList result = eventsList (withoutList schema.isStripped nodes)) ∧
    toCompactHtml (.root (schema.unwrapForeign nodes)) =
      toCompactHtml (.root (withoutList schema.isStripped nodes)) ∧
    schema.unwrapForeign (schema.unwrapForeign nodes) = schema.unwrapForeign nodes := by
  have hevents := readList_unwrapForeign seesThrough_events schema nodes
  have hplain := schema.isPlainList_unwrapForeign nodes
  refine ⟨fun result => ⟨?_, fun ⟨hresult, hsame⟩ => ?_⟩, ?_, ?_⟩
  · rintro rfl
    exact ⟨hplain, hevents⟩
  · exact eventsList_inj hplain hresult (hevents.trans hsame.symm)
  · exact congrArg String.ofList (readList_unwrapForeign (seesThrough_writeNode false) schema nodes)
  · exact schema.unwrapForeign_of_isPlainList hplain

end Schema

end PostPress
