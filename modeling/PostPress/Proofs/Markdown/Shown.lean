import PostPress.Markdown.Tree
import PostPress.Proofs.Collections.NameMap
import PostPress.Proofs.Tree.Nodes

/-!
# PostPress.Proofs.Markdown.Shown

**The references that a document shows.** Not every reference to a footnote comes into the
tree: what stands in a footnote waits for the section at the end, and what is misplaced in a
list or a table is left out. Those that do (`Construct.shown`) become anchors one after the
other, each with the number of its footnote, and the first one of a number with an id
(`Footnote.anchors`). Nothing else in the tree of a source has an id, or is marked as a
reference, or is a section (`shows_convert`).
-/

namespace PostPress

namespace Footnote

/-! ### Anchors -/

/-- The anchor of a reference. -/
def anchor (number : Nat) (first : Bool) : Node :=
  let attrs := Attributes.ofList
    [("href", .text ("#" ++ noteId number)), (referenceMark, .text "")]
  let attrs := if first then attrs.insert "id" (.text (referenceId number)) else attrs
  .element "a" attrs [.text number.repr]

theorem reference_eq (number : Nat) (first : Bool) :
    reference number first = .plain "sup" [anchor number first] := rfl

theorem get?_attributes_anchor (number : Nat) (first : Bool) (name : String) :
    (anchor number first).attributes.get? name =
      if first ∧ name = "id" then some (.text (referenceId number))
      else if name = referenceMark then some (.text "")
      else if name = "href" then some (.text ("#" ++ noteId number)) else none := by
  have hof : ∀ name, (Attributes.ofList
      [("href", .text ("#" ++ noteId number)), (referenceMark, .text "")]).get? name =
        if name = referenceMark then some (.text "")
        else if name = "href" then some (.text ("#" ++ noteId number)) else none := fun name =>
    (NameMap.get?_insert ..).trans (by rw [NameMap.get?_insert]; rfl)
  cases first with
  | false => simpa [anchor, Node.attributes] using hof name
  | true => simp [anchor, Node.attributes, NameMap.get?_insert, hof]

/-- An anchor leads to its footnote. -/
theorem attr?_href_anchor (number : Nat) (first : Bool) :
    (anchor number first).attr? "href" = some ("#" ++ noteId number) := by
  simp [Node.attr?, get?_attributes_anchor, referenceMark, AttrValue.plain?]

/-- The first anchor of a number has an id. -/
theorem attr?_id_anchor (number : Nat) (first : Bool) :
    (anchor number first).attr? "id" = if first then some (referenceId number) else none := by
  cases first <;> simp [Node.attr?, get?_attributes_anchor, referenceMark, AttrValue.plain?]

theorem contains_mark_anchor (number : Nat) (first : Bool) :
    (anchor number first).attributes.contains referenceMark = true := by
  simp [NameMap.contains, get?_attributes_anchor, referenceMark]

theorem textContent_anchor (number : Nat) (first : Bool) :
    (anchor number first).textContent = number.repr := String.append_empty

/-- The numbers that were referred to after one more reference. -/
def noteSeen (seen : List Nat) (number : Nat) : List Nat :=
  if seen.contains number then seen else number :: seen

/-- The anchors of references with some numbers one after the other. -/
def anchors (seen : List Nat) : List Nat → List Node
  | [] => []
  | number :: rest =>
      anchor number (!seen.contains number) :: anchors (noteSeen seen number) rest

theorem anchors_append (seen as bs : List Nat) :
    anchors seen (as ++ bs) = anchors seen as ++ anchors (as.foldl noteSeen seen) bs := by
  induction as generalizing seen with
  | nil => rfl
  | cons number rest ih => rw [List.cons_append, anchors, ih, anchors]; rfl

end Footnote

namespace Markdown

open Node (nodesList nodesList_append)

/-! ### References that are shown -/

namespace Construct

mutual

/-- The identifiers of the references to footnotes that come into the tree where they
stand, in document order. -/
def shown : Construct → List String
  | .footnoteReference identifier _ => [identifier]
  | .document children | .paragraph children | .heading _ children | .quote children
  | .emphasis children | .strong children | .strikethrough children | .link _ _ children
  | .linkReference _ children | .component _ children => shownAll children
  | .list _ _ children => shownItems children
  | .table _ children => shownRows children
  | .item .. | .row _ | .cell _ | .footnoteDefinition .. | .thematicBreak | .codeBlock ..
  | .definition .. | .metadata _ | .text _ | .codeSpan _ | .lineBreak | .image ..
  | .imageReference .. | .expression _ => []

/-- Those that some constructs show. -/
def shownAll : List Construct → List String
  | [] => []
  | construct :: rest => shown construct ++ shownAll rest

/-- Those that the items of a list show. -/
def shownItems : List Construct → List String
  | [] => []
  | .item _ _ children :: rest => shownAll children ++ shownItems rest
  | _ :: rest => shownItems rest

/-- Those that the rows of a table show. -/
def shownRows : List Construct → List String
  | [] => []
  | .row cells :: rest => shownCells cells ++ shownRows rest
  | _ :: rest => shownRows rest

/-- Those that the cells of a row show. -/
def shownCells : List Construct → List String
  | [] => []
  | .cell children :: rest => shownAll children ++ shownCells rest
  | _ :: rest => shownCells rest

end

end Construct

/-! ### Nodes that have to do with footnotes -/

/-- Whether a node is a section, has an id, or is marked as a reference to a footnote. -/
def isNoted (node : Node) : Bool :=
  node.isElement "section" || (node.attr? "id").isSome ||
    node.attributes.contains Footnote.referenceMark

/-- The nodes of some trees that have to do with footnotes. -/
def noted (trees : List Node) : List Node := (nodesList trees).filter isNoted

@[simp] theorem noted_append (as bs : List Node) : noted (as ++ bs) = noted as ++ noted bs := by
  rw [noted, nodesList_append, List.filter_append, noted, noted]

theorem noted_cons (tree : Node) (rest : List Node) :
    noted (tree :: rest) =
      (if isNoted tree then [tree] else []) ++ noted tree.children ++ noted rest := by
  rw [noted, nodesList, Node.nodes_eq, List.filter_append, List.filter_cons]
  split <;> rfl

/-- What has nothing to do with footnotes has no id. -/
theorem ids_noted (trees : List Node) : Node.ids (noted trees) = Node.ids (nodesList trees) := by
  rw [Node.ids, Node.ids, noted, List.filterMap_filter]
  refine List.filterMap_congr fun node _ => ?_
  split
  · rfl
  · next hnot =>
      simp only [isNoted, Bool.or_eq_true, not_or, Bool.not_eq_true, Option.isSome_eq_false_iff,
        Option.isNone_iff_eq_none] at hnot
      exact hnot.1.2.symm

/-- Nodes of a kind that has to do with footnotes. -/
theorem filter_noted {test : Node → Bool} (h : ∀ node, test node = true → isNoted node = true)
    (trees : List Node) : (noted trees).filter test = (nodesList trees).filter test := by
  rw [noted, List.filter_filter]
  refine List.filter_congr fun node _ => ?_
  cases htest : test node with
  | true => simp [h node htest]
  | false => rfl

theorem noted_of_not_noted {tree : Node} (h : isNoted tree = false) :
    noted [tree] = noted tree.children := by
  rw [noted_cons, h]
  exact List.append_nil _

/-- An element has nothing to do with footnotes, whatever is in it. -/
structure Unnoted (tag : String) (attrs : Attributes) : Prop where
  /-- It is no section. -/
  tag_ne : tag ≠ "section"
  /-- It has no id. -/
  id_none : attrs.get? "id" = none
  /-- It is not marked. -/
  mark_none : attrs.get? Footnote.referenceMark = none

theorem Unnoted.noted_element {tag : String} {attrs : Attributes} (h : Unnoted tag attrs)
    (children : List Node) : noted [.element tag attrs children] = noted children := by
  have hnot : isNoted (.element tag attrs children) = false := by
    simp [isNoted, Node.isElement, Node.tag?, Node.attr?, Node.attributes, NameMap.contains,
      h.tag_ne, h.id_none, h.mark_none]
  exact noted_of_not_noted hnot

theorem Unnoted.plain {tag : String} (h : tag ≠ "section") : Unnoted tag ∅ := ⟨h, rfl, rfl⟩

/-- Attributes of other names do not matter. -/
theorem Unnoted.insert {tag : String} {attrs : Attributes} (h : Unnoted tag attrs) {name : String}
    (hid : name ≠ "id") (hmark : name ≠ Footnote.referenceMark) (value : AttrValue) :
    Unnoted tag (attrs.insert name value) where
  tag_ne := h.tag_ne
  id_none := by rw [NameMap.get?_insert, if_neg hid.symm, h.id_none]
  mark_none := by rw [NameMap.get?_insert, if_neg hmark.symm, h.mark_none]

theorem Unnoted.single {tag name : String} (htag : tag ≠ "section") (hid : name ≠ "id")
    (hmark : name ≠ Footnote.referenceMark) (value : AttrValue) :
    Unnoted tag (.ofList [(name, value)]) :=
  (Unnoted.plain htag).insert hid hmark value

@[simp] theorem noted_nil : noted [] = [] := rfl

@[simp] theorem noted_text (value : String) (rest : List Node) :
    noted (.text value :: rest) = noted rest := noted_cons (.text value) rest

@[simp] theorem noted_root (children : List Node) : noted [.root children] = noted children :=
  noted_of_not_noted rfl

@[simp] theorem noted_foreign (name : String) (children : List Node) :
    noted [.foreign name children] = noted children :=
  noted_of_not_noted rfl

theorem noted_plain {tag : String} (h : tag ≠ "section") (children : List Node) :
    noted [.plain tag children] = noted children :=
  (Unnoted.plain h).noted_element children

theorem headingTag_ne_section (depth : Nat) : headingTag depth ≠ "section" := by
  intro h
  have hchars := congrArg String.toList h
  rw [headingTag, String.toList_append] at hchars
  exact absurd (List.cons.inj hchars).1 (by decide)

theorem unnoted_targetAttributes {tag name : String} (htag : tag ≠ "section") (hid : name ≠ "id")
    (hmark : name ≠ Footnote.referenceMark) (target : Target) :
    Unnoted tag (targetAttributes name target) := by
  have hname := Unnoted.single htag hid hmark (.text target.url)
  unfold targetAttributes
  split
  · exact hname.insert (by decide) (by decide) _
  · exact hname

theorem noted_linkNode (target : Target) (children : List Node) :
    noted [linkNode target children] = noted children :=
  (unnoted_targetAttributes (by decide) (by decide) (by decide) target).noted_element children

theorem noted_imageNode (target : Target) (alt : String) : noted [imageNode target alt] = [] :=
  ((unnoted_targetAttributes (by decide) (by decide) (by decide) target).insert (by decide)
    (by decide) _).noted_element []

theorem noted_codeNode (language : Option String) (value : String) :
    noted [codeNode language value] = [] := by
  refine (noted_plain (by decide) _).trans ?_
  split
  · exact (Unnoted.single (by decide) (by decide) (by decide) _).noted_element _
  · exact (Unnoted.plain (by decide)).noted_element _

theorem noted_itemNode (checked : Option Bool) (children : List Node) :
    noted [itemNode checked children] = noted children := by
  cases checked with
  | none => exact noted_plain (by decide) children
  | some checked =>
      have hbox : noted (taskNodes checked) = [] := by cases checked <;> decide +kernel
      refine ((Unnoted.single (by decide) (by decide) (by decide) _).noted_element _).trans ?_
      rw [noted_append, hbox, List.nil_append]

theorem noted_listNode (start : Option Nat) (hasTasks : Bool) (items : List Node) :
    noted [listNode start hasTasks items] = noted items := by
  have htasks : ∀ {tag : String} {attrs : Attributes}, Unnoted tag attrs →
      Unnoted tag (if hasTasks then attrs.insert "class" (.tokens ["contains-task-list"])
        else attrs) := by
    intro tag attrs h
    split
    · exact h.insert (by decide) (by decide) _
    · exact h
  cases start with
  | none => exact (htasks (.plain (by decide))).noted_element items
  | some number =>
      have hstart : Unnoted "ol"
          (if number = 1 then ∅ else .ofList [("start", .text number.repr)]) := by
        split
        · exact .plain (by decide)
        · exact .single (by decide) (by decide) (by decide) _
      exact (htasks hstart).noted_element items

theorem noted_cellNode {tag : String} (htag : tag ≠ "section") (alignment : Option Alignment)
    (children : List Node) : noted [cellNode tag alignment children] = noted children := by
  cases alignment with
  | none => exact noted_plain htag children
  | some alignment =>
      exact (Unnoted.single htag (by decide) (by decide) _).noted_element children

theorem noted_tableNode (head body : List Node) :
    noted [tableNode head body] = noted head ++ noted body := by
  have hhead : noted [Node.plain "thead" head] = noted head := noted_plain (by decide) head
  have hbody : noted [Node.plain "tbody" body] = noted body := noted_plain (by decide) body
  refine (noted_plain (by decide) _).trans ?_
  rw [← List.singleton_append, noted_append, hhead]
  cases body with
  | nil => rfl
  | cons node rest => exact congrArg (noted head ++ ·) hbody

theorem noted_reference (number : Nat) (first : Bool) :
    noted [Footnote.reference number first] = [Footnote.anchor number first] := by
  have hmark : isNoted (Footnote.anchor number first) = true := by
    rw [isNoted, Footnote.contains_mark_anchor, Bool.or_true]
  rw [Footnote.reference_eq, noted_plain (by decide), noted_cons, if_pos hmark]
  rfl

/-! ### Conversion -/

/-- A conversion that began when some numbers had been referred to shows references with
some identifiers, and nothing else that has to do with footnotes. -/
structure Shows (references : References) (seen : List Nat) (identifiers : List String)
    (result : List Node × List Nat) : Prop where
  /-- The anchors of those that have a number. -/
  noted_eq : noted result.1 = Footnote.anchors seen (identifiers.filterMap references.number?)
  /-- Their numbers are among those that were referred to then. -/
  seen_eq : result.2 =
    (identifiers.filterMap references.number?).foldl Footnote.noteSeen seen

namespace Shows

variable {references : References} {seen : List Nat} {identifiers : List String}
  {result : List Node × List Nat}

/-- A conversion that shows no references. -/
theorem nothing {nodes : List Node} (h : noted nodes = []) :
    Shows references seen [] (nodes, seen) := ⟨h, rfl⟩

/-- What is built around the nodes shows what they show. -/
theorem map (h : Shows references seen identifiers result) {build : List Node → List Node}
    (hbuild : noted (build result.1) = noted result.1) :
    Shows references seen identifiers (result.map build id) :=
  ⟨hbuild.trans h.noted_eq, h.seen_eq⟩

/-- Nodes before those of another conversion, which began where they were ready. -/
theorem append (h : Shows references seen identifiers result) {others : List String}
    {result' : List Node × List Nat} (h' : Shows references result.2 others result')
    {build : List Node → List Node}
    (hbuild : noted (build result'.1) = noted result.1 ++ noted result'.1) :
    Shows references seen (identifiers ++ others) (result'.map build id) := by
  constructor
  · rw [Prod.map_fst, hbuild, h.noted_eq, h'.noted_eq, h.seen_eq, List.filterMap_append,
      Footnote.anchors_append]
  · rw [Prod.map_snd, id, h'.seen_eq, h.seen_eq, List.filterMap_append, List.foldl_append]

end Shows

/-- A reference with a number is shown as an anchor, which has an id if it is the first
one. -/
theorem shows_reference (references : References) (identifier : String) (label : Option String)
    (seen : List Nat) :
    Shows references seen [identifier]
      (match references.number? identifier with
      | some number =>
          if seen.contains number then ([Footnote.reference number false], seen)
          else ([Footnote.reference number true], number :: seen)
      | none => ([.text ("[^" ++ label.getD identifier ++ "]")], seen)) := by
  cases hnumber : references.number? identifier with
  | none => exact ⟨by simp [hnumber, Footnote.anchors], by simp [hnumber]⟩
  | some number =>
      by_cases hseen : number ∈ seen <;>
        exact ⟨by simp [hnumber, hseen, Footnote.anchors, noted_reference],
          by simp [hnumber, hseen, Footnote.noteSeen]⟩

namespace Construct

mutual

/-- **What a construct shows.** By induction on the constructs, one part for each of the
five conversions that call each other. -/
theorem shows_convert (references : References) (tight : Bool) :
    ∀ (construct : Construct) (seen : List Nat),
      Shows references seen construct.shown (construct.convert references tight seen)
  | .document children, seen => by
      rw [shown, convert]
      exact (shows_convertAll references false children seen).map (noted_root _)
  | .paragraph children, seen => by
      rw [shown, convert]
      refine (shows_convertAll references false children seen).map ?_
      split
      · rfl
      · exact noted_plain (by decide) _
  | .heading depth children, seen => by
      rw [shown, convert]
      exact (shows_convertAll references false children seen).map
        (noted_plain (headingTag_ne_section depth) _)
  | .quote children, seen | .emphasis children, seen | .strong children, seen
  | .strikethrough children, seen => by
      rw [shown, convert]
      exact (shows_convertAll references false children seen).map (noted_plain (by decide) _)
  | .link url title children, seen => by
      rw [shown, convert]
      exact (shows_convertAll references false children seen).map (noted_linkNode ⟨url, title⟩ _)
  | .list start spread children, seen => by
      rw [shown, convert]
      exact (shows_convertItems references _ children seen).map (noted_listNode start _ _)
  | .table columns children, seen => by
      rw [shown]
      cases children with
      | nil =>
          rw [convert]
          exact .nothing (noted_tableNode [] [])
      | cons first rows =>
          have hrows := fun seen => shows_convertRows references columns rows seen
          have hbody : Shows references seen (shownRows rows)
              ((convertRows references columns rows seen).map ([tableNode [] ·]) id) :=
            (hrows seen).map (noted_tableNode [] _)
          -- A first construct that is no row is left out of the table.
          cases first with
          | row cells =>
              have htag : "th" ≠ "section" := by decide
              rw [convert, shownRows]
              refine (shows_convertCells references htag columns cells seen).append (hrows _) ?_
              rw [noted_tableNode, noted_plain (by decide)]
          | _ => exact hbody
  | .linkReference identifier children, seen => by
      rw [shown, convert]
      refine (shows_convertAll references false children seen).map ?_
      split
      · exact noted_linkNode _ _
      · rfl
  | .imageReference identifier alt, seen => by
      rw [shown, convert]
      split
      · exact .nothing (noted_imageNode _ alt)
      · exact .nothing (noted_text alt [])
  | .footnoteReference identifier label, seen => by
      rw [shown, convert]
      exact shows_reference references identifier label seen
  | .component name children, seen => by
      rw [shown, convert]
      refine (shows_convertAll references false children seen).map ?_
      cases name with
      | none => rfl
      | some name => exact noted_foreign name _
  | .thematicBreak, seen | .codeSpan _, seen | .lineBreak, seen => by
      rw [shown, convert]
      exact .nothing (noted_plain (by decide) _)
  | .text value, seen => by
      rw [shown, convert]
      exact .nothing (noted_text value [])
  | .codeBlock language value, seen => by
      rw [shown, convert]
      exact .nothing (noted_codeNode language value)
  | .image url title alt, seen => by
      rw [shown, convert]
      exact .nothing (noted_imageNode ⟨url, title⟩ alt)
  | .item .., _ | .row _, _ | .cell _, _ | .definition .., _ | .footnoteDefinition .., _
  | .metadata _, _ | .expression _, _ => by
      rw [shown, convert]
      exact .nothing rfl

theorem shows_convertAll (references : References) (tight : Bool) :
    ∀ (constructs : List Construct) (seen : List Nat),
      Shows references seen (shownAll constructs) (convertAll references tight constructs seen)
  | [], _ => by
      rw [shownAll, convertAll]
      exact .nothing rfl
  | construct :: rest, seen => by
      rw [shownAll, convertAll]
      exact (shows_convert references tight construct seen).append
        (shows_convertAll references tight rest _) (noted_append _ _)

theorem shows_convertItems (references : References) (tight : Bool) :
    ∀ (constructs : List Construct) (seen : List Nat),
      Shows references seen (shownItems constructs)
        (convertItems references tight constructs seen)
  | [], _ => by
      rw [shownItems, convertItems]
      exact .nothing rfl
  | construct :: rest, seen => by
      have hrest := fun seen => shows_convertItems references tight rest seen
      cases construct with
      | item checked _ children =>
          rw [shownItems, convertItems]
          refine (shows_convertAll references tight children seen).append (hrest _) ?_
          rw [← List.singleton_append, noted_append, noted_itemNode]
      | _ => exact hrest seen

theorem shows_convertRows (references : References) (columns : List (Option Alignment)) :
    ∀ (constructs : List Construct) (seen : List Nat),
      Shows references seen (shownRows constructs)
        (convertRows references columns constructs seen)
  | [], _ => by
      rw [shownRows, convertRows]
      exact .nothing rfl
  | construct :: rest, seen => by
      have hrest := fun seen => shows_convertRows references columns rest seen
      cases construct with
      | row cells =>
          have htag : "td" ≠ "section" := by decide
          rw [shownRows, convertRows]
          refine (shows_convertCells references htag columns cells seen).append (hrest _) ?_
          rw [← List.singleton_append, noted_append, noted_plain (by decide)]
      | _ => exact hrest seen

theorem shows_convertCells (references : References) {tag : String} (htag : tag ≠ "section") :
    ∀ (columns : List (Option Alignment)) (constructs : List Construct) (seen : List Nat),
      Shows references seen (shownCells constructs)
        (convertCells references tag columns constructs seen)
  | _, [], _ => by
      rw [shownCells, convertCells]
      exact .nothing rfl
  | columns, construct :: rest, seen => by
      have hrest := fun seen => shows_convertCells references htag columns.tail rest seen
      cases construct with
      | cell children =>
          rw [shownCells, convertCells]
          refine (shows_convertAll references false children seen).append (hrest _) ?_
          rw [← List.singleton_append, noted_append, noted_cellNode htag]
      | _ => exact hrest seen

end

end Construct

end Markdown

end PostPress
