import PostPress.Markdown.Tree
import PostPress.Proofs.Collections.EraseDups

/-!
# PostPress.Proofs.Markdown.Spelling

**A reference without a footnote is text.** A document whose references to footnotes that
it does not define are replaced by texts with their labels (`Construct.spellOut`) becomes
the same tree (`toTree_spellOut`): it refers to the same footnotes in the same order, and
each construct is converted as before.
-/

namespace PostPress.Markdown

theorem lookup_map {α β : Type} (f : α → β) (pairs : List (String × α)) (name : String) :
    (pairs.map fun pair => (pair.1, f pair.2)).lookup name = (pairs.lookup name).map f := by
  induction pairs with
  | nil => rfl
  | cons pair rest ih =>
      rw [List.map_cons, List.lookup_cons, List.lookup_cons, ih]
      cases name == pair.1 <;> rfl

namespace Construct

/-! ### References as text -/

mutual

/-- A construct with every reference to a footnote replaced by a text with its label,
unless its identifier passes the test. -/
def spellOut (isNote : String → Bool) : Construct → Construct
  | .footnoteReference identifier label =>
      if isNote identifier then .footnoteReference identifier label
      else .text ("[^" ++ label.getD identifier ++ "]")
  | .document children => .document (spellOutAll isNote children)
  | .paragraph children => .paragraph (spellOutAll isNote children)
  | .heading depth children => .heading depth (spellOutAll isNote children)
  | .quote children => .quote (spellOutAll isNote children)
  | .list start spread children => .list start spread (spellOutAll isNote children)
  | .item checked spread children => .item checked spread (spellOutAll isNote children)
  | .table columns children => .table columns (spellOutAll isNote children)
  | .row children => .row (spellOutAll isNote children)
  | .cell children => .cell (spellOutAll isNote children)
  | .footnoteDefinition identifier children =>
      .footnoteDefinition identifier (spellOutAll isNote children)
  | .emphasis children => .emphasis (spellOutAll isNote children)
  | .strong children => .strong (spellOutAll isNote children)
  | .strikethrough children => .strikethrough (spellOutAll isNote children)
  | .link url title children => .link url title (spellOutAll isNote children)
  | .linkReference identifier children => .linkReference identifier (spellOutAll isNote children)
  | .component name children => .component name (spellOutAll isNote children)
  | .thematicBreak => .thematicBreak
  | .codeBlock language value => .codeBlock language value
  | .definition identifier url title => .definition identifier url title
  | .metadata value => .metadata value
  | .text value => .text value
  | .codeSpan value => .codeSpan value
  | .lineBreak => .lineBreak
  | .image url title alt => .image url title alt
  | .imageReference identifier alt => .imageReference identifier alt
  | .expression value => .expression value

/-- The constructs of a list with their references replaced. -/
def spellOutAll (isNote : String → Bool) : List Construct → List Construct
  | [] => []
  | construct :: rest => spellOut isNote construct :: spellOutAll isNote rest

end

variable (isNote : String → Bool)

theorem isTask_spellOut (construct : Construct) :
    isTask (construct.spellOut isNote) = isTask construct := by
  cases construct with
  | footnoteReference identifier label =>
      rw [spellOut]
      split <;> rfl
  | item checked spread children => cases checked <;> rfl
  | _ => rfl

theorem isSpreadItem_spellOut (construct : Construct) :
    isSpreadItem (construct.spellOut isNote) = isSpreadItem construct := by
  cases construct with
  | footnoteReference identifier label =>
      rw [spellOut]
      split <;> rfl
  | _ => rfl

/-- What is seen of single constructs only is seen of a list. -/
theorem any_spellOutAll {test : Construct → Bool}
    (htest : ∀ construct, test (spellOut isNote construct) = test construct)
    (constructs : List Construct) :
    (spellOutAll isNote constructs).any test = constructs.any test := by
  induction constructs with
  | nil => rfl
  | cons construct rest ih => rw [spellOutAll, List.any_cons, List.any_cons, htest, ih]

/-! ### What a document defines -/

/-- Whether a document has a footnote with an identifier. -/
def definesNote (construct : Construct) (identifier : String) : Bool :=
  (construct.notes.lookup identifier).isSome

mutual

theorem targets_spellOut : ∀ construct : Construct,
    (construct.spellOut isNote).targets = construct.targets
  | .footnoteReference identifier label => by
      rw [spellOut]
      split <;> rfl
  | .document children | .paragraph children | .heading _ children | .quote children
  | .list _ _ children | .item _ _ children | .table _ children | .row children | .cell children
  | .footnoteDefinition _ children | .emphasis children | .strong children
  | .strikethrough children | .link _ _ children | .linkReference _ children
  | .component _ children => targetsList_spellOutAll children
  | .thematicBreak | .codeBlock .. | .definition .. | .metadata _ | .text _ | .codeSpan _
  | .lineBreak | .image .. | .imageReference .. | .expression _ => rfl

theorem targetsList_spellOutAll : ∀ constructs : List Construct,
    targetsList (spellOutAll isNote constructs) = targetsList constructs
  | [] => rfl
  | construct :: rest => by
      rw [spellOutAll, targetsList, targetsList, targets_spellOut construct,
        targetsList_spellOutAll rest]

end

mutual

theorem notes_spellOut : ∀ construct : Construct,
    (construct.spellOut isNote).notes =
      construct.notes.map fun note => (note.1, spellOutAll isNote note.2)
  | .footnoteReference identifier label => by
      rw [spellOut]
      split <;> rfl
  | .footnoteDefinition identifier children =>
      congrArg (_ :: ·) (notesList_spellOutAll children)
  | .document children | .paragraph children | .heading _ children | .quote children
  | .list _ _ children | .item _ _ children | .table _ children | .row children | .cell children
  | .emphasis children | .strong children | .strikethrough children | .link _ _ children
  | .linkReference _ children | .component _ children => notesList_spellOutAll children
  | .thematicBreak | .codeBlock .. | .definition .. | .metadata _ | .text _ | .codeSpan _
  | .lineBreak | .image .. | .imageReference .. | .expression _ => rfl

theorem notesList_spellOutAll : ∀ constructs : List Construct,
    notesList (spellOutAll isNote constructs) =
      (notesList constructs).map fun note => (note.1, spellOutAll isNote note.2)
  | [] => rfl
  | construct :: rest => by
      rw [spellOutAll, notesList, notesList, notes_spellOut construct, notesList_spellOutAll rest,
        List.map_append]

end

mutual

theorem noteReferences_spellOut : ∀ construct : Construct,
    (construct.spellOut isNote).noteReferences = construct.noteReferences.filter isNote
  | .footnoteReference identifier label => by
      rw [spellOut, noteReferences, List.filter_cons]
      split <;> rfl
  | .document children | .paragraph children | .heading _ children | .quote children
  | .list _ _ children | .item _ _ children | .table _ children | .row children | .cell children
  | .footnoteDefinition _ children | .emphasis children | .strong children
  | .strikethrough children | .link _ _ children | .linkReference _ children
  | .component _ children => noteReferencesList_spellOutAll children
  | .thematicBreak | .codeBlock .. | .definition .. | .metadata _ | .text _ | .codeSpan _
  | .lineBreak | .image .. | .imageReference .. | .expression _ => rfl

theorem noteReferencesList_spellOutAll : ∀ constructs : List Construct,
    noteReferencesList (spellOutAll isNote constructs) =
      (noteReferencesList constructs).filter isNote
  | [] => rfl
  | construct :: rest => by
      rw [spellOutAll, noteReferencesList, noteReferencesList, noteReferences_spellOut construct,
        noteReferencesList_spellOutAll rest, List.filter_append]

end

/-! ### Conversion -/

/-- References of a document before and after: they lead to the same targets, and give the
same numbers, to footnotes that pass the test only. -/
structure SameTargets (references references' : References) : Prop where
  /-- The targets. -/
  targets_eq : references'.targets = references.targets
  /-- The order of the footnotes, which gives the numbers. -/
  order_eq : references'.order = references.order
  /-- Footnotes with a number pass the test. -/
  isNote_of_mem : ∀ identifier ∈ references.order, isNote identifier = true

theorem SameTargets.number?_eq {references references' : References}
    (h : SameTargets isNote references references') (identifier : String) :
    references'.number? identifier = references.number? identifier := by
  rw [References.number?, References.number?, h.order_eq]

/-- What does not pass the test has no number. -/
theorem SameTargets.number?_eq_none {references references' : References}
    (h : SameTargets isNote references references') {identifier : String}
    (hnot : ¬isNote identifier = true) : references.number? identifier = none := by
  rw [References.number?, Option.map_eq_none_iff, List.findIdx?_eq_none_iff]
  intro other hother
  rw [beq_eq_false_iff_ne]
  rintro rfl
  exact hnot (h.isNote_of_mem other hother)

variable {isNote} {references references' : References}

mutual

/-- **Spelling out changes no conversion**, one part for each of the five that call each
other. -/
theorem convert_spellOut (h : SameTargets isNote references references') (tight : Bool) :
    ∀ (construct : Construct) (seen : List Nat),
    (construct.spellOut isNote).convert references' tight seen =
      construct.convert references tight seen
  | .document children, seen | .paragraph children, seen | .heading _ children, seen
  | .quote children, seen | .emphasis children, seen | .strong children, seen
  | .strikethrough children, seen | .link _ _ children, seen | .component _ children, seen => by
      rw [spellOut, convert, convert, convertAll_spellOut h false children]
  | .linkReference identifier children, seen => by
      rw [spellOut, convert, convert, convertAll_spellOut h false children, h.targets_eq]
  | .imageReference identifier alt, seen => by
      rw [spellOut, convert, convert, h.targets_eq]
  | .list start spread children, seen => by
      rw [spellOut, convert, convert, any_spellOutAll isNote (isSpreadItem_spellOut isNote),
        any_spellOutAll isNote (isTask_spellOut isNote), convertItems_spellOut h _ children]
  | .table columns children, seen => by
      rw [spellOut]
      cases children with
      | nil => rw [spellOutAll, convert, convert]
      | cons first rows =>
          have hrows := fun seen => convertRows_spellOut h columns rows seen
          have hbody := congrArg (Prod.map ([tableNode [] ·]) id) (hrows seen)
          rw [spellOutAll]
          -- A reference in the place of the head is no row, before and after.
          cases first with
          | row cells =>
              rw [spellOut, convert, convert, convertCells_spellOut h "th" columns cells]
              simp only [hrows]
          | footnoteReference identifier label =>
              rw [spellOut]
              split <;> exact hbody
          | _ => exact hbody
  | .footnoteReference identifier label, seen => by
      rw [spellOut]
      split
      · rw [convert, convert, h.number?_eq]
      · next hnot => rw [convert, convert, h.number?_eq_none isNote hnot]
  | .thematicBreak, _ | .codeSpan _, _ | .lineBreak, _ | .text _, _ | .codeBlock .., _
  | .image .., _ | .item .., _ | .row _, _ | .cell _, _ | .definition .., _
  | .footnoteDefinition .., _ | .metadata _, _ | .expression _, _ => by
      rw [spellOut, convert, convert]

theorem convertAll_spellOut (h : SameTargets isNote references references') (tight : Bool) :
    ∀ (constructs : List Construct) (seen : List Nat),
    convertAll references' tight (spellOutAll isNote constructs) seen =
      convertAll references tight constructs seen
  | [], seen => by rw [spellOutAll, convertAll, convertAll]
  | construct :: rest, seen => by
      rw [spellOutAll, convertAll, convertAll, convert_spellOut h tight construct]
      simp only [convertAll_spellOut h tight rest]

theorem convertItems_spellOut (h : SameTargets isNote references references') (tight : Bool) :
    ∀ (constructs : List Construct) (seen : List Nat),
    convertItems references' tight (spellOutAll isNote constructs) seen =
      convertItems references tight constructs seen
  | [], seen => by rw [spellOutAll, convertItems, convertItems]
  | construct :: rest, seen => by
      have hrest := fun seen => convertItems_spellOut h tight rest seen
      rw [spellOutAll]
      cases construct with
      | item checked spread children =>
          rw [spellOut, convertItems, convertItems, convertAll_spellOut h tight children]
          simp only [hrest]
      | footnoteReference identifier label =>
          rw [spellOut]
          split <;> exact hrest seen
      | _ => exact hrest seen

theorem convertRows_spellOut (h : SameTargets isNote references references')
    (columns : List (Option Alignment)) :
    ∀ (constructs : List Construct) (seen : List Nat),
      convertRows references' columns (spellOutAll isNote constructs) seen =
        convertRows references columns constructs seen
  | [], seen => by rw [spellOutAll, convertRows, convertRows]
  | construct :: rest, seen => by
      have hrest := fun seen => convertRows_spellOut h columns rest seen
      rw [spellOutAll]
      cases construct with
      | row cells =>
          rw [spellOut, convertRows, convertRows, convertCells_spellOut h "td" columns cells]
          simp only [hrest]
      | footnoteReference identifier label =>
          rw [spellOut]
          split <;> exact hrest seen
      | _ => exact hrest seen

theorem convertCells_spellOut (h : SameTargets isNote references references')
    (tag : String) :
    ∀ (columns : List (Option Alignment)) (constructs : List Construct) (seen : List Nat),
      convertCells references' tag columns (spellOutAll isNote constructs) seen =
        convertCells references tag columns constructs seen
  | _, [], seen => by rw [spellOutAll, convertCells, convertCells]
  | columns, construct :: rest, seen => by
      have hrest := fun seen => convertCells_spellOut h tag columns.tail rest seen
      rw [spellOutAll]
      cases construct with
      | cell children =>
          rw [spellOut, convertCells, convertCells, convertAll_spellOut h false children]
          simp only [hrest]
      | footnoteReference identifier label =>
          rw [spellOut]
          split <;> exact hrest seen
      | _ => exact hrest seen

end

theorem convertNotes_spellOut (h : SameTargets isNote references references')
    (hnotes : ∀ identifier, references'.notes.lookup identifier =
      (references.notes.lookup identifier).map (spellOutAll isNote))
    (number : Nat) (identifiers : List String) (seen : List Nat) :
    convertNotes references' number identifiers seen =
      convertNotes references number identifiers seen := by
  induction identifiers generalizing number seen with
  | nil => rfl
  | cons identifier rest ih =>
      rw [convertNotes, convertNotes, hnotes]
      cases references.notes.lookup identifier with
      | none => exact ih (number + 1) seen
      | some content =>
          simp only [Option.map_some, convertAll_spellOut h false content, ih]

theorem sameTargets_spellOut (construct : Construct) :
    SameTargets construct.definesNote (.ofConstruct construct)
      (.ofConstruct (construct.spellOut construct.definesNote)) where
  targets_eq := targets_spellOut construct.definesNote construct
  order_eq := by
    have hdefines : ∀ identifier,
        ((construct.spellOut construct.definesNote).notes.lookup identifier).isSome =
          construct.definesNote identifier := fun identifier => by
      rw [notes_spellOut, lookup_map, Option.isSome_map, definesNote]
    simp only [References.ofConstruct, noteReferences_spellOut, eraseDups_filter, hdefines]
    rw [List.filter_filter]
    simp only [Bool.and_self]
    rfl
  isNote_of_mem identifier hmem := (List.mem_filter.1 hmem).2

/-- **References without a footnote are text.** -/
theorem toTree_spellOut (construct : Construct) :
    (construct.spellOut construct.definesNote).toTree = construct.toTree := by
  have hsame := sameTargets_spellOut construct
  have hnotes : ∀ identifier,
      (References.ofConstruct (construct.spellOut construct.definesNote)).notes.lookup identifier =
        ((References.ofConstruct construct).notes.lookup identifier).map
          (spellOutAll construct.definesNote) := fun identifier => by
    show (construct.spellOut construct.definesNote).notes.lookup identifier = _
    rw [notes_spellOut, lookup_map]
    rfl
  simp only [toTree, convert_spellOut hsame, convertNotes_spellOut hsame hnotes, hsame.order_eq]

end Construct

end PostPress.Markdown
