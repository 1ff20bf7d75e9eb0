import Mathlib.Data.List.Forall2
import PostPress.Proofs.Heading.Slugger
import PostPress.Proofs.Markdown.Shown
import PostPress.Proofs.Markdown.Spelling

/-!
# PostPress.Proofs.Markdown.Footnote

**Footnotes are numbered as they are referred to, and references and items agree.** The
footnotes of a document are those that are both referred to and defined, in the order of
their first references (`References.nodup_order`, `References.mem_order_iff`). Their items
stand in a section at the end (`items_convertNotes`), and every reference that is shown
leads to the item of its own identifier (`refers_anchors`). The ids of the items and of the
first references with their numbers are all different (`nodup_ids_anchors`).
-/

namespace PostPress

namespace Footnote

/-! ### Ids -/

theorem noteId_inj {a b : Nat} (h : noteId a = noteId b) : a = b :=
  have hnumbered : ∀ number, noteId number = Slugger.numbered "fn" number := fun _ => rfl
  Slugger.numbered_injective ((hnumbered a).symm.trans (h.trans (hnumbered b)))

theorem referenceId_inj {a b : Nat} (h : referenceId a = referenceId b) : a = b :=
  have hnumbered : ∀ number, referenceId number = Slugger.numbered "fnref" number := fun _ => rfl
  Slugger.numbered_injective ((hnumbered a).symm.trans (h.trans (hnumbered b)))

theorem noteId_ne_referenceId (a b : Nat) : noteId a ≠ referenceId b := by
  intro h
  have hchars := congrArg String.toList h
  rw [noteId, referenceId, String.toList_append, String.toList_append] at hchars
  exact absurd (List.cons.inj (List.cons.inj (List.cons.inj hchars).2).2).1 (by decide)

theorem mem_noteSeen {seen : List Nat} {number other : Nat} :
    other ∈ noteSeen seen number ↔ other ∈ number :: seen := by
  unfold noteSeen
  split
  · next hseen =>
      rw [List.mem_cons, or_iff_right_of_imp]
      rintro rfl
      exact List.contains_iff_mem.1 hseen
  · exact Iff.rfl

/-- The anchors of references have different ids, and none that an anchor had before. -/
theorem nodup_ids_anchors (seen numbers : List Nat) :
    (Node.ids (anchors seen numbers)).Nodup ∧
      ∀ id ∈ Node.ids (anchors seen numbers), ∃ number ∉ seen, id = referenceId number := by
  induction numbers generalizing seen with
  | nil => exact ⟨.nil, nofun⟩
  | cons number rest ih =>
      obtain ⟨hnodup, hids⟩ := ih (noteSeen seen number)
      -- Further anchors have ids of numbers that differ from this one, which is seen now.
      have hlater : ∀ id ∈ Node.ids (anchors (noteSeen seen number) rest),
          ∃ other ∉ number :: seen, id = referenceId other := by
        intro id hid
        obtain ⟨other, hother, rfl⟩ := hids id hid
        exact ⟨other, fun hmem => hother (mem_noteSeen.2 hmem), rfl⟩
      have hunseen : ∀ id ∈ Node.ids (anchors (noteSeen seen number) rest),
          ∃ other ∉ seen, id = referenceId other := by
        intro id hid
        obtain ⟨other, hother, rfl⟩ := hlater id hid
        exact ⟨other, fun hmem => hother (List.mem_cons_of_mem _ hmem), rfl⟩
      rw [anchors, Node.ids_cons, attr?_id_anchor]
      by_cases hseen : number ∈ seen
      · simpa [hseen] using And.intro hnodup hunseen
      · rw [if_pos (by simp [hseen])]
        refine ⟨List.nodup_cons.2 ⟨fun hmem => ?_, hnodup⟩, fun id hid => ?_⟩
        · obtain ⟨other, hother, hsame⟩ := hlater _ hmem
          exact hother (List.mem_cons.2 (.inl (referenceId_inj hsame).symm))
        · rcases List.mem_cons.1 hid with rfl | hid
          · exact ⟨number, hseen, rfl⟩
          · exact hunseen id hid

/-! ### Items -/

/-- A link stands at the end of some nodes: behind them, or in a paragraph that they end
with. -/
inductive EndsIn (link : Node) : List Node → List Node → Prop
  /-- Behind them. -/
  | behind (nodes : List Node) : EndsIn link nodes (nodes ++ [link])
  /-- In their last paragraph. -/
  | inParagraph (before : List Node) (attrs : Attributes) (inner : List Node) :
      EndsIn link (before ++ [.element "p" attrs inner])
        (before ++ [.element "p" attrs (inner ++ [.text " ", link])])

theorem endsIn_closeContent (number : Nat) (content : List Node) :
    EndsIn (backReference number) content (closeContent number content) := by
  induction content using closeContent.induct with
  | case1 => exact .behind []
  | case2 attrs children => exact .inParagraph [] attrs children
  | case3 node hnot =>
      rw [closeContent.eq_3 number node hnot]
      exact .behind [node]
  | case4 node rest hnot hrest ih =>
      rw [closeContent.eq_4 number node rest hnot hrest]
      generalize closeContent number rest = closed at ih
      cases ih with
      | behind => exact .behind (node :: rest)
      | inParagraph before attrs inner => exact .inParagraph (node :: before) attrs inner

theorem attr?_href_backReference (number : Nat) :
    (backReference number).attr? "href" = some ("#" ++ referenceId number) := by
  have hget : (backReference number).attributes.get? "href" =
      some (.text ("#" ++ referenceId number)) :=
    (NameMap.get?_ofList ..).trans rfl
  rw [Node.attr?, hget]
  rfl

theorem attr?_id_item (number : Nat) (content : List Node) :
    (item number content).attr? "id" = some (noteId number) := by
  have hget : (item number content).attributes.get? "id" = some (.text (noteId number)) :=
    NameMap.get?_insert_self ..
  rw [Node.attr?, hget]
  rfl

end Footnote

namespace Markdown

/-! ### The order of footnotes -/

namespace References

/-- A number is a place in the order, counted from one. -/
theorem exists_of_number? {references : References} {identifier : String} {number : Nat}
    (h : references.number? identifier = some number) :
    ∃ i, references.order[i]? = some identifier ∧ number = i + 1 := by
  obtain ⟨i, hfound, rfl⟩ := Option.map_eq_some_iff.1 h
  obtain ⟨hlt, hsame, -⟩ := List.findIdx?_eq_some_iff_getElem.1 hfound
  exact ⟨i, List.getElem?_eq_some_iff.2 ⟨hlt, beq_iff_eq.1 hsame⟩, rfl⟩

theorem isSome_number? (references : References) (identifier : String) :
    (references.number? identifier).isSome = references.order.contains identifier := by
  rw [number?, Option.isSome_map, List.findIdx?_isSome, List.contains_eq_any_beq]
  exact congrArg references.order.any (funext fun other => Bool.beq_comm)

/-- No footnote is counted twice. -/
theorem nodup_order (construct : Construct) : (ofConstruct construct).order.Nodup :=
  (nodup_eraseDups construct.noteReferences).filter _

/-- Footnotes are both referred to and defined. -/
theorem mem_order_iff {construct : Construct} {identifier : String} :
    identifier ∈ (ofConstruct construct).order ↔
      identifier ∈ construct.noteReferences ∧ construct.definesNote identifier = true := by
  rw [ofConstruct, List.mem_filter, List.mem_eraseDups, Construct.definesNote]

/-- What is referred to has a number if it is defined. -/
theorem isSome_number?_ofConstruct {construct : Construct} {identifier : String}
    (h : identifier ∈ construct.noteReferences) :
    ((ofConstruct construct).number? identifier).isSome = construct.definesNote identifier := by
  rw [isSome_number?, Bool.eq_iff_iff, List.contains_iff_mem, mem_order_iff]
  exact and_iff_right h

end References

/-! ### References -/

/-- Whether a node is marked as a reference to a footnote. -/
def isReference (node : Node) : Bool := node.attributes.contains Footnote.referenceMark

/-- A node is a reference to the footnote with an identifier: it leads to the item at its
place in the order, and shows its number, which is counted from one. -/
structure Refers (order : List String) (node : Node) (identifier : String) : Prop where
  /-- It is an anchor. -/
  isAnchor : node.isElement "a" = true
  /-- It leads to the item, and shows its number. -/
  number : ∃ i, order[i]? = some identifier ∧
    node.attr? "href" = some ("#" ++ Footnote.noteId (i + 1)) ∧ node.textContent = (i + 1).repr

/-- Of the references that are shown, those to footnotes become anchors that lead to
them. -/
theorem refers_anchors (references : References) (identifiers : List String) (seen : List Nat) :
    List.Forall₂ (Refers references.order)
      (Footnote.anchors seen (identifiers.filterMap references.number?))
      (identifiers.filter fun identifier => (references.number? identifier).isSome) := by
  induction identifiers generalizing seen with
  | nil => exact .nil
  | cons identifier rest ih =>
      cases hnumber : references.number? identifier with
      | none =>
          rw [List.filterMap_cons_none hnumber, List.filter_cons_of_neg (by simp [hnumber])]
          exact ih seen
      | some number =>
          obtain ⟨i, hi, rfl⟩ := References.exists_of_number? hnumber
          rw [List.filterMap_cons_some hnumber, List.filter_cons_of_pos (by simp [hnumber])]
          refine .cons ⟨rfl, i, hi, ?_, ?_⟩ (ih _)
          · exact Footnote.attr?_href_anchor ..
          · exact Footnote.textContent_anchor ..

theorem isReference_of_mem_anchors {seen numbers : List Nat} {node : Node}
    (h : node ∈ Footnote.anchors seen numbers) :
    isReference node = true ∧ node.isElement "a" = true := by
  induction numbers generalizing seen with
  | nil => exact absurd h List.not_mem_nil
  | cons number rest ih =>
      rcases List.mem_cons.1 h with rfl | h
      · exact ⟨Footnote.contains_mark_anchor .., rfl⟩
      · exact ih h

/-! ### The section -/

theorem noted_backReference (number : Nat) : noted [Footnote.backReference number] = [] := by
  have hhref : Unnoted "a" (.ofList [("href", .text ("#" ++ Footnote.referenceId number))]) :=
    .single (by decide) (by decide) (by decide) _
  have hlabel : "aria-label" ≠ "id" ∧ "aria-label" ≠ Footnote.referenceMark := by decide
  have hmark : Footnote.backReferenceMark ≠ "id" ∧
      Footnote.backReferenceMark ≠ Footnote.referenceMark := by decide
  exact ((hhref.insert hlabel.1 hlabel.2 _).insert hmark.1 hmark.2 _).noted_element _

/-- A link back shows no reference. If the last paragraph has to do with footnotes only by
what is in it, it does so with the link too. -/
theorem noted_closeContent (number : Nat) {content : List Node}
    (h : ∀ node ∈ noted content, node.isElement "a" = true) :
    noted (Footnote.closeContent number content) = noted content := by
  have hends := Footnote.endsIn_closeContent number content
  generalize Footnote.closeContent number content = closed at hends
  cases hends with
  | behind => rw [noted_append, noted_backReference, List.append_nil]
  | inParagraph before attrs inner =>
      -- If the paragraph itself were noted, an anchor would be a paragraph.
      have hparagraph : isNoted (.element "p" attrs inner) = false := by
        refine Bool.eq_false_iff.2 fun hnoted => ?_
        have hmem : Node.element "p" attrs inner ∈ noted [.element "p" attrs inner] := by
          rw [noted_cons, if_pos hnoted]
          exact List.mem_cons_self
        have hanchor := h _ (noted_append .. ▸ List.mem_append_right _ hmem)
        exact absurd (beq_iff_eq.1 hanchor) (by simp [Node.tag?])
      have hlonger : isNoted (.element "p" attrs (inner ++ [.text " ", Footnote.backReference number]))
          = false := hparagraph
      rw [noted_append, noted_append, noted_of_not_noted hparagraph, noted_of_not_noted hlonger,
        Node.children, Node.children, noted_append, noted_text, noted_backReference,
        List.append_nil]

theorem noted_item (number : Nat) {content : List Node}
    (h : ∀ node ∈ noted content, node.isElement "a" = true) :
    noted [Footnote.item number content] = Footnote.item number content :: noted content := by
  have hitem : isNoted (Footnote.item number content) = true := by
    rw [isNoted, Footnote.attr?_id_item]
    simp
  rw [noted_cons, if_pos hitem, ← noted_closeContent number h]
  exact List.append_nil _

theorem isReference_item (number : Nat) (content : List Node) :
    isReference (Footnote.item number content) = false := by
  have hget : (Footnote.item number content).attributes.get? Footnote.referenceMark = none :=
    (NameMap.get?_insert ..).trans rfl
  rw [isReference, NameMap.contains, hget]
  rfl

/-- The identifiers of the references that the footnote with an identifier shows. -/
def References.shownIn (references : References) (identifier : String) : List String :=
  match references.notes.lookup identifier with
  | some content => Construct.shownAll content
  | none => []

namespace Construct

/-- In the section, the references are those that the footnotes show, and all else that
has to do with footnotes are its items. -/
theorem noted_convertNotes (references : References) (number : Nat) (identifiers : List String)
    (seen : List Nat) :
    (noted (convertNotes references number identifiers seen)).filter isReference =
        Footnote.anchors seen
          ((identifiers.flatMap references.shownIn).filterMap references.number?) ∧
      (noted (convertNotes references number identifiers seen)).filter (!isReference ·) =
        convertNotes references number identifiers seen := by
  induction identifiers generalizing number seen with
  | nil => exact ⟨rfl, rfl⟩
  | cons identifier rest ih =>
      rw [convertNotes, List.flatMap_cons, References.shownIn]
      cases references.notes.lookup identifier with
      | none => exact ih (number + 1) seen
      | some content =>
          obtain ⟨hnoted, hseen⟩ := shows_convertAll references false content seen
          obtain ⟨hrest, hitems⟩ :=
            ih (number + 1) (convertAll references false content seen).2
          have hanchors := fun node (h : node ∈ noted (convertAll references false content seen).1) =>
            isReference_of_mem_anchors (hnoted ▸ h)
          have hitem := isReference_item number (convertAll references false content seen).1
          have hnone : (noted (convertAll references false content seen).1).filter
              (!isReference ·) = [] :=
            List.filter_eq_nil_iff.2 fun node hnode => by simp [(hanchors node hnode).1]
          simp only
          rw [← List.singleton_append, noted_append,
            noted_item number fun node hnode => (hanchors node hnode).2, List.filter_append,
            List.filter_append, hrest, hitems]
          constructor
          · rw [List.filter_cons_of_neg (by simp [hitem]),
              List.filter_eq_self.2 fun node hnode => (hanchors node hnode).1, hnoted, hseen,
              List.filterMap_append, Footnote.anchors_append]
          · rw [List.filter_cons_of_pos (by simp [hitem]), hnone]

theorem isElement_of_mem_convertNotes {references : References} {number : Nat}
    {identifiers : List String} {seen : List Nat} {node : Node}
    (h : node ∈ convertNotes references number identifiers seen) : node.isElement "li" = true := by
  induction identifiers generalizing number seen with
  | nil => exact absurd h List.not_mem_nil
  | cons identifier rest ih =>
      rw [convertNotes] at h
      split at h
      · rcases List.mem_cons.1 h with rfl | h
        · rfl
        · exact ih h
      · exact ih h

/-- The items have different ids. -/
theorem nodup_ids_convertNotes (references : References) (number : Nat)
    (identifiers : List String) (seen : List Nat) :
    (Node.ids (convertNotes references number identifiers seen)).Nodup ∧
      ∀ id ∈ Node.ids (convertNotes references number identifiers seen),
        ∃ n, number ≤ n ∧ id = Footnote.noteId n := by
  induction identifiers generalizing number seen with
  | nil => exact ⟨.nil, nofun⟩
  | cons identifier rest ih =>
      rw [convertNotes]
      have hmore : ∀ {seen : List Nat}, ∀ id ∈ Node.ids (convertNotes references (number + 1) rest seen),
          ∃ n, number ≤ n ∧ id = Footnote.noteId n := by
        intro seen id hid
        obtain ⟨n, hn, rfl⟩ := (ih (number + 1) seen).2 id hid
        exact ⟨n, Nat.le_of_succ_le hn, rfl⟩
      split
      · simp only [Node.ids_cons, Footnote.attr?_id_item, Option.toList_some, List.singleton_append]
        refine ⟨List.nodup_cons.2 ⟨fun hmem => ?_, (ih ..).1⟩, fun id hid => ?_⟩
        · obtain ⟨n, hn, hsame⟩ := (ih ..).2 _ hmem
          exact absurd (Footnote.noteId_inj hsame) (Nat.ne_of_lt hn)
        · rcases List.mem_cons.1 hid with rfl | hid
          · exact ⟨number, Nat.le_refl _, rfl⟩
          · exact hmore id hid
      · exact ⟨(ih ..).1, hmore⟩

end Construct

/-- An item of the section: it has the id of its number, and holds what its footnote says
when it is first defined, with a link back to the reference. -/
structure IsItem (references : References) (number : Nat) (identifier : String) (item : Node) :
    Prop where
  /-- It is an item. -/
  isItem : item.isElement "li" = true
  /-- It has the id of its number. -/
  id_eq : item.attr? "id" = some (Footnote.noteId number)
  /-- It holds the footnote, and ends in a link. -/
  content : ∃ content seen link, references.notes.lookup identifier = some content ∧
    link.isElement "a" = true ∧ link.attr? "href" = some ("#" ++ Footnote.referenceId number) ∧
    Footnote.EndsIn link (Construct.convertAll references false content seen).1 item.children

/-- The items are those of the footnotes, numbered one after the other. -/
theorem isItem_convertNotes {references : References} {identifiers : List String}
    (h : ∀ identifier ∈ identifiers, (references.notes.lookup identifier).isSome = true)
    (number : Nat) (seen : List Nat) :
    List.Forall₂ (fun entry item => IsItem references entry.2 entry.1 item)
      (identifiers.zipIdx number) (Construct.convertNotes references number identifiers seen) := by
  induction identifiers generalizing number seen with
  | nil => exact .nil
  | cons identifier rest ih =>
      obtain ⟨content, hcontent⟩ := Option.isSome_iff_exists.1 (h identifier List.mem_cons_self)
      have hrest := ih fun other hother => h other (List.mem_cons_of_mem _ hother)
      rw [Construct.convertNotes, hcontent, List.zipIdx_cons]
      refine .cons ⟨rfl, Footnote.attr?_id_item .., ?_⟩ (hrest _ _)
      exact ⟨content, seen, Footnote.backReference number, hcontent, rfl,
        Footnote.attr?_href_backReference number, Footnote.endsIn_closeContent ..⟩

namespace Construct

/-! ### References that are shown are references -/

mutual

theorem noteReferences_of_shown : ∀ {construct : Construct} {identifier : String},
    identifier ∈ construct.shown → identifier ∈ construct.noteReferences
  | .footnoteReference _ _, _, h => h
  | .document _, _, h | .paragraph _, _, h | .heading _ _, _, h | .quote _, _, h
  | .emphasis _, _, h | .strong _, _, h | .strikethrough _, _, h | .link .., _, h
  | .linkReference .., _, h | .component .., _, h => noteReferences_of_shownAll h
  | .list .., _, h => noteReferences_of_shownItems h
  | .table .., _, h => noteReferences_of_shownRows h
  | .item .., _, h | .row _, _, h | .cell _, _, h | .footnoteDefinition .., _, h
  | .thematicBreak, _, h | .codeBlock .., _, h | .definition .., _, h | .metadata _, _, h
  | .text _, _, h | .codeSpan _, _, h | .lineBreak, _, h | .image .., _, h
  | .imageReference .., _, h | .expression _, _, h => absurd h List.not_mem_nil

theorem noteReferences_of_shownAll : ∀ {constructs : List Construct} {identifier : String},
    identifier ∈ shownAll constructs → identifier ∈ noteReferencesList constructs
  | [], _, h => absurd h List.not_mem_nil
  | _ :: _, _, h =>
      List.mem_append.2 ((List.mem_append.1 h).imp noteReferences_of_shown
        noteReferences_of_shownAll)

theorem noteReferences_of_shownItems : ∀ {constructs : List Construct} {identifier : String},
    identifier ∈ shownItems constructs → identifier ∈ noteReferencesList constructs
  | [], _, h => absurd h List.not_mem_nil
  | construct :: rest, _, h => by
      rw [noteReferencesList, List.mem_append]
      cases construct with
      | item _ _ children =>
          exact (List.mem_append.1 h).imp noteReferences_of_shownAll noteReferences_of_shownItems
      | _ => exact .inr (noteReferences_of_shownItems h)

theorem noteReferences_of_shownRows : ∀ {constructs : List Construct} {identifier : String},
    identifier ∈ shownRows constructs → identifier ∈ noteReferencesList constructs
  | [], _, h => absurd h List.not_mem_nil
  | construct :: rest, _, h => by
      rw [noteReferencesList, List.mem_append]
      cases construct with
      | row cells =>
          exact (List.mem_append.1 h).imp noteReferences_of_shownCells noteReferences_of_shownRows
      | _ => exact .inr (noteReferences_of_shownRows h)

theorem noteReferences_of_shownCells : ∀ {constructs : List Construct} {identifier : String},
    identifier ∈ shownCells constructs → identifier ∈ noteReferencesList constructs
  | [], _, h => absurd h List.not_mem_nil
  | construct :: rest, _, h => by
      rw [noteReferencesList, List.mem_append]
      cases construct with
      | cell children =>
          exact (List.mem_append.1 h).imp noteReferences_of_shownAll noteReferences_of_shownCells
      | _ => exact .inr (noteReferences_of_shownCells h)

end

mutual

/-- What a footnote refers to is a part of what the construct that defines it refers to. -/
theorem noteReferences_of_mem_notes : ∀ {construct : Construct} {identifier reference : String}
    {content : List Construct}, (identifier, content) ∈ construct.notes →
      reference ∈ noteReferencesList content → reference ∈ construct.noteReferences
  | .footnoteDefinition _ children, identifier, reference, content, h, hreference => by
      rcases List.mem_cons.1 h with h | h
      · obtain ⟨-, rfl⟩ := Prod.mk.inj h
        exact hreference
      · exact noteReferences_of_mem_notesList h hreference
  | .document _, _, _, _, h, hr | .paragraph _, _, _, _, h, hr | .heading _ _, _, _, _, h, hr
  | .quote _, _, _, _, h, hr | .list .., _, _, _, h, hr | .item .., _, _, _, h, hr
  | .table .., _, _, _, h, hr | .row _, _, _, _, h, hr | .cell _, _, _, _, h, hr
  | .emphasis _, _, _, _, h, hr | .strong _, _, _, _, h, hr | .strikethrough _, _, _, _, h, hr
  | .link .., _, _, _, h, hr | .linkReference .., _, _, _, h, hr
  | .component .., _, _, _, h, hr => noteReferences_of_mem_notesList h hr
  | .thematicBreak, _, _, _, h, _ | .codeBlock .., _, _, _, h, _ | .definition .., _, _, _, h, _
  | .metadata _, _, _, _, h, _ | .text _, _, _, _, h, _ | .codeSpan _, _, _, _, h, _
  | .lineBreak, _, _, _, h, _ | .image .., _, _, _, h, _ | .imageReference .., _, _, _, h, _
  | .footnoteReference .., _, _, _, h, _ | .expression _, _, _, _, h, _ =>
      absurd h List.not_mem_nil

theorem noteReferences_of_mem_notesList : ∀ {constructs : List Construct}
    {identifier reference : String} {content : List Construct},
    (identifier, content) ∈ notesList constructs → reference ∈ noteReferencesList content →
      reference ∈ noteReferencesList constructs
  | [], _, _, _, h, _ => absurd h List.not_mem_nil
  | _ :: _, _, _, _, h, hr =>
      List.mem_append.2 ((List.mem_append.1 h).imp (noteReferences_of_mem_notes · hr)
        (noteReferences_of_mem_notesList · hr))

end

theorem noteReferences_of_shownIn {construct : Construct} {identifier reference : String}
    (h : reference ∈ (References.ofConstruct construct).shownIn identifier) :
    reference ∈ construct.noteReferences := by
  unfold References.shownIn at h
  split at h
  · next content hlookup =>
      have hmem : (identifier, content) ∈ (References.ofConstruct construct).notes :=
        NameMap.mem_of_lookup_eq_some hlookup
      exact noteReferences_of_mem_notes hmem (noteReferences_of_shownAll h)
  · exact absurd h List.not_mem_nil

/-! ### The tree of a document -/

/-- The body shows the last ones of the references. -/
theorem noted_bodyNodes (nodes : List Node) : noted (bodyNodes nodes) <:+ noted nodes := by
  induction nodes using bodyNodes.induct with
  | case1 => exact List.suffix_rfl
  | case2 children => exact ⟨[], (noted_root children).symm⟩
  | case3 node hnot => exact ⟨[], congrArg noted (bodyNodes.eq_3 node hnot)⟩
  | case4 node rest hroot hnot ih =>
      rw [bodyNodes.eq_4 node rest hroot hnot, noted_cons]
      exact ih.trans (List.suffix_append ..)

variable (construct : Construct)

/-- The nodes of a document before its section. -/
def body : List Node := bodyNodes (construct.convert (.ofConstruct construct) false []).1

/-- The items of its section. -/
def noteItems : List Node :=
  convertNotes (.ofConstruct construct) 1 (References.ofConstruct construct).order
    (construct.convert (.ofConstruct construct) false []).2

/-- Its section, if it has footnotes. -/
def closing : List Node :=
  if (References.ofConstruct construct).order.isEmpty then []
  else [Footnote.sectionOf construct.noteItems]

theorem toTree_eq : construct.toTree = .root (construct.body ++ construct.closing) := rfl

theorem noted_closing :
    noted construct.closing = construct.closing ++ noted construct.noteItems := by
  unfold closing
  split
  · next hempty =>
      rw [noteItems, List.isEmpty_iff.1 hempty]
      rfl
  · have hsection : isNoted (Footnote.sectionOf construct.noteItems) = true := rfl
    rw [noted_cons, if_pos hsection]
    refine (List.append_nil _).trans ?_
    exact congrArg ([Footnote.sectionOf construct.noteItems] ++ ·) (noted_plain (by decide) _)

theorem noted_toTree :
    noted [construct.toTree] =
      noted construct.body ++ (construct.closing ++ noted construct.noteItems) := by
  rw [toTree_eq, noted_root, noted_append, noted_closing]

theorem isReference_of_mem_body {node : Node} (h : node ∈ noted construct.body) :
    isReference node = true ∧ node.isElement "a" = true := by
  have hshows := shows_convert (.ofConstruct construct) false construct []
  have hmem := (noted_bodyNodes _).subset h
  rw [hshows.noted_eq] at hmem
  exact isReference_of_mem_anchors hmem

theorem filter_closing :
    construct.closing.filter isReference = [] ∧
      construct.closing.filter (!isReference ·) = construct.closing := by
  unfold closing
  split
  · exact ⟨rfl, rfl⟩
  · exact ⟨rfl, rfl⟩

/-- The references of a document are those of its body and of its items. -/
theorem references_toTree :
    (noted [construct.toTree]).filter isReference =
      noted construct.body ++ (noted construct.noteItems).filter isReference := by
  rw [noted_toTree, List.filter_append, List.filter_append, (filter_closing construct).1,
    List.nil_append, List.filter_eq_self.2 fun _ h => (isReference_of_mem_body construct h).1]

/-- All else that has to do with footnotes are the section and its items. -/
theorem others_toTree :
    (noted [construct.toTree]).filter (!isReference ·) =
      construct.closing ++ construct.noteItems := by
  have hbody : (noted construct.body).filter (!isReference ·) = [] :=
    List.filter_eq_nil_iff.2 fun _ h => by simp [(isReference_of_mem_body construct h).1]
  rw [noted_toTree, List.filter_append, List.filter_append, (filter_closing construct).2, hbody,
    noteItems, (noted_convertNotes ..).2]
  rfl

/-- The body of a document shows all that is converted. -/
theorem noted_body_document (children : List Construct) :
    noted (body (.document children)) =
      noted (convert (.ofConstruct (.document children)) false (.document children) []).1 := by
  rw [body, convert, Prod.map_fst, bodyNodes, noted_root]

/-- The references that a document shows in its body. -/
theorem refers_body : ∃ shown, shown <:+ construct.shown.filter construct.definesNote ∧
    (∀ children, construct = .document children →
      shown = construct.shown.filter construct.definesNote) ∧
    List.Forall₂ (Refers (References.ofConstruct construct).order) (noted construct.body) shown := by
  have hshows := (shows_convert (.ofConstruct construct) false construct []).noted_eq
  have hrefers := refers_anchors (.ofConstruct construct) construct.shown []
  have hdefined : (construct.shown.filter fun identifier =>
      ((References.ofConstruct construct).number? identifier).isSome) =
        construct.shown.filter construct.definesNote :=
    List.filter_congr fun _ h => References.isSome_number?_ofConstruct (noteReferences_of_shown h)
  rw [← hshows, hdefined] at hrefers
  -- What the body leaves out of the conversion is at the front, so as many references are.
  generalize hdropped : (noted (construct.convert (.ofConstruct construct) false []).1).length -
    (noted construct.body).length = dropped
  have hbody := List.suffix_iff_eq_drop.1
    (noted_bodyNodes (construct.convert (.ofConstruct construct) false []).1)
  refine ⟨_, List.drop_suffix dropped _, ?_, ?_⟩
  · rintro children rfl
    rw [← hdropped, noted_body_document, Nat.sub_self, List.drop_zero]
  · rw [body, hbody]
    exact hdropped ▸ List.forall₂_drop _ hrefers

/-- The references that the footnotes of a document show. -/
theorem refers_noteItems :
    List.Forall₂ (Refers (References.ofConstruct construct).order)
      ((noted construct.noteItems).filter isReference)
      (((References.ofConstruct construct).order.flatMap
        (References.ofConstruct construct).shownIn).filter construct.definesNote) := by
  have hdefined : (((References.ofConstruct construct).order.flatMap
        (References.ofConstruct construct).shownIn).filter fun identifier =>
          ((References.ofConstruct construct).number? identifier).isSome) =
      ((References.ofConstruct construct).order.flatMap
        (References.ofConstruct construct).shownIn).filter construct.definesNote := by
    refine List.filter_congr fun identifier h => References.isSome_number?_ofConstruct ?_
    obtain ⟨note, -, hshown⟩ := List.mem_flatMap.1 h
    exact noteReferences_of_shownIn hshown
  rw [noteItems, (noted_convertNotes ..).1, ← hdefined]
  exact refers_anchors ..

/-- The numbers of the references that a document has to show, first those of its body, then
those of its items. -/
def referenceNumbers : List Nat :=
  (construct.shown ++ (References.ofConstruct construct).order.flatMap
    (References.ofConstruct construct).shownIn).filterMap (References.ofConstruct construct).number?

/-- The references of a document are some of the anchors for these numbers. -/
theorem references_sublist : ((noted [construct.toTree]).filter isReference).Sublist
    (Footnote.anchors [] construct.referenceNumbers) := by
  have hshows := shows_convert (.ofConstruct construct) false construct []
  rw [references_toTree, noteItems, (noted_convertNotes ..).1, referenceNumbers,
    List.filterMap_append, Footnote.anchors_append, hshows.seen_eq, ← hshows.noted_eq]
  exact (noted_bodyNodes _).sublist.append_right _

/-- So they have different ids. -/
theorem nodup_ids_references :
    (Node.ids ((noted [construct.toTree]).filter isReference)).Nodup ∧
      ∀ id ∈ Node.ids ((noted [construct.toTree]).filter isReference),
        ∃ number, id = Footnote.referenceId number := by
  have hsub := construct.references_sublist.filterMap (·.attr? "id")
  obtain ⟨hnodup, hids⟩ := Footnote.nodup_ids_anchors [] construct.referenceNumbers
  refine ⟨hnodup.sublist hsub, fun id hid => ?_⟩
  obtain ⟨number, -, rfl⟩ := hids id (hsub.subset hid)
  exact ⟨number, rfl⟩

/-- The ids of a document are those of its references and of its items. -/
theorem ids_toTree_perm :
    List.Perm (Node.ids ((noted [construct.toTree]).filter isReference) ++
      Node.ids construct.noteItems) (Node.ids construct.toTree.nodes) := by
  have hperm := (List.filter_append_perm isReference (noted [construct.toTree])).filterMap
    (·.attr? "id")
  have hclosing : construct.closing.filterMap (·.attr? "id") = [] := by
    unfold closing
    split <;> rfl
  rw [List.filterMap_append, others_toTree, List.filterMap_append, hclosing, List.nil_append]
    at hperm
  rw [← Node.nodesList_singleton, ← ids_noted]
  exact hperm

theorem exists_of_mem_ids_noteItems {id : String} (h : id ∈ Node.ids construct.noteItems) :
    ∃ number, id = Footnote.noteId number := by
  obtain ⟨number, -, hid⟩ := (nodup_ids_convertNotes ..).2 id h
  exact ⟨number, hid⟩

/-- **No id is given twice.** -/
theorem nodup_ids_toTree : (Node.ids construct.toTree.nodes).Nodup := by
  obtain ⟨hreferences, hreferenceIds⟩ := nodup_ids_references construct
  have hitems : (Node.ids construct.noteItems).Nodup := (nodup_ids_convertNotes ..).1
  refine construct.ids_toTree_perm.nodup_iff.1
    (List.nodup_append.2 ⟨hreferences, hitems, fun a ha b hb => ?_⟩)
  obtain ⟨number, rfl⟩ := hreferenceIds a ha
  obtain ⟨other, rfl⟩ := exists_of_mem_ids_noteItems construct hb
  exact (Footnote.noteId_ne_referenceId other number).symm

/-- What is marked as a reference is an anchor. -/
theorem isElement_of_isReference {node : Node} (h : node ∈ noted [construct.toTree])
    (hreference : isReference node = true) : node.isElement "a" = true :=
  (isReference_of_mem_anchors
    (construct.references_sublist.subset (List.mem_filter.2 ⟨h, hreference⟩))).2

/-- The only section of a document is that of its footnotes. -/
theorem sections_toTree :
    construct.toTree.nodes.filter (·.isElement "section") = construct.closing := by
  have hnoted : ∀ node : Node, node.isElement "section" = true → isNoted node = true :=
    fun node h => by rw [isNoted, h]; rfl
  have hclosing : construct.closing.filter (·.isElement "section") = construct.closing := by
    unfold closing
    split <;> rfl
  have hitems : construct.noteItems.filter (·.isElement "section") = [] :=
    List.filter_eq_nil_iff.2 fun node hnode hsection =>
      absurd (Node.tag_unique (isElement_of_mem_convertNotes hnode) hsection) (by decide)
  -- A section is no anchor, so it is not among the references.
  have hothers : (noted [construct.toTree]).filter (·.isElement "section") =
      ((noted [construct.toTree]).filter (!isReference ·)).filter (·.isElement "section") := by
    rw [List.filter_filter]
    refine List.filter_congr fun node hnode => ?_
    cases hsection : node.isElement "section" with
    | false => rfl
    | true =>
        cases hreference : isReference node with
        | false => rfl
        | true =>
            have hanchor := isElement_of_isReference construct hnode hreference
            exact absurd (Node.tag_unique hanchor hsection) (by decide)
  rw [← Node.nodesList_singleton, ← filter_noted hnoted, hothers, others_toTree,
    List.filter_append, hclosing, hitems, List.append_nil]

end Construct

/-- **Footnotes.** A source has a footnote for each identifier that it both refers to and
defines. If there are any, a section with their items is the last node of the tree, and its
only section. The items are numbered by their ids, and each holds what the first definition
of its identifier says, and ends in a link back. One after the other, the references in the
tree lead to the items of their own identifiers and show their numbers; none is missing in
the body, unless the top of the source is no document. No id is given twice. References
without a definition are text. -/
theorem toTree_footnotes (construct : Construct) :
    let references := References.ofConstruct construct
    (references.order.Nodup ∧ ∀ identifier, identifier ∈ references.order ↔
      identifier ∈ construct.noteReferences ∧ construct.definesNote identifier = true) ∧
    (∃ body items,
      construct.toTree = .root (body ++
        if references.order.isEmpty then [] else [Footnote.sectionOf items]) ∧
      construct.toTree.nodes.filter (·.isElement "section") =
        (if references.order.isEmpty then [] else [Footnote.sectionOf items]) ∧
      List.Forall₂ (fun entry item => IsItem references entry.2 entry.1 item)
        (references.order.zipIdx 1) items) ∧
    (∃ shown, shown <:+ construct.shown.filter construct.definesNote ∧
      (∀ children, construct = .document children →
        shown = construct.shown.filter construct.definesNote) ∧
      List.Forall₂ (Refers references.order) (construct.toTree.nodes.filter isReference)
        (shown ++ (references.order.flatMap references.shownIn).filter construct.definesNote)) ∧
    (Node.ids construct.toTree.nodes).Nodup ∧
    (construct.spellOut construct.definesNote).toTree = construct.toTree := by
  intro references
  have hdefined : ∀ identifier ∈ references.order,
      (references.notes.lookup identifier).isSome = true :=
    fun _ h => (References.mem_order_iff.1 h).2
  obtain ⟨shown, hsuffix, hdocument, hbody⟩ := construct.refers_body
  have hreferences : construct.toTree.nodes.filter isReference =
      noted construct.body ++ (noted construct.noteItems).filter isReference := by
    have hnoted : ∀ node, isReference node = true → isNoted node = true := fun node h => by
      rw [isNoted, ← isReference, h, Bool.or_true]
    rw [← Construct.references_toTree, filter_noted hnoted, Node.nodesList_singleton]
  refine ⟨⟨References.nodup_order construct, fun _ => References.mem_order_iff⟩,
    ⟨construct.body, construct.noteItems, construct.toTree_eq, construct.sections_toTree,
      isItem_convertNotes hdefined 1 _⟩,
    ⟨shown, hsuffix, hdocument, ?_⟩, construct.nodup_ids_toTree, construct.toTree_spellOut⟩
  rw [hreferences]
  exact List.rel_append hbody construct.refers_noteItems

/-- Two footnotes, one of which refers to the other and is defined twice, and a reference
to none. -/
example :
    let reference (identifier : String) : Construct := .footnoteReference identifier none
    let tree := (Construct.document [
      .paragraph [reference "b", reference "x", reference "a"],
      .footnoteDefinition "a" [.paragraph [reference "b"]],
      .footnoteDefinition "b" [.paragraph [.text "first"]],
      .footnoteDefinition "a" [.paragraph [.text "second"]]]).toTree
    Node.ids tree.nodes = ["fnref-1", "fnref-2", "fn-1", "fn-2"] ∧
      (tree.nodes.filter isReference).map (·.attr? "href") =
        [some "#fn-1", some "#fn-2", some "#fn-1"] ∧
      tree.textContent = "1[^x]2first ↩1 ↩" := by
  decide +kernel

end Markdown

end PostPress
