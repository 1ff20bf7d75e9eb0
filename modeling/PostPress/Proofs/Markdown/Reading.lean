import Mathlib.Data.List.Sort
import PostPress.Proofs.Markdown.Footnote

/-!
# PostPress.Proofs.Markdown.Reading

**Footnotes as a reader meets them.** Who reads the tree of a document meets the references
of its body and then those of its footnotes (`Construct.met`). The footnotes are numbered in
another order, that of all references of the source: a reference in the definition of a
footnote counts where the definition stands, and it counts too if the definition is not
shown, because nothing refers to it or an earlier one has its identifier.

* A link back leads to an element exactly if a reader meets a reference to its footnote
  (`links_back`).
* The numbers rise as they are met exactly if the footnotes that are met are met in the
  order of the source (`numbers_rise_iff`).
-/

namespace PostPress

namespace Footnote

/-! ### Anchors and their numbers -/

/-- A number has an anchor with an id if it comes up for the first time. -/
theorem referenceId_mem_anchors {seen numbers : List Nat} {number : Nat} :
    referenceId number ∈ Node.ids (anchors seen numbers) ↔ number ∈ numbers ∧ number ∉ seen := by
  induction numbers generalizing seen with
  | nil => simp [anchors, Node.ids]
  | cons first rest ih =>
      have hown : referenceId number ∈ ((anchor first (!seen.contains first)).attr? "id").toList ↔
          number = first ∧ number ∉ seen := by
        rw [attr?_id_anchor]
        by_cases hseen : first ∈ seen
        · simp only [List.contains_iff_mem.2 hseen, Bool.not_true, Bool.false_eq_true, if_false,
            Option.toList_none, List.not_mem_nil, false_iff]
          rintro ⟨rfl, hnot⟩
          exact hnot hseen
        · simp only [hseen, List.contains_eq_mem, decide_false, Bool.not_false, if_true,
            Option.toList_some, List.mem_singleton]
          refine ⟨fun hsame => ?_, fun h => congrArg referenceId h.1⟩
          obtain rfl := referenceId_inj hsame
          exact ⟨rfl, hseen⟩
      rw [anchors, Node.ids_cons, List.mem_append, hown, ih, mem_noteSeen, List.mem_cons,
        List.mem_cons]
      by_cases hfirst : number = first <;> simp [hfirst]

/-- The anchors show their numbers. -/
theorem map_textContent_anchors (seen numbers : List Nat) :
    (anchors seen numbers).map (·.textContent) = numbers.map Nat.repr := by
  induction numbers generalizing seen with
  | nil => rfl
  | cons number rest ih =>
      rw [anchors, List.map_cons, ih, textContent_anchor, List.map_cons]

end Footnote

namespace Markdown

/-! ### Numbers and the order of footnotes -/

namespace References

variable {references : References}

/-- Different footnotes have different numbers. -/
theorem number?_inj {a b : String} {number : Nat} (ha : references.number? a = some number)
    (hb : references.number? b = some number) : a = b := by
  obtain ⟨i, hi, rfl⟩ := exists_of_number? ha
  obtain ⟨j, hj, hsame⟩ := exists_of_number? hb
  obtain rfl := Nat.succ.inj hsame
  exact Option.some.inj (hi.symm.trans hj)

variable (hnodup : references.order.Nodup)

include hnodup

theorem number?_eq_some_iff {identifier : String} {i : Nat} :
    references.number? identifier = some (i + 1) ↔ references.order[i]? = some identifier := by
  constructor
  · intro h
    obtain ⟨j, hj, hsame⟩ := exists_of_number? h
    rwa [Nat.succ.inj hsame]
  · intro h
    obtain ⟨hlt, hi⟩ := List.getElem?_eq_some_iff.1 h
    rw [number?, Option.map_eq_some_iff]
    refine ⟨i, List.findIdx?_eq_some_iff_getElem.2 ⟨hlt, beq_iff_eq.2 hi, fun j hj => ?_⟩, rfl⟩
    -- An earlier place of the identifier would be a second one.
    rw [beq_iff_eq, ← hi, hnodup.getElem_inj_iff]
    exact Nat.ne_of_lt hj

/-- One footnote has its place in the order before another one. -/
def Before (references : References) (a b : String) : Prop :=
  ∃ m n, references.number? a = some m ∧ references.number? b = some n ∧ m < n

omit hnodup in
instance antisymm_before : Std.Antisymm references.Before where
  antisymm a b hab hba := by
    obtain ⟨m, n, hm, hn, hlt⟩ := hab
    obtain ⟨n', m', hn', hm', hlt'⟩ := hba
    obtain rfl := Option.some.inj (hm.symm.trans hm')
    obtain rfl := Option.some.inj (hn.symm.trans hn')
    exact absurd hlt' (Nat.lt_asymm hlt)

theorem pairwise_before_order : references.order.Pairwise references.Before := by
  refine List.pairwise_iff_getElem.2 fun i j hi hj hlt => ?_
  exact ⟨i + 1, j + 1, (number?_eq_some_iff hnodup).2 (List.getElem?_eq_getElem hi),
    (number?_eq_some_iff hnodup).2 (List.getElem?_eq_getElem hj), Nat.succ_lt_succ hlt⟩

/-- The numbers of some footnotes rise if the footnotes follow one another in the order. -/
theorem pairwise_number?_iff {identifiers : List String}
    (h : ∀ identifier ∈ identifiers, identifier ∈ references.order) :
    (identifiers.filterMap references.number?).Pairwise (· < ·) ↔
      identifiers.Sublist references.order := by
  have hnumber : ∀ identifier ∈ identifiers, ∃ number,
      references.number? identifier = some number := fun identifier hmem => by
    rw [← Option.isSome_iff_exists, isSome_number?, List.contains_iff_mem]
    exact h identifier hmem
  have hbefore : (identifiers.filterMap references.number?).Pairwise (· < ·) ↔
      identifiers.Pairwise references.Before := by
    rw [List.pairwise_filterMap]
    refine List.Pairwise.iff_of_mem fun {a b} ha hb => ?_
    obtain ⟨m, hm⟩ := hnumber a ha
    obtain ⟨n, hn⟩ := hnumber b hb
    simp [Before, hm, hn]
  rw [hbefore]
  refine ⟨fun hrise => ?_, fun hsub => List.Pairwise.sublist hsub (pairwise_before_order hnodup)⟩
  have hdistinct : identifiers.Nodup := hrise.imp fun {a b} hab => by
    rintro rfl
    obtain ⟨m, n, hm, hn, hlt⟩ := hab
    exact absurd hlt (Option.some.inj (hm.symm.trans hn) ▸ Nat.lt_irrefl m)
  exact List.sublist_of_subperm_of_pairwise (hdistinct.subperm h) hrise
    (pairwise_before_order hnodup)

end References

/-! ### What a reader meets -/

namespace Construct

/-- The identifiers of the references that a reader of the tree meets: first those of the
body, and then those of the footnotes, one after the other. -/
def met (construct : Construct) : List String :=
  construct.shown ++ (References.ofConstruct construct).order.flatMap
    (References.ofConstruct construct).shownIn

theorem noteReferences_of_met {construct : Construct} {identifier : String}
    (h : identifier ∈ construct.met) : identifier ∈ construct.noteReferences := by
  rcases List.mem_append.1 h with h | h
  · exact noteReferences_of_shown h
  · obtain ⟨note, -, hshown⟩ := List.mem_flatMap.1 h
    exact noteReferences_of_shownIn hshown

/-- The references of a tree are among the nodes that have to do with footnotes. -/
theorem filter_isReference_nodes (construct : Construct) :
    construct.toTree.nodes.filter isReference =
      (noted [construct.toTree]).filter isReference := by
  have hnoted : ∀ node, isReference node = true → isNoted node = true := fun node h => by
    rw [isNoted, ← isReference, h, Bool.or_true]
  rw [filter_noted hnoted, Node.nodesList_singleton]

/-- The references of a document are the anchors for the numbers of those that are met. -/
theorem references_document (children : List Construct) :
    (noted [(document children).toTree]).filter isReference =
      Footnote.anchors [] (document children).referenceNumbers := by
  have hshows := shows_convert (.ofConstruct (document children)) false (document children) []
  rw [references_toTree, noteItems, (noted_convertNotes ..).1, referenceNumbers,
    List.filterMap_append, Footnote.anchors_append, hshows.seen_eq, noted_body_document,
    hshows.noted_eq]

/-- A footnote has a reference with an id exactly if a reader meets one. -/
theorem referenceId_mem_ids_document {children : List Construct} {identifier : String} {i : Nat}
    (h : (References.ofConstruct (document children)).order[i]? = some identifier) :
    Footnote.referenceId (i + 1) ∈ Node.ids (document children).toTree.nodes ↔
      identifier ∈ (document children).met := by
  have hnodup := References.nodup_order (document children)
  have hitems : Footnote.referenceId (i + 1) ∉ Node.ids (document children).noteItems := by
    intro hmem
    obtain ⟨number, hsame⟩ := exists_of_mem_ids_noteItems _ hmem
    exact Footnote.noteId_ne_referenceId _ _ hsame.symm
  rw [← (ids_toTree_perm _).mem_iff, List.mem_append, or_iff_left hitems, references_document,
    Footnote.referenceId_mem_anchors, and_iff_left List.not_mem_nil, referenceNumbers, ← met,
    List.mem_filterMap]
  constructor
  · rintro ⟨other, hother, hnumber⟩
    rwa [Option.some.inj (h.symm.trans ((References.number?_eq_some_iff hnodup).1 hnumber))]
  · intro hmem
    exact ⟨identifier, hmem, (References.number?_eq_some_iff hnodup).2 h⟩

/-- Of the references that are met, those to footnotes have numbers. -/
theorem eraseDups_referenceNumbers (construct : Construct) :
    construct.referenceNumbers.eraseDups =
      (construct.met.filter construct.definesNote).eraseDups.filterMap
        (References.ofConstruct construct).number? := by
  rw [referenceNumbers, ← met, eraseDups_filterMap fun _ _ _ => References.number?_inj,
    eraseDups_filter, List.filterMap_filter]
  refine List.filterMap_congr fun identifier hmem => ?_
  have hreference := noteReferences_of_met (List.mem_eraseDups.1 hmem)
  have hsome := References.isSome_number?_ofConstruct hreference
  split
  · rfl
  · next hundefined => simpa [hundefined] using hsome

end Construct

/-- **Links back.** The section of a document holds an item for each footnote, which ends in
a link to the id of the reference with its number. One element of the tree has this id if a
reader meets a reference to the footnote; if all references to it are in definitions that
are not shown, none has. -/
theorem links_back (children : List Construct) :
    let document := Construct.document children
    let references := References.ofConstruct document
    ∃ items, document.toTree.nodes.filter (·.isElement "section") =
        (if references.order.isEmpty then [] else [Footnote.sectionOf items]) ∧
      List.Forall₂ (fun entry item => IsItem references entry.2 entry.1 item)
        (references.order.zipIdx 1) items ∧
      ∀ entry ∈ references.order.zipIdx 1,
        (Node.ids document.toTree.nodes).count (Footnote.referenceId entry.2) =
          if entry.1 ∈ document.met then 1 else 0 := by
  intro document references
  have hdefined : ∀ identifier ∈ references.order,
      (references.notes.lookup identifier).isSome = true :=
    fun _ h => (References.mem_order_iff.1 h).2
  refine ⟨document.noteItems, document.sections_toTree, isItem_convertNotes hdefined 1 _, ?_⟩
  rintro ⟨identifier, number⟩ hentry
  obtain ⟨hle, hplace⟩ := List.mem_zipIdx_iff_le_and_getElem?_sub.1 hentry
  obtain ⟨i, rfl⟩ := Nat.exists_eq_add_of_le' hle
  rw [document.nodup_ids_toTree.count]
  exact if_congr (Construct.referenceId_mem_ids_document hplace) rfl rfl

/-- A footnote that only the definition of another one refers to, which nothing refers to. -/
theorem links_back_nowhere :
    let document := Construct.document [
      .footnoteDefinition "a" [.paragraph [.text "x"]],
      .footnoteDefinition "b" [.paragraph [.text "see", .footnoteReference "a" (some "a")]]]
    (document.toTree.nodes.any fun node =>
        node.attributes.contains Footnote.backReferenceMark &&
          node.attr? "href" == some ("#" ++ Footnote.referenceId 1)) = true ∧
      (Node.ids document.toTree.nodes).count (Footnote.referenceId 1) = 0 := by
  decide +kernel

/-- **Rising numbers.** The references of a document show numbers. Of each number
the first occurrence taken, these rise exactly if the footnotes that a reader meets are met
in the order in which the source first refers to them. -/
theorem numbers_rise_iff (children : List Construct) :
    let document := Construct.document children
    (document.toTree.nodes.filter isReference).map (·.textContent) =
        document.referenceNumbers.map Nat.repr ∧
      (document.referenceNumbers.eraseDups.Pairwise (· < ·) ↔
        (document.met.filter document.definesNote).eraseDups.Sublist
          (document.noteReferences.filter document.definesNote).eraseDups) := by
  intro document
  refine ⟨?_, ?_⟩
  · rw [Construct.filter_isReference_nodes, Construct.references_document,
      Footnote.map_textContent_anchors]
  · rw [Construct.eraseDups_referenceNumbers, eraseDups_filter _ document.noteReferences]
    refine References.pairwise_number?_iff (References.nodup_order document) fun identifier h => ?_
    obtain ⟨hmet, hdefines⟩ := List.mem_filter.1 (List.mem_eraseDups.1 h)
    exact References.mem_order_iff.2 ⟨Construct.noteReferences_of_met hmet, hdefines⟩

/-- Two footnotes, the second one of which is referred to first in the definition of a third
one, which nothing refers to. -/
theorem numbers_fall :
    let reference (identifier : String) : Construct := .footnoteReference identifier none
    let document := Construct.document [
      .footnoteDefinition "c" [.paragraph [.text "see", reference "b"]],
      .paragraph [.text "A", reference "a", .text " B", reference "b"],
      .footnoteDefinition "a" [.paragraph [.text "one"]],
      .footnoteDefinition "b" [.paragraph [.text "two"]]]
    (document.toTree.nodes.filter isReference).map (·.textContent) = ["2", "1"] := by
  decide +kernel

/-- A definition between two paragraphs: its reference is counted before that of the second
paragraph, and met after it. -/
example :
    let reference (identifier : String) : Construct := .footnoteReference identifier none
    let document := Construct.document [
      .paragraph [reference "a"], .footnoteDefinition "a" [.paragraph [reference "c"]],
      .paragraph [reference "b"], .footnoteDefinition "b" [.paragraph [.text "two"]],
      .footnoteDefinition "c" [.paragraph [.text "three"]]]
    (document.toTree.nodes.filter isReference).map (·.textContent) = ["1", "3", "2"] := by
  decide +kernel

end Markdown

end PostPress
