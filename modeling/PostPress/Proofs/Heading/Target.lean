import PostPress.Proofs.Pipeline.Heading
import PostPress.Proofs.Tree.Nodes

/-!
# PostPress.Proofs.Heading.Target

**Where the links of an outline lead.** Headings get ids that differ from those of other
headings. Other elements keep the ids that they have, and these are not taken: a heading may
get the id of a footnote. So the ids of a tree without headings inside headings are those of
the outline and those of the other elements (`ids_extractToc`), and they are all different
exactly if no heading gets the id of another element (`nodup_ids_extractToc_iff`). What a
heading gets is the id that it asks for, or a numbered form of it
(`exists_asked_of_mem_extractToc`); so it is enough that no other element has such an id
(`nodup_ids_extractToc_of_asked`).
-/

namespace PostPress

namespace Node

/-! ### Headings among the nodes -/

mutual

theorem filter_isHeading_nodes : ∀ node : Node, node.nodes.filter isHeading = node.headings
  | .text _ => rfl
  | .root children | .foreign _ children => filter_isHeading_nodesList children
  | .element tag attrs children => by
      rw [nodes, headings, List.filter_cons, filter_isHeading_nodesList children]
      rfl

theorem filter_isHeading_nodesList : ∀ trees : List Node,
    (nodesList trees).filter isHeading = headingsList trees
  | [] => rfl
  | tree :: rest => by
      rw [nodesList, headingsList, List.filter_append, filter_isHeading_nodes tree,
        filter_isHeading_nodesList rest]

end

/-- The ids of the elements of some trees that are no headings. -/
def otherIds (trees : List Node) : List String := ids ((nodesList trees).filter (!·.isHeading))

theorem otherIds_cons (tree : Node) (rest : List Node) :
    otherIds (tree :: rest) =
      (if tree.isHeading then [] else (tree.attr? "id").toList) ++ otherIds tree.children ++
        otherIds rest := by
  have happend : ∀ as bs : List Node, ids (as ++ bs) = ids as ++ ids bs := fun _ _ =>
    List.filterMap_append
  rw [otherIds, nodesList, nodes_eq, List.filter_append, List.filter_cons, happend]
  cases tree.isHeading with
  | true => rfl
  | false => exact congrArg (· ++ otherIds rest) (ids_cons tree _)

theorem otherIds_nil : otherIds [] = [] := rfl

/-! ### Ids of headings do not matter to other elements -/

mutual

theorem otherIds_maskHeadingIds : ∀ node : Node, otherIds [node.maskHeadingIds] = otherIds [node]
  | .text _ => rfl
  | .root children | .foreign _ children => by
      rw [maskHeadingIds, otherIds_cons, otherIds_cons]
      exact congrArg (· ++ otherIds []) (otherIds_maskHeadingIdsList children)
  | .element tag attrs children => by
      by_cases htag : (headingLevel tag).isSome = true
      · have hheading : ∀ attrs, (Node.element tag attrs children).isHeading = true := fun _ => htag
        rw [maskHeadingIds, if_pos htag, otherIds_cons, otherIds_cons, hheading, hheading]
        rfl
      · have hnot : ∀ children, (Node.element tag attrs children).isHeading = false :=
          fun _ => Bool.eq_false_iff.2 htag
        rw [maskHeadingIds, if_neg htag, otherIds_cons, otherIds_cons, hnot, hnot]
        exact congrArg (fun others => (attr? (.element tag attrs children) "id").toList ++ others ++
          otherIds []) (otherIds_maskHeadingIdsList children)

theorem otherIds_maskHeadingIdsList : ∀ trees : List Node,
    otherIds (maskHeadingIdsList trees) = otherIds trees
  | [] => rfl
  | tree :: rest => by
      have htree := otherIds_maskHeadingIds tree
      rw [otherIds_cons, otherIds_nil, List.append_nil, otherIds_cons, otherIds_nil,
        List.append_nil] at htree
      rw [maskHeadingIdsList, otherIds_cons, otherIds_cons, htree, otherIds_maskHeadingIdsList rest]

end

end Node

open Node (ids otherIds)

theorem otherIds_extractToc (tree : Node) : otherIds [(extractToc tree).2] = otherIds [tree] := by
  rw [← Node.otherIds_maskHeadingIds, (extractToc_eq tree).2.2, Node.otherIds_maskHeadingIds]

/-- The ids of the headings are those of the outline. -/
theorem ids_headings_extractToc {tree : Node} (h : tree.HeadingsApart) :
    ids (extractToc tree).2.headings = flattenIds (extractToc tree).1 := by
  have hattr := congrArg (List.filterMap id) (attr?_id_extractToc tree)
  rw [List.filterMap_map, List.filterMap_map, Node.outermostHeadings_eq_headings
    (Nat.le_trans (headingNesting_extractToc_le tree) h)] at hattr
  exact hattr.trans List.filterMap_some

/-- **The ids of a tree** are those of the outline and those of the other elements. -/
theorem ids_extractToc {tree : Node} (h : tree.HeadingsApart) :
    (ids (extractToc tree).2.nodes).Perm (flattenIds (extractToc tree).1 ++ otherIds [tree]) := by
  have hperm := (List.filter_append_perm Node.isHeading (extractToc tree).2.nodes).filterMap
    (·.attr? "id")
  rw [List.filterMap_append, Node.filter_isHeading_nodes] at hperm
  rw [← ids_headings_extractToc h, ← otherIds_extractToc, otherIds, Node.nodesList_singleton]
  exact hperm.symm

/-- The ids of a tree are all different if none of the outline is that of another element. -/
theorem nodup_ids_iff_disjoint {tree : Node} (h : tree.HeadingsApart)
    (hothers : (otherIds [tree]).Nodup) :
    (ids (extractToc tree).2.nodes).Nodup ↔
      (flattenIds (extractToc tree).1).Disjoint (otherIds [tree]) := by
  rw [(ids_extractToc h).nodup_iff, List.nodup_append', and_iff_right (nodup_extractToc tree),
    and_iff_right hothers]

/-! ### The ids that headings ask for -/

/-- The id that a heading asks for: the one that it came with, or else a slug of its text. -/
def Node.askedId (heading : Node) : String :=
  match heading.attr? "id" with
  | some own => if own = "" then Slugger.slugBase heading.textContent else own
  | none => Slugger.slugBase heading.textContent

theorem HeadingState.assign_eq_unique (state : HeadingState) (heading : Node) :
    (state.assign heading).1 = (state.slugger.unique heading.askedId).1 := by
  unfold assign Node.askedId
  cases heading.attr? "id" with
  | none => rfl
  | some own => by_cases hempty : own = "" <;> simp [hempty, Slugger.slug_eq]

theorem Slugger.unique_eq_or (s : Slugger) (base : String) :
    (s.unique base).1 = base ∨ ∃ n, (s.unique base).1 = numbered base n := by
  by_cases h : base ∈ s.taken
  · exact .inr ⟨_, congrArg Prod.fst (unique_of_taken h)⟩
  · exact .inl (congrArg Prod.fst (unique_of_free h))

theorem HeadingState.exists_asked_of_mem_entries {headings : List Node} {state : HeadingState}
    {entry : TocEntry} (h : entry ∈ entries state headings) :
    ∃ heading ∈ headings, entry.id = heading.askedId ∨
      ∃ n, entry.id = Slugger.numbered heading.askedId n := by
  induction headings generalizing state with
  | nil => exact absurd h List.not_mem_nil
  | cons heading rest ih =>
      rcases List.mem_cons.1 h with rfl | h
      · refine ⟨heading, List.mem_cons_self, ?_⟩
        rw [HeadingState.entry, assign_eq_unique]
        exact Slugger.unique_eq_or ..
      · obtain ⟨other, hother, hid⟩ := ih h
        exact ⟨other, List.mem_cons_of_mem _ hother, hid⟩

/-- An id of the outline is what a heading asks for, or a numbered form of it. -/
theorem exists_asked_of_mem_extractToc {tree : Node} {id : String}
    (h : id ∈ flattenIds (extractToc tree).1) :
    ∃ heading ∈ tree.outermostHeadings, id = heading.askedId ∨
      ∃ n, id = Slugger.numbered heading.askedId n := by
  rw [flattenIds_extractToc] at h
  obtain ⟨entry, hentry, rfl⟩ := List.mem_map.1 h
  exact HeadingState.exists_asked_of_mem_entries hentry

/-- Links have one target each if no other element has an id that a heading asks for, or a
numbered form of one. -/
theorem nodup_ids_extractToc_of_asked {tree : Node} (h : tree.HeadingsApart)
    (hothers : (otherIds [tree]).Nodup)
    (hasked : ∀ heading ∈ tree.headings, heading.askedId ∉ otherIds [tree] ∧
      ∀ n, Slugger.numbered heading.askedId n ∉ otherIds [tree]) :
    (ids (extractToc tree).2.nodes).Nodup := by
  refine (nodup_ids_iff_disjoint h hothers).2 fun id hid hother => ?_
  obtain ⟨heading, hheading, hform⟩ := exists_asked_of_mem_extractToc hid
  rw [Node.outermostHeadings_eq_headings h] at hheading
  obtain ⟨hown, hnumbered⟩ := hasked heading hheading
  rcases hform with rfl | ⟨n, rfl⟩
  · exact hown hother
  · exact hnumbered n hother

/-- **One target for each link.** In a tree without headings inside headings, whose other
elements have different ids, the headings get their ids and all other ids stay. No id is
then given twice exactly if no heading has got the id of another element. -/
theorem nodup_ids_extractToc_iff {tree : Node} (h : tree.HeadingsApart)
    (hothers : (otherIds [tree]).Nodup) :
    (ids (extractToc tree).2.nodes).Perm (flattenIds (extractToc tree).1 ++ otherIds [tree]) ∧
      ((ids (extractToc tree).2.nodes).Nodup ↔
        ∀ id ∈ flattenIds (extractToc tree).1, id ∉ otherIds [tree]) :=
  ⟨ids_extractToc h, nodup_ids_iff_disjoint h hothers⟩

/-- A footnote between two headings, one of which has another element with an id in it. -/
theorem nodup_ids_extractToc_iff_footnote :
    let other (tag id : String) : Node := .element tag (.ofList [("id", .text id)]) []
    let tree : Node := .root [.plain "h2" [.text "Fn"], other "li" "fn-1",
      .plain "h3" [.text "Fn 2", other "span" "x"]]
    tree.HeadingsApart ∧ (otherIds [tree]).Nodup ∧
      (ids (extractToc tree).2.nodes).Nodup ∧ ids (extractToc tree).2.nodes =
        ["fn", "fn-1", "fn-2", "x"] := by
  intro other tree
  have hapart : tree.HeadingsApart := by decide +kernel
  have hothers : (otherIds [tree]).Nodup := by decide +kernel
  refine ⟨hapart, hothers, ?_, by decide +kernel⟩
  exact (nodup_ids_extractToc_iff hapart hothers).2.2 (by decide +kernel)

/-- The slug of a heading is the id of a footnote. -/
theorem ids_extractToc_shared :
    let tree : Node := .root [.plain "h2" [.text "Fn 1"],
      .element "li" (.ofList [("id", .text (Footnote.noteId 1))]) []]
    tree.HeadingsApart ∧ (otherIds [tree]).Nodup ∧
      ids (extractToc tree).2.nodes = ["fn-1", "fn-1"] := by
  decide +kernel

end PostPress
