import PostPress.Proofs.Pipeline.Settled

/-!
# PostPress.Proofs.Pipeline.Idempotent

**A prepared document stays as it is.** Without a sanitizer the pipeline gives back what
it has given before: the tree, and the outline with its texts, depths, ids and nesting
(`Pipeline.process_process`).

Each stage leaves its own work as it is. It remains that the ids undo nothing of what the
stages before them did (`everywhere_extractToc`), and that a heading keeps the id that it
was given, as no earlier heading has it (`HeadingState.assign_labelled`): so a second walk
runs through the same states.
-/

namespace PostPress

namespace HeadingState

variable {state : HeadingState} {heading : Node} (h : heading.headingLevel?.isSome = true)

include h

/-- A heading that was given an id keeps it in the same state, and needs no change. -/
theorem assign_labelled : state.assign (state.labelled heading) =
    ((state.assign heading).1, state.slugger.take (state.assign heading).1, false) := by
  obtain ⟨hid, -⟩ := labelled_spec state h
  have hid : (state.labelled heading).attr? "id" = some (state.assign heading).1 := hid
  have hne := state.assign_ne_empty heading
  have hfree := Slugger.unique_of_free (state.assign_fresh heading)
  generalize (state.assign heading).1 = id at hid hne hfree ⊢
  simp [assign, hid, hne, hfree]

theorem isHeading_labelled : (state.labelled heading).headingLevel?.isSome = true := by
  obtain ⟨-, hlevel, -⟩ := labelled_spec state h
  rw [hlevel]
  rfl

theorem labelled_labelled : state.labelled (state.labelled heading) = state.labelled heading := by
  rw [labelled_eq (isHeading_labelled h), assign_labelled h]
  rfl

theorem entry_labelled : state.entry (state.labelled heading) = state.entry heading := by
  obtain ⟨-, hlevel, htext, -⟩ := labelled_spec state h
  rw [entry, assign_labelled h, hlevel, htext]
  rfl

theorem after_labelled : state.after (state.labelled heading) = state.after heading := by
  have htaken : (state.assign heading).2.1 = state.slugger.take (state.assign heading).1 :=
    congrArg Slugger.mk (state.taken_assign heading)
  have hslugger : (state.after (state.labelled heading)).slugger = (state.after heading).slugger := by
    rw [slugger_after (isHeading_labelled h), slugger_after h, assign_labelled h, htaken]
  have houtline : (state.after (state.labelled heading)).outline = (state.after heading).outline := by
    rw [outline_after (isHeading_labelled h), outline_after h, entry_labelled h]
  generalize state.after (state.labelled heading) = again at *
  generalize state.after heading = first at *
  obtain ⟨slugger, outline⟩ := again
  obtain rfl : slugger = first.slugger := hslugger
  obtain rfl : outline = first.outline := houtline
  rfl

omit h

/-- **Run.** Headings that were given ids one after the other keep them. -/
theorem labelledAll_labelledAll {headings : List Node}
    (h : ∀ heading ∈ headings, heading.headingLevel?.isSome = true) (state : HeadingState) :
    labelledAll state (labelledAll state headings) = labelledAll state headings ∧
      entries state (labelledAll state headings) = entries state headings := by
  induction headings generalizing state with
  | nil => exact ⟨rfl, rfl⟩
  | cons heading rest ih =>
      have hheading := h heading List.mem_cons_self
      obtain ⟨hlabelled, hentries⟩ := ih (fun h' hm => h h' (List.mem_cons_of_mem _ hm))
        (state.after heading)
      simp only [labelledAll, entries, after_labelled hheading, labelled_labelled hheading,
        entry_labelled hheading, hlabelled, hentries, and_self]

theorem length_labelledAll (state : HeadingState) (headings : List Node) :
    (labelledAll state headings).length = headings.length := by
  induction headings generalizing state with
  | nil => rfl
  | cons heading rest ih => exact congrArg Nat.succ (ih _)

end HeadingState

open HeadingState

/-! ### Trees whose headings keep their ids -/

/-- What holds of some headings and those after them, holds of either. -/
theorem labelledAll_append_eq_self {state : HeadingState} {as bs : List Node}
    (h : labelledAll state (as ++ bs) = as ++ bs) :
    labelledAll state as = as ∧ labelledAll (as.foldl after state) bs = bs := by
  rw [labelledAll_append] at h
  exact List.append_inj h (length_labelledAll state as)

mutual

/-- A walk leaves a tree as it is if all outermost headings keep their ids. -/
theorem walk_of_labelled : ∀ {node : Node} {state : HeadingState}
    (position : Option (Nat × Parent)),
    labelledAll state node.outermostHeadings = node.outermostHeadings →
      (walk Node.isHeading HeadingState.visitor state ⟨node, position⟩).2 = node
  | .text value, state, position, _ => by
      have hnot : ¬(Node.text value).isHeading = true := Bool.false_ne_true
      rw [walk_of_not_heading hnot]
      rfl
  | .root children, state, position, h => by
      have hnot : ¬(Node.root children).isHeading = true := Bool.false_ne_true
      rw [walk_of_not_heading hnot]
      exact congrArg Node.root (walkList_of_labelled _ 0 h)
  | .foreign name children, state, position, h => by
      have hnot : ¬(Node.foreign name children).isHeading = true := Bool.false_ne_true
      rw [walk_of_not_heading hnot]
      exact congrArg (Node.foreign name) (walkList_of_labelled _ 0 h)
  | .element tag attrs children, state, position, h => by
      by_cases htag : (Node.element tag attrs children).isHeading = true
      · rw [Node.outermostHeadings_of_heading htag] at h
        rw [walk_of_heading htag]
        exact (List.cons.inj h).1
      · rw [Node.outermostHeadings_of_not_heading htag] at h
        rw [walk_of_not_heading htag]
        exact congrArg (Node.element tag attrs) (walkList_of_labelled _ 0 h)

theorem walkList_of_labelled : ∀ {nodes : List Node} {state : HeadingState} (parent : Parent)
    (index : Nat),
    labelledAll state (Node.outermostHeadingsList nodes) = Node.outermostHeadingsList nodes →
      (walkList Node.isHeading HeadingState.visitor parent index state nodes).2 = nodes
  | [], _, _, _, _ => rfl
  | node :: rest, state, parent, index, h => by
      obtain ⟨hnode, hrest⟩ := labelledAll_append_eq_self h
      have hwalk := walk_of_labelled (some (index, parent)) hnode
      -- The walk of the first child leaves the state after its headings.
      have hstate := (walk_labels node state (some (index, parent))).last_eq
      simp only [Node.outermostHeadingsList, List.append_nil] at hstate
      rw [← hstate] at hrest
      exact congr (congrArg List.cons hwalk) (walkList_of_labelled parent (index + 1) hrest)

end

/-- **A second run gives the same.** -/
theorem extractToc_extractToc (tree : Node) :
    extractToc (extractToc tree).2 = extractToc tree := by
  obtain ⟨houtline, hheadings, -⟩ := extractToc_eq tree
  have hall : ∀ heading ∈ tree.outermostHeadings, heading.headingLevel?.isSome = true :=
    fun _ => isHeading_of_mem_outermostHeadings
  obtain ⟨hlabelled, hentries⟩ := labelledAll_labelledAll hall .empty
  refine Prod.ext ?_ ?_
  · rw [(extractToc_eq (extractToc tree).2).1, houtline, hheadings, hentries]
  · refine walk_of_labelled none ?_
    rw [hheadings, hlabelled]

/-! ### The ids undo nothing -/

theorem tested_headingVisitor_heading {state : HeadingState} {slot : Slot}
    (h : slot.node.isHeading = true) :
    HeadingState.visitor.tested Node.isHeading state slot =
      ⟨state.after slot.node, state.labelled slot.node, .skip⟩ := by
  rw [Visitor.tested, if_pos h]
  exact visitor_heading h slot.position

theorem tested_headingVisitor_other {state : HeadingState} {slot : Slot}
    (h : ¬slot.node.isHeading = true) :
    HeadingState.visitor.tested Node.isHeading state slot = ⟨state, slot.node, .descend⟩ := by
  rw [Visitor.tested, if_neg h]

/-- A heading is neither a link nor foreign, and an id does not change what is below. -/
theorem everywhere_labelled {embeds : Bool} {parent : Option Parent} {heading : Node}
    (hheading : heading.isHeading = true)
    (h : Everywhere (Node.IsSettled embeds) parent heading) (state : HeadingState) :
    Everywhere (Node.IsSettled embeds) parent (state.labelled heading) := by
  have hkept : (state.labelled heading).children = heading.children ∧
      Parent.ofNode? (state.labelled heading) = Parent.ofNode? heading := by
    rw [labelled_eq hheading]
    split
    · exact ⟨Node.children_setAttr .., Node.ofNode?_setAttr ..⟩
    · exact ⟨rfl, rfl⟩
  have hlabelled : (state.labelled heading).isHeading = true := isHeading_labelled hheading
  refine .intro ?_ fun child hchild => ?_
  · generalize state.labelled heading = node at hlabelled
    cases node with
    | element tag attrs children =>
        refine .of_not_anchor ?_ rfl
        refine Bool.eq_false_iff.2 fun hanchor => ?_
        obtain rfl : tag = "a" := Option.some.inj (beq_iff_eq.1 hanchor)
        exact absurd hlabelled Bool.false_ne_true
    | text _ | root _ | foreign _ _ => exact absurd hlabelled Bool.false_ne_true
  · rw [hkept.1] at hchild
    rw [hkept.2]
    exact h.of_mem hchild

theorem brings_headingVisitor (embeds : Bool) :
    HeadingState.visitor.Brings Node.isHeading (Node.IsSettled embeds)
      (Node.IsSettled embeds) where
  shrinks := shrinks_headingVisitor
  skipped {state slot} h hnext := by
    by_cases hheading : slot.node.isHeading = true
    · rw [tested_headingVisitor_heading hheading]
      exact everywhere_labelled hheading h state
    · rw [tested_headingVisitor_other hheading] at hnext
      exact absurd hnext.symm Visit.skip_ne_descend
  below {state slot} h hnext child hchild := by
    by_cases hheading : slot.node.isHeading = true
    · rw [tested_headingVisitor_heading hheading] at hnext
      exact absurd hnext Visit.skip_ne_descend
    · rw [tested_headingVisitor_other hheading] at hchild ⊢
      exact h.of_mem hchild
  descended {state slot} h hnext children hlength := by
    by_cases hheading : slot.node.isHeading = true
    · rw [tested_headingVisitor_heading hheading] at hnext
      exact absurd hnext Visit.skip_ne_descend
    · rw [tested_headingVisitor_other hheading] at hlength ⊢
      exact h.here.withChildren hlength

/-- A settled tree is settled with its ids. -/
theorem everywhere_extractToc {embeds : Bool} {tree : Node}
    (h : Everywhere (Node.IsSettled embeds) none tree) :
    Everywhere (Node.IsSettled embeds) none (extractToc tree).2 :=
  everywhere_walk (brings_headingVisitor embeds) ⟨tree, none⟩ h .empty

namespace Pipeline

/-- What is prepared for the sanitizer is not prepared any further. -/
theorem prepare_prepare (p : Pipeline) (tree : Node) :
    p.prepare (p.prepare tree).2 = p.prepare tree := by
  have hsettled := everywhere_extractToc (p.settled_placed tree)
  rw [prepare_eq, prepare_eq, p.placed_eq_self hsettled, extractToc_extractToc]

/-- **A prepared document stays as it is.** For every tree and every configuration, the
pipeline with the sanitizer that changes nothing answers with a tree and an outline, and
with the same two when it is given that tree. -/
theorem process_process (config : Config) (tree : Node) :
    ∃ rendered, (withSanitizer config .ok).process tree = .ok rendered ∧
      (withSanitizer config .ok).process rendered.tree = .ok rendered := by
  let p := withSanitizer config .ok
  have hprocess : ∀ tree, p.process tree = .ok ⟨(p.prepare tree).2, (p.prepare tree).1⟩ :=
    fun _ => rfl
  refine ⟨_, hprocess tree, ?_⟩
  rw [hprocess, prepare_prepare]

end Pipeline

end PostPress
