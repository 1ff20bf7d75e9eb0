import PostPress.Heading.Extract
import PostPress.Proofs.Heading.Nesting
import PostPress.Proofs.Heading.Slugger
import PostPress.Proofs.Tree.Heading
import PostPress.Proofs.Tree.Walk

/-!
# PostPress.Proofs.Heading.Ids

**Every heading gets an id of its own, and the outline has the same ids.** The
walk over a tree is first reduced to a run over the list of its outermost
headings (`walk_labels`): the state takes in one heading after the other, each
heading is labelled where it stands, and nothing else changes. What the run does
to a list of headings (`entries`, `labelledAll`) is then a matter of one heading
(`assign_spec`) and of induction on the list.
-/

namespace PostPress

namespace Node

/-! ### Trees up to the ids of headings -/

mutual

/-- The tree with one and the same id on every outermost heading. Two trees that
agree then differ in the ids of their outermost headings at most. -/
def maskHeadingIds : Node → Node
  | .text value => .text value
  | .root children => .root (maskHeadingIdsList children)
  | .foreign name children => .foreign name (maskHeadingIdsList children)
  | .element tag attrs children =>
      if (headingLevel tag).isSome then .element tag (attrs.insert "id" (.text "")) children
      else .element tag attrs (maskHeadingIdsList children)

/-- The trees of a list with one id on every outermost heading. -/
def maskHeadingIdsList : List Node → List Node
  | [] => []
  | node :: rest => maskHeadingIds node :: maskHeadingIdsList rest

end

theorem maskHeadingIdsList_eq_map (nodes : List Node) :
    maskHeadingIdsList nodes = nodes.map maskHeadingIds := by
  induction nodes with
  | nil => rfl
  | cons node rest ih => rw [maskHeadingIdsList, ih, List.map_cons]

/-- Masking does not see the id of a heading. -/
theorem maskHeadingIds_setAttr_id {heading : Node} (h : heading.headingLevel?.isSome = true)
    (id : AttrValue) : (heading.setAttr "id" id).maskHeadingIds = heading.maskHeadingIds := by
  cases heading with
  | element tag attrs children =>
      have htag : (headingLevel tag).isSome = true := h
      rw [setAttr, maskHeadingIds, maskHeadingIds, if_pos htag, if_pos htag,
        NameMap.insert_insert]
  | text _ | root _ | foreign _ _ => exact absurd h Bool.false_ne_true

theorem attr?_setAttr_text {heading : Node} (h : heading.headingLevel?.isSome = true)
    (name value : String) : (heading.setAttr name (.text value)).attr? name = some value := by
  cases heading with
  | element tag attrs children =>
      simp [setAttr, attr?, attributes, AttrValue.plain?]
  | text _ | root _ | foreign _ _ => exact absurd h Bool.false_ne_true

@[simp] theorem textContent_setAttr (name : String) (value : AttrValue) (node : Node) :
    (node.setAttr name value).textContent = node.textContent := by
  cases node <;> rfl

end Node

namespace HeadingState

/-! ### One heading -/

/-- The state after a heading. -/
def after (state : HeadingState) (heading : Node) : HeadingState :=
  (visitor state ⟨heading, none⟩).state

/-- A heading with the id that it gets. -/
def labelled (state : HeadingState) (heading : Node) : Node :=
  (visitor state ⟨heading, none⟩).node

/-- The entry of a heading. -/
def entry (state : HeadingState) (heading : Node) : TocEntry :=
  ⟨Text.trim heading.textContent, heading.headingLevel?.getD 0, (state.assign heading).1, []⟩

/-- A heading gets a unique form of some base that is not empty: of the id that it
came with, if it came with one. Unless it is changed, it carries the id already. -/
theorem assign_spec (state : HeadingState) (heading : Node) :
    ∃ base, base ≠ "" ∧
      (state.assign heading).1 = (state.slugger.unique base).1 ∧
      (state.assign heading).2.1 = (state.slugger.unique base).2 ∧
      ((state.assign heading).2.2 = false →
        heading.attr? "id" = some (state.assign heading).1) ∧
      (∀ own, heading.attr? "id" = some own → own ≠ "" → base = own) := by
  unfold assign
  cases hown : heading.attr? "id" with
  | none => exact ⟨_, Slugger.slugBase_ne_empty heading.textContent, rfl, rfl, nofun, nofun⟩
  | some own =>
      by_cases hempty : own = ""
      · simp only [if_pos hempty]
        refine ⟨_, Slugger.slugBase_ne_empty heading.textContent, rfl, rfl, nofun, ?_⟩
        intro o ho hne
        exact absurd (Option.some.inj ho ▸ hempty) hne
      · simp only [if_neg hempty]
        refine ⟨own, hempty, rfl, rfl, fun hsame => ?_, fun o ho _ => Option.some.inj ho⟩
        rw [bne_eq_false_iff_eq.1 hsame]

theorem assign_fresh (state : HeadingState) (heading : Node) :
    (state.assign heading).1 ∉ state.slugger.taken := by
  obtain ⟨base, -, hid, -⟩ := state.assign_spec heading
  rw [hid]
  exact Slugger.unique_fresh state.slugger base

theorem assign_ne_empty (state : HeadingState) (heading : Node) :
    (state.assign heading).1 ≠ "" := by
  obtain ⟨base, hbase, hid, -⟩ := state.assign_spec heading
  rw [hid]
  exact Slugger.unique_ne_empty hbase

theorem taken_assign (state : HeadingState) (heading : Node) :
    (state.assign heading).2.1.taken = (state.assign heading).1 :: state.slugger.taken := by
  obtain ⟨base, -, hid, hslugger, -⟩ := state.assign_spec heading
  rw [hid, hslugger, Slugger.taken_unique]

/-- A heading keeps a free id that it came with. -/
theorem assign_own {state : HeadingState} {heading : Node} {own : String}
    (hown : heading.attr? "id" = some own) (hne : own ≠ "") (hfree : own ∉ state.slugger.taken) :
    (state.assign heading).1 = own := by
  obtain ⟨base, -, hid, -, -, hbase⟩ := state.assign_spec heading
  rw [hid, hbase own hown hne, Slugger.unique_of_free hfree]

section Heading

variable {state : HeadingState} {heading : Node} (h : heading.headingLevel?.isSome = true)

include h

theorem visitor_heading (position : Option (Nat × Parent)) :
    visitor state ⟨heading, position⟩ = ⟨state.after heading, state.labelled heading, .skip⟩ := by
  obtain ⟨depth, hdepth⟩ := Option.isSome_iff_exists.1 h
  simp [after, labelled, visitor, hdepth]

theorem slugger_after : (state.after heading).slugger = (state.assign heading).2.1 := by
  obtain ⟨depth, hdepth⟩ := Option.isSome_iff_exists.1 h
  simp [after, visitor, hdepth]

theorem outline_after :
    (state.after heading).outline = state.outline.push (state.entry heading) := by
  obtain ⟨depth, hdepth⟩ := Option.isSome_iff_exists.1 h
  simp [after, visitor, entry, hdepth]

theorem labelled_eq :
    state.labelled heading =
      if (state.assign heading).2.2 then heading.setAttr "id" (.text (state.assign heading).1)
      else heading := by
  obtain ⟨depth, hdepth⟩ := Option.isSome_iff_exists.1 h
  simp [labelled, visitor, hdepth]

variable (state) in
/-- A labelled heading carries its id, and is the same heading otherwise. -/
theorem labelled_spec :
    (state.labelled heading).attr? "id" = some (state.entry heading).id ∧
      (state.labelled heading).headingLevel? = some (state.entry heading).depth ∧
      Text.trim (state.labelled heading).textContent = (state.entry heading).text ∧
      (state.labelled heading).maskHeadingIds = heading.maskHeadingIds := by
  have hlevel : heading.headingLevel? = some (state.entry heading).depth := by
    obtain ⟨depth, hdepth⟩ := Option.isSome_iff_exists.1 h
    rw [hdepth, entry, hdepth, Option.getD_some]
  rw [labelled_eq h]
  cases hchanged : (state.assign heading).2.2 with
  | true =>
      exact ⟨Node.attr?_setAttr_text h _ _, (Node.headingLevel?_setAttr ..).trans hlevel,
        congrArg Text.trim (Node.textContent_setAttr ..), Node.maskHeadingIds_setAttr_id h _⟩
  | false =>
      obtain ⟨_, -, -, -, hown, -⟩ := state.assign_spec heading
      exact ⟨hown hchanged, hlevel, rfl, rfl⟩

end Heading

/-! ### A list of headings -/

/-- The headings of a list with the ids that they get one after the other. -/
def labelledAll (state : HeadingState) : List Node → List Node
  | [] => []
  | heading :: rest => state.labelled heading :: labelledAll (state.after heading) rest

/-- The entries of the headings of a list. -/
def entries (state : HeadingState) : List Node → List TocEntry
  | [] => []
  | heading :: rest => state.entry heading :: entries (state.after heading) rest

theorem labelledAll_append (state : HeadingState) (as bs : List Node) :
    labelledAll state (as ++ bs) =
      labelledAll state as ++ labelledAll (as.foldl after state) bs := by
  induction as generalizing state with
  | nil => rfl
  | cons heading rest ih => rw [List.cons_append, labelledAll, ih, labelledAll]; rfl

theorem entries_childless (state : HeadingState) (headings : List Node) :
    ∀ entry ∈ entries state headings, entry.children = [] := by
  induction headings generalizing state with
  | nil => exact nofun
  | cons heading rest ih =>
      intro entry he
      rcases List.mem_cons.1 he with rfl | he
      · rfl
      · exact ih (state.after heading) entry he

theorem entries_ne_empty (state : HeadingState) (headings : List Node) :
    ∀ entry ∈ entries state headings, entry.id ≠ "" := by
  induction headings generalizing state with
  | nil => exact nofun
  | cons heading rest ih =>
      intro entry he
      rcases List.mem_cons.1 he with rfl | he
      · exact state.assign_ne_empty heading
      · exact ih (state.after heading) entry he

/-- The outline takes in the entries in order. -/
theorem outline_foldl_after {headings : List Node}
    (h : ∀ heading ∈ headings, heading.headingLevel?.isSome = true) (state : HeadingState) :
    (headings.foldl after state).outline =
      (entries state headings).foldl OutlineBuilder.push state.outline := by
  induction headings generalizing state with
  | nil => rfl
  | cons heading rest ih =>
      rw [List.foldl_cons, ih fun h' hm => h h' (List.mem_cons_of_mem _ hm), entries,
        List.foldl_cons, outline_after (h heading List.mem_cons_self)]

/-- **Step.** A heading takes its id. -/
theorem taken_after {state : HeadingState} {heading : Node}
    (h : heading.headingLevel?.isSome = true) :
    (state.after heading).slugger.taken = (state.entry heading).id :: state.slugger.taken := by
  rw [slugger_after h, taken_assign]
  rfl

/-- **Run.** The ids of a list of headings are different from each other and from
those taken before. -/
theorem entries_nodup {headings : List Node}
    (h : ∀ heading ∈ headings, heading.headingLevel?.isSome = true) (state : HeadingState) :
    ((entries state headings).map TocEntry.id).Nodup ∧
      ∀ id ∈ (entries state headings).map TocEntry.id, id ∉ state.slugger.taken := by
  induction headings generalizing state with
  | nil => exact ⟨.nil, nofun⟩
  | cons heading rest ih =>
      obtain ⟨hnodup, hfresh⟩ := ih (fun h' hm => h h' (List.mem_cons_of_mem _ hm))
        (state.after heading)
      rw [taken_after (h heading List.mem_cons_self)] at hfresh
      refine ⟨List.nodup_cons.2 ⟨fun hmem => hfresh _ hmem List.mem_cons_self, hnodup⟩, ?_⟩
      intro id hid
      rcases List.mem_cons.1 hid with rfl | hid
      · exact state.assign_fresh heading
      · exact fun htaken => hfresh id hid (List.mem_cons_of_mem _ htaken)

/-- A heading of the list keeps the id that it came with, unless that was taken
before or an earlier heading has it. -/
theorem entries_own {headings : List Node}
    (h : ∀ heading ∈ headings, heading.headingLevel?.isSome = true) (state : HeadingState)
    {i : Nat} {heading : Node} {own : String} (hi : headings[i]? = some heading)
    (hown : heading.attr? "id" = some own) (hne : own ≠ "") (htaken : own ∉ state.slugger.taken)
    (hearlier : own ∉ ((entries state headings).map TocEntry.id).take i) :
    ((entries state headings).map TocEntry.id)[i]? = some own := by
  induction headings generalizing state i with
  | nil => exact absurd hi nofun
  | cons first rest ih =>
      cases i with
      | zero =>
          obtain rfl := Option.some.inj hi
          exact congrArg some (assign_own hown hne htaken)
      | succ i =>
          rw [entries, List.map_cons, List.take_succ_cons, List.mem_cons, not_or] at hearlier
          refine ih (fun h' hm => h h' (List.mem_cons_of_mem _ hm)) (state.after first) hi ?_
            hearlier.2
          rw [taken_after (h first List.mem_cons_self), List.mem_cons, not_or]
          exact ⟨hearlier.1, htaken⟩

/-- Every labelled heading carries what its entry says. -/
theorem labelledAll_spec {headings : List Node}
    (h : ∀ heading ∈ headings, heading.headingLevel?.isSome = true) (state : HeadingState) :
    (labelledAll state headings).map (fun heading =>
        (heading.attr? "id", heading.headingLevel?, Text.trim heading.textContent)) =
      (entries state headings).map fun entry => (some entry.id, some entry.depth, entry.text) := by
  induction headings generalizing state with
  | nil => rfl
  | cons heading rest ih =>
      obtain ⟨hid, hlevel, htext, -⟩ :=
        labelled_spec state (h heading List.mem_cons_self)
      rw [labelledAll, entries, List.map_cons, List.map_cons, hid, hlevel, htext,
        ih fun h' hm => h h' (List.mem_cons_of_mem _ hm)]

end HeadingState

/-! ### From the tree to the list of its outermost headings -/

open HeadingState

/-- The headings are visited. -/
abbrev Node.isHeading (node : Node) : Bool := node.headingLevel?.isSome

theorem shrinks_headingVisitor : Visitor.Shrinks Node.isHeading HeadingState.visitor := by
  intro state slot htest hnext
  have hskip : (HeadingState.visitor state slot).next = .skip :=
    congrArg Visited.next (visitor_heading htest slot.position)
  rw [hskip] at hnext
  exact absurd hnext nofun

/-- A heading is labelled, and not looked into. -/
theorem walk_of_heading {state : HeadingState} {node : Node} (h : node.isHeading = true)
    (position : Option (Nat × Parent)) :
    walk Node.isHeading HeadingState.visitor state ⟨node, position⟩ =
      (state.after node, state.labelled node) := by
  have htested : Visitor.tested Node.isHeading HeadingState.visitor state ⟨node, position⟩ =
      ⟨state.after node, state.labelled node, .skip⟩ := by
    rw [Visitor.tested, if_pos h, visitor_heading h]
  simp only [walk_eq shrinks_headingVisitor, walkStep, htested, Visited.parent?]

/-- The walk goes through what is no heading. -/
theorem walk_of_not_heading {state : HeadingState} {node : Node} (h : ¬node.isHeading = true)
    (position : Option (Nat × Parent)) :
    walk Node.isHeading HeadingState.visitor state ⟨node, position⟩ =
      match Parent.ofNode? node with
      | none => (state, node)
      | some parent =>
          ((walkList Node.isHeading HeadingState.visitor parent 0 state node.children).1,
            node.withChildren
              (walkList Node.isHeading HeadingState.visitor parent 0 state node.children).2) := by
  have htested : Visitor.tested Node.isHeading HeadingState.visitor state ⟨node, position⟩ =
      ⟨state, node, .descend⟩ := by
    rw [Visitor.tested, if_neg h]
  cases hparent : Parent.ofNode? node <;>
    simp only [walk_eq shrinks_headingVisitor, walkStep, htested, Visited.parent?, hparent]

/-- The result of a walk labels the outermost headings of the nodes it found, and
leaves all else. -/
structure Labels (state : HeadingState) (nodes : List Node) (last : HeadingState)
    (nodes' : List Node) : Prop where
  /-- The state has taken in the headings in order. -/
  last_eq : last = (Node.outermostHeadingsList nodes).foldl after state
  /-- The headings are labelled in order. -/
  headings_eq : Node.outermostHeadingsList nodes' =
    labelledAll state (Node.outermostHeadingsList nodes)
  /-- Nothing but their ids has changed. -/
  mask_eq : Node.maskHeadingIdsList nodes' = Node.maskHeadingIdsList nodes

namespace Labels

theorem of_heading {state : HeadingState} {node : Node} (h : node.isHeading = true) :
    Labels state [node] (state.after node) [state.labelled node] := by
  obtain ⟨-, hlevel, -, hmask⟩ := labelled_spec state h
  have hlabelled : (state.labelled node).headingLevel?.isSome = true := by rw [hlevel]; rfl
  constructor <;>
    simp [Node.outermostHeadingsList, Node.outermostHeadings_of_heading h,
      Node.outermostHeadings_of_heading hlabelled, labelledAll, Node.maskHeadingIdsList, hmask]

theorem append {state mid last : HeadingState} {as as' bs bs' : List Node}
    (ha : Labels state as mid as') (hb : Labels mid bs last bs') :
    Labels state (as ++ bs) last (as' ++ bs') := by
  obtain ⟨rfl, hheadings, hmask⟩ := ha
  obtain ⟨rfl, hheadings', hmask'⟩ := hb
  constructor
  · simp [Node.outermostHeadingsList_eq_flatMap]
  · simp only [Node.outermostHeadingsList_eq_flatMap, List.flatMap_append] at *
    rw [hheadings, hheadings', labelledAll_append]
  · simp only [Node.maskHeadingIdsList_eq_map, List.map_append] at *
    rw [hmask, hmask']

/-- What holds of the children of a node that is no heading holds of the node. -/
theorem withChildren {state last : HeadingState} {node : Node} {children : List Node}
    (h : ¬node.isHeading = true) (hchildren : Labels state node.children last children)
    (hlist : node.hasChildList = true) :
    Labels state [node] last [node.withChildren children] := by
  obtain ⟨rfl, hheadings, hmask⟩ := hchildren
  have hwith : ¬(node.withChildren children).isHeading = true := by
    rwa [Node.isHeading, Node.headingLevel?_withChildren]
  constructor
  · simp [Node.outermostHeadingsList, Node.outermostHeadings_of_not_heading h]
  · simp [Node.outermostHeadingsList, Node.outermostHeadings_of_not_heading h,
      Node.outermostHeadings_of_not_heading hwith, Node.children_withChildren hlist, hheadings]
  · cases node with
    | text _ => exact absurd hlist Bool.false_ne_true
    | root _ | foreign _ _ =>
        simpa [Node.withChildren, Node.children, Node.maskHeadingIdsList, Node.maskHeadingIds]
          using hmask
    | element tag attrs _ =>
        have htag : ¬(headingLevel tag).isSome = true := h
        simpa [Node.withChildren, Node.children, Node.maskHeadingIdsList, Node.maskHeadingIds, htag]
          using hmask

end Labels

mutual

/-- **The walk labels the outermost headings.** By induction on the tree: a heading
is labelled and not looked into, all else passes the walk on to its children. -/
theorem walk_labels : ∀ (node : Node) (state : HeadingState) (position : Option (Nat × Parent)),
    Labels state [node] (walk Node.isHeading HeadingState.visitor state ⟨node, position⟩).1
      [(walk Node.isHeading HeadingState.visitor state ⟨node, position⟩).2]
  | .text value, state, position => by
      have h : ¬(Node.text value).isHeading = true := Bool.false_ne_true
      rw [walk_of_not_heading h]
      exact ⟨rfl, rfl, rfl⟩
  | .root children, state, position => by
      have h : ¬(Node.root children).isHeading = true := Bool.false_ne_true
      rw [walk_of_not_heading h]
      exact .withChildren h (walkList_labels children state _ 0) rfl
  | .foreign name children, state, position => by
      have h : ¬(Node.foreign name children).isHeading = true := Bool.false_ne_true
      rw [walk_of_not_heading h]
      exact .withChildren h (walkList_labels children state _ 0) rfl
  | .element tag attrs children, state, position => by
      by_cases h : (Node.element tag attrs children).isHeading = true
      · rw [walk_of_heading h]
        exact .of_heading h
      · rw [walk_of_not_heading h]
        exact .withChildren h (walkList_labels children state _ 0) rfl

/-- The walk through the children of one parent labels their outermost headings. -/
theorem walkList_labels : ∀ (nodes : List Node) (state : HeadingState) (parent : Parent)
    (index : Nat),
    Labels state nodes (walkList Node.isHeading HeadingState.visitor parent index state nodes).1
      (walkList Node.isHeading HeadingState.visitor parent index state nodes).2
  | [], _, _, _ => ⟨rfl, rfl, rfl⟩
  | node :: rest, state, parent, index =>
      (walk_labels node state (some (index, parent))).append
        (walkList_labels rest _ parent (index + 1))

end

/-! ### The outline of a tree -/

mutual

theorem isHeading_of_mem_outermostHeadings : ∀ {node heading : Node},
    heading ∈ node.outermostHeadings → heading.isHeading = true
  | .text _, _, h => absurd h List.not_mem_nil
  | .root _, _, h | .foreign _ _, _, h => isHeading_of_mem_outermostHeadingsList h
  | .element tag attrs children, heading, h => by
      rw [Node.outermostHeadings] at h
      split at h
      · next htag => exact List.mem_singleton.1 h ▸ htag
      · exact isHeading_of_mem_outermostHeadingsList h

theorem isHeading_of_mem_outermostHeadingsList : ∀ {nodes : List Node} {heading : Node},
    heading ∈ Node.outermostHeadingsList nodes → heading.isHeading = true
  | [], _, h => absurd h List.not_mem_nil
  | node :: rest, heading, h => by
      rcases List.mem_append.1 h with h | h
      · exact isHeading_of_mem_outermostHeadings h
      · exact isHeading_of_mem_outermostHeadingsList h

end

/-- The outline holds the entries of the outermost headings, and the tree is
labelled with their ids. -/
theorem extractToc_eq (tree : Node) :
    (extractToc tree).1 = OutlineBuilder.outline (entries .empty tree.outermostHeadings) ∧
      (extractToc tree).2.outermostHeadings = labelledAll .empty tree.outermostHeadings ∧
      (extractToc tree).2.maskHeadingIds = tree.maskHeadingIds := by
  obtain ⟨hlast, hheadings, hmask⟩ := walk_labels tree .empty none
  simp only [Node.outermostHeadingsList, Node.maskHeadingIdsList, List.append_nil,
    List.cons.injEq, and_true] at hlast hheadings hmask
  refine ⟨?_, hheadings, hmask⟩
  have htoc : (extractToc tree).1 =
      (walk Node.isHeading HeadingState.visitor .empty ⟨tree, none⟩).1.outline.finish := rfl
  rw [htoc, hlast, outline_foldl_after fun _ => isHeading_of_mem_outermostHeadings]
  rfl

theorem preorderList_extractToc (tree : Node) :
    TocEntry.preorderList (extractToc tree).1 = entries .empty tree.outermostHeadings := by
  rw [(extractToc_eq tree).1, OutlineBuilder.preorderList_outline,
    TocEntry.preorderList_of_childless (entries_childless .empty _)]

theorem flattenIds_extractToc (tree : Node) :
    flattenIds (extractToc tree).1 = (entries .empty tree.outermostHeadings).map TocEntry.id := by
  rw [flattenIds, TocEntry.idsList_eq_map, preorderList_extractToc]

/-- The outermost headings of the tree that is left and the entries of the outline
go together, one after the other. -/
theorem outermostHeadings_extractToc (tree : Node) :
    (extractToc tree).2.outermostHeadings.map (fun heading =>
        (heading.attr? "id", heading.headingLevel?, Text.trim heading.textContent)) =
      (TocEntry.preorderList (extractToc tree).1).map
        (fun entry => (some entry.id, some entry.depth, entry.text)) := by
  rw [(extractToc_eq tree).2.1, preorderList_extractToc]
  exact labelledAll_spec (fun _ => isHeading_of_mem_outermostHeadings) .empty

theorem attr?_id_extractToc (tree : Node) :
    (extractToc tree).2.outermostHeadings.map (·.attr? "id") =
      (flattenIds (extractToc tree).1).map some := by
  have h := congrArg (List.map (·.1)) (outermostHeadings_extractToc tree)
  rw [flattenIds, TocEntry.idsList_eq_map]
  simpa [Function.comp_def] using h

theorem ne_empty_of_mem_extractToc (tree : Node) :
    ∀ id ∈ flattenIds (extractToc tree).1, id ≠ "" := by
  intro id hid
  rw [flattenIds_extractToc] at hid
  obtain ⟨entry, hentry, rfl⟩ := List.mem_map.1 hid
  exact entries_ne_empty .empty _ entry hentry

theorem nodup_extractToc (tree : Node) : (flattenIds (extractToc tree).1).Nodup := by
  rw [flattenIds_extractToc]
  exact (entries_nodup (fun _ => isHeading_of_mem_outermostHeadings) .empty).1

/-- **Ids.** The outermost headings of the tree that is left carry, in document
order, the ids, levels and texts of the outline. The ids are not empty and no two
are equal; a heading keeps an id that it came with and no earlier one has; and
nothing but the ids of the outermost headings has changed. -/
theorem extractToc_ids (tree : Node) :
    (extractToc tree).2.outermostHeadings.map (·.attr? "id") =
        (flattenIds (extractToc tree).1).map some ∧
      (extractToc tree).2.outermostHeadings.map
          (fun heading => (heading.headingLevel?, Text.trim heading.textContent)) =
        (TocEntry.preorderList (extractToc tree).1).map
          (fun entry => (some entry.depth, entry.text)) ∧
      (∀ id ∈ flattenIds (extractToc tree).1, id ≠ "") ∧
      (flattenIds (extractToc tree).1).Nodup ∧
      (∀ i heading own, tree.outermostHeadings[i]? = some heading →
        heading.attr? "id" = some own → own ≠ "" →
        own ∉ (flattenIds (extractToc tree).1).take i →
        (flattenIds (extractToc tree).1)[i]? = some own) ∧
      (extractToc tree).2.maskHeadingIds = tree.maskHeadingIds := by
  refine ⟨attr?_id_extractToc tree, ?_, ne_empty_of_mem_extractToc tree, nodup_extractToc tree, ?_,
    (extractToc_eq tree).2.2⟩
  · have h := congrArg (List.map (·.2)) (outermostHeadings_extractToc tree)
    simpa [Function.comp_def] using h
  · intro i heading own hi hown hne hearlier
    rw [flattenIds_extractToc] at hearlier ⊢
    exact entries_own (fun _ => isHeading_of_mem_outermostHeadings) .empty hi hown hne
      List.not_mem_nil hearlier

/-- An id that a slug has taken, one that is free, and a heading inside a heading. -/
theorem extractToc_ids_colliding :
    let heading (id text : String) : Node := .element "h2" (.ofList [("id", .text id)]) [.text text]
    let tree : Node := .root [.plain "h2" [.text "Setup"], heading "setup" "Other",
      .foreign "Box" [heading "x" "A"], .plain "h3" [.text "X", heading "x" ""]]
    tree.outermostHeadings[2]? = some (heading "x" "A") ∧
      flattenIds (extractToc tree).1 = ["setup", "setup-1", "x", "x-1"] ∧
      (flattenIds (extractToc tree).1)[2]? = some "x" ∧
      (extractToc tree).2.outermostHeadings.map (·.attr? "id") =
        [some "setup", some "setup-1", some "x", some "x-1"] := by
  intro heading tree
  have hheading : tree.outermostHeadings[2]? = some (heading "x" "A") := by decide +kernel
  have hids : flattenIds (extractToc tree).1 = ["setup", "setup-1", "x", "x-1"] := by
    decide +kernel
  obtain ⟨hattr, -, -, -, hown, -⟩ := extractToc_ids tree
  refine ⟨hheading, hids, ?_, by rw [hattr, hids]; rfl⟩
  exact hown 2 (heading "x" "A") "x" hheading (by decide +kernel) (by decide) (by rw [hids]; decide)

end PostPress
