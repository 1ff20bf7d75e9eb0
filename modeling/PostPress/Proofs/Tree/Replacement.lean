import PostPress.Proofs.Tree.Callback
import PostPress.Tree.Editing

/-!
# PostPress.Proofs.Tree.Replacement

**Replacing by labels.** A callback that goes by the labels of nodes puts trees into the slots
that the walk comes to. If it puts nothing into the trees that it has put there to be walked,
the walk ends, and the calls can be read off the tree before and the tree after it.

* `Callback.ofLabels`, `Rule.edits` — the callback of a table of labels, and that of a list
  of rules;
* `Callback.Outcome` — what the calls say about the two trees;
* `settled_of_rules` — a check on the rules alone.
-/

namespace PostPress

/-! ### Places that the walk comes to -/

namespace Callback

variable {callback : Callback} {test : Node → Bool} {slot found : Slot}

theorem put?_eq_some_iff {node : Node} : callback.put? test slot = some node ↔
    test slot.node = true ∧ slot.position.isSome = true ∧
      (callback slot).replacement = some node := by
  unfold put?
  split
  · next h => simp [h.1, h.2]
  · next h => exact ⟨nofun, fun ⟨htest, hposition, _⟩ => absurd ⟨htest, hposition⟩ h⟩

/-- Below the slot where it starts, the walk comes to slots of children only. -/
theorem isSome_position_of_found? {path : List Nat}
    (h : callback.found? test slot path = some found)
    (hslot : path = [] → slot.position.isSome = true) : found.position.isSome = true := by
  induction path generalizing slot with
  | nil =>
      obtain rfl := Option.some.inj h
      exact hslot rfl
  | cons index path ih =>
      cases hnext : callback.goesOn test slot with
      | skip => simp [found?_cons_of_skip hnext] at h
      | descend =>
          rw [found?_cons hnext] at h
          obtain ⟨child, hchild, h⟩ := Option.bind_eq_some_iff.1 h
          obtain ⟨parent, node, -, -, rfl⟩ := Node.childSlot?_eq_some_iff.1 hchild
          exact ih h fun _ => rfl

/-- Where nothing is put into the slots on the way, the walk finds what is in the tree. -/
theorem at?_of_found? {path : List Nat} (h : callback.found? test slot path = some found)
    (hkept : ∀ above below outer, path = above ++ below → below ≠ [] →
      callback.found? test slot above = some outer → callback.put? test outer = none) :
    slot.at? path = some found := by
  induction path generalizing slot with
  | nil => exact h
  | cons index path ih =>
      have hhere := hkept [] (index :: path) slot rfl (List.cons_ne_nil index path) rfl
      cases hnext : callback.goesOn test slot with
      | skip => simp [found?_cons_of_skip hnext] at h
      | descend =>
          rw [found?_cons hnext, occupant_of_none hhere] at h
          obtain ⟨child, hchild, h⟩ := Option.bind_eq_some_iff.1 h
          rw [Slot.at?, hchild, Option.bind_some]
          refine ih h fun above below outer hpath hbelow houter => ?_
          refine hkept (index :: above) below outer (congrArg _ hpath) hbelow ?_
          rwa [found?_cons hnext, occupant_of_none hhere, hchild, Option.bind_some]

/-- Nothing is put into a slot on the way to one into which a tree is put, so that one is in the
tree. -/
theorem at?_of_put? {path : List Nat} {node : Node} (hsettled : callback.Settled test slot)
    (hfound : callback.found? test slot path = some found)
    (hput : callback.put? test found = some node) : slot.at? path = some found := by
  refine at?_of_found? hfound fun above below outer hpath hbelow houter => ?_
  refine Option.eq_none_iff_forall_ne_some.2 fun other hother => ?_
  have hnone := hsettled houter hother hbelow (hpath ▸ hfound)
  exact absurd (hput.symm.trans hnone) nofun

/-- Below a slot into which a tree was put, the walk finds what is in that tree. -/
theorem at?_of_found?_put {above below : List Nat} {outer inner : Slot} {node : Node}
    (hsettled : callback.Settled test slot) (houter : callback.found? test slot above = some outer)
    (hput : callback.put? test outer = some node) (hbelow : below ≠ [])
    (hinner : callback.found? test slot (above ++ below) = some inner) :
    node.at? below = some inner.node := by
  have hfound : ∀ path, callback.found? test slot (above ++ path) =
      callback.found? test outer path := fun path => by
    rw [found?_append, houter, Option.bind_some]
  obtain ⟨index, below, rfl⟩ := List.exists_cons_of_ne_nil hbelow
  have hthere := hinner
  rw [hfound] at hthere
  cases hnext : callback.goesOn test outer with
  | skip => simp [found?_cons_of_skip hnext] at hthere
  | descend =>
      have hoccupant : callback.occupant test outer = node := by
        rw [occupant, hput, Option.getD_some]
      rw [found?_cons hnext, hoccupant] at hthere
      obtain ⟨child, hchild, hthere⟩ := Option.bind_eq_some_iff.1 hthere
      have hat : child.at? below = some inner := by
        refine at?_of_found? hthere fun before after other hpath hafter hother => ?_
        refine hsettled houter hput (List.cons_ne_nil index before) ?_
        rwa [hfound, found?_cons hnext, hoccupant, hchild, Option.bind_some]
      rw [Node.at?, ← Node.node_of_childSlot?, hchild, Option.map_some, Option.bind_some,
        Slot.node_of_at? hat]

/-- Where nothing is put into a slot and those on the way to it, the node there is kept, with
as many children. -/
theorem exists_children_of_at? {levels : Nat} {seen last : List Encounter} {final node : Node}
    {path : List Nat} (h : walkSlot test callback.visitor levels seen slot = some (last, final))
    (hnode : slot.node.at? path = some node)
    (hkept : ∀ above below outer, path = above ++ below →
      callback.found? test slot above = some outer → callback.put? test outer = none) :
    ∃ children, children.length = node.children.length ∧
      final.at? path = some (node.withChildren children) := by
  induction path generalizing levels seen last slot final with
  | nil =>
      obtain rfl := Option.some.inj hnode
      obtain ⟨children, hlength, rfl⟩ := exists_children_of_walkSlot h
      rw [occupant_of_none (hkept [] [] slot rfl rfl)] at hlength ⊢
      exact ⟨children, hlength, rfl⟩
  | cons index path ih =>
      have hhere := occupant_of_none (hkept [] (index :: path) slot rfl rfl)
      cases levels with
      | zero => exact absurd h nofun
      | succ levels =>
          rcases walkSlot_cases h with ⟨-, -, rfl⟩ | ⟨parent, children, hnext, hparent, hlist, rfl⟩
          · exact ⟨node.children, rfl, by rw [hhere, hnode, node.withChildren_children]⟩
          · obtain ⟨child, hchild, hbelow⟩ := Option.bind_eq_some_iff.1 hnode
            rw [hhere] at hlist hparent
            obtain ⟨before, after, child', hwalk, hchild'⟩ := getElem?_visitChildren hlist hchild
            rw [Nat.zero_add] at hwalk
            rw [Node.at?_cons (by rwa [hhere, Node.children_withChildren (Parent.hasChildList hparent)])]
            refine ih hwalk hbelow fun above below outer hpath houter => ?_
            refine hkept (index :: above) below outer (congrArg _ hpath) ?_
            rwa [found?_cons hnext, hhere, Node.childSlot?, hparent, Option.bind_some, hchild,
              Option.map_some, Option.bind_some]

end Callback

/-! ### Outcomes -/

/-- What the calls of a callback say about a walk through a tree. A call at a path below the
top replaces the node there if the callback wants a replacement. -/
structure Callback.Outcome (callback : Callback) (test : Node → Bool) (tree final : Node)
    (log : List (List Nat × Encounter)) : Prop where
  /-- Each place is met once, in document order. -/
  ascending : (log.map (·.1)).Pairwise (· < ·)
  /-- A call is for what the walk finds at its path. -/
  called : ∀ {path call}, (path, call) ∈ log →
    callback.found? test ⟨tree, none⟩ path = some call.slot ∧ test call.slot.node = true
  /-- There is a call for everything that the walk finds and that passes the test. -/
  complete : ∀ {path slot}, callback.found? test ⟨tree, none⟩ path = some slot →
    test slot.node = true → ∃ call, (path, call) ∈ log ∧ call.slot = slot
  /-- A replacement gives back the subtree that was in the slot, and nothing at the top. -/
  answer : ∀ {path call}, (path, call) ∈ log →
    call.displaced = (callback call.slot).replacement.map fun _ =>
      if path = [] then none else some call.slot.node
  /-- If the callback wants the walk to go on, it comes to all children of the new occupant. -/
  descends : ∀ {path call index child}, (path, call) ∈ log →
    (callback call.slot).next = .descend →
      (callback.occupant test call.slot).children[index]? = some child →
        ∃ slot, callback.found? test ⟨tree, none⟩ (path ++ [index]) = some slot ∧
          slot.node = child
  /-- What is met outside of replacements is in the tree. -/
  original : ∀ {path call}, (path, call) ∈ log →
    (∀ above below outer, path = above ++ below → above ≠ [] → below ≠ [] →
      (above, outer) ∈ log → (callback outer.slot).replacement = none) →
        tree.at? path = some call.slot.node
  /-- What is met below a replaced node is in the replacement: nothing of what was displaced is
  met any more. -/
  inserted : ∀ {above below outer inner node}, (above, outer) ∈ log → above ≠ [] →
    (callback outer.slot).replacement = some node → below ≠ [] →
      (above ++ below, inner) ∈ log → node.at? below = some inner.slot.node
  /-- A replaced node is one of the tree, and its replacement is there in the end. -/
  replaced : ∀ {path call node}, (path, call) ∈ log → path ≠ [] →
    (callback call.slot).replacement = some node →
      tree.at? path = some call.slot.node ∧ final.at? path = some node
  /-- The index and the parent that were shown are those in the final tree. -/
  standing : ∀ {path call}, (path, call) ∈ log →
    ∃ node, Slot.at? ⟨final, none⟩ path = some ⟨node, call.slot.position⟩
  /-- Outside of what was replaced each node is kept, with as many children; so is the top. -/
  kept : ∀ {path node}, tree.at? path = some node →
    (∀ above below outer, path = above ++ below → above ≠ [] → (above, outer) ∈ log →
      (callback outer.slot).replacement = none) →
        ∃ children, children.length = node.children.length ∧
          final.at? path = some (node.withChildren children)

namespace Callback

variable {callback : Callback} {test : Node → Bool} {tree final : Node}

/-- The calls of a walk with their paths. -/
def log (callback : Callback) (test : Node → Bool) (tree final : Node) :
    List (List Nat × Encounter) :=
  final.paths.filterMap fun path =>
    (callback.callAt? test ⟨tree, none⟩ path).map fun call => (path, call)

theorem callAt?_eq_some_iff {slot : Slot} {path : List Nat} {call : Encounter} :
    callback.callAt? test slot path = some call ↔ ∃ found,
      callback.found? test slot path = some found ∧ test found.node = true ∧
        call = callback.encounter found := by
  simp only [callAt?, Option.bind_eq_some_iff, call?]
  refine exists_congr fun found => and_congr_right fun _ => ?_
  cases test found.node <;> simp [eq_comm]

/-- The path of a call is one of the final tree, so the log has all calls. -/
theorem mem_log_iff {levels : Nat} {last : List Encounter}
    (h : walkSlot test callback.visitor levels [] ⟨tree, none⟩ = some (last, final))
    {path : List Nat} {call : Encounter} :
    (path, call) ∈ callback.log test tree final ↔ ∃ found,
      callback.found? test ⟨tree, none⟩ path = some found ∧ test found.node = true ∧
        call = callback.encounter found := by
  rw [← callAt?_eq_some_iff, log, List.mem_filterMap]
  constructor
  · rintro ⟨other, -, hcall⟩
    obtain ⟨same, hsame, heq⟩ := Option.map_eq_some_iff.1 hcall
    obtain ⟨rfl, rfl⟩ := Prod.mk.inj heq
    exact hsame
  · intro hcall
    obtain ⟨found, hfound, -⟩ := callAt?_eq_some_iff.1 hcall
    obtain ⟨_, _, _, node, -, hat⟩ := walkSlot_at? h hfound
    refine ⟨path, Node.mem_paths_iff.2 ⟨node, ?_⟩, by rw [hcall, Option.map_some]⟩
    exact Slot.node_of_at? hat

/-- Below the top, what a callback wants put into a slot is put there. -/
theorem put?_eq_replacement {path : List Nat} {found : Slot}
    (hfound : callback.found? test ⟨tree, none⟩ path = some found) (htest : test found.node = true)
    (hpath : path ≠ []) : callback.put? test found = (callback found).replacement :=
  if_pos ⟨htest, isSome_position_of_found? hfound fun hnil => absurd hnil hpath⟩

/-- Nothing is put into a slot if no call wants that. -/
theorem put?_eq_none_of_log {levels : Nat} {last : List Encounter}
    (h : walkSlot test callback.visitor levels [] ⟨tree, none⟩ = some (last, final))
    {path : List Nat} {found : Slot}
    (hfound : callback.found? test ⟨tree, none⟩ path = some found)
    (hnone : ∀ call, path ≠ [] → (path, call) ∈ callback.log test tree final →
      (callback call.slot).replacement = none) : callback.put? test found = none := by
  by_cases htest : test found.node = true
  · by_cases hpath : path = []
    · subst hpath
      obtain rfl := Option.some.inj hfound
      exact if_neg fun hboth => Bool.false_ne_true hboth.2
    · rw [put?_eq_replacement hfound htest hpath]
      exact hnone _ hpath ((mem_log_iff h).2 ⟨found, hfound, htest, rfl⟩)
  · exact if_neg fun hboth => htest hboth.1

/-- **Outcome.** A walk that ends, and puts nothing into what it put into the tree, has the
outcome that its calls tell. -/
theorem outcome_of_walkSlot {levels : Nat} {last : List Encounter}
    (hsettled : callback.Settled test ⟨tree, none⟩)
    (h : walkSlot test callback.visitor levels [] ⟨tree, none⟩ = some (last, final)) :
    callback.Outcome test tree final (callback.log test tree final) where
  ascending := by
    rw [List.pairwise_map, log, List.pairwise_filterMap]
    refine (Node.pairwise_paths final).imp fun hlt call hcall call' hcall' => ?_
    obtain ⟨_, -, rfl⟩ := Option.map_eq_some_iff.1 hcall
    obtain ⟨_, -, rfl⟩ := Option.map_eq_some_iff.1 hcall'
    exact hlt
  called hmem := by
    obtain ⟨found, hfound, htest, rfl⟩ := (mem_log_iff h).1 hmem
    exact ⟨hfound, htest⟩
  complete {path slot} hfound htest :=
    ⟨callback.encounter slot, (mem_log_iff h).2 ⟨slot, hfound, htest, rfl⟩, rfl⟩
  answer {path call} hmem := by
    obtain ⟨found, hfound, -, rfl⟩ := (mem_log_iff h).1 hmem
    refine congrArg (Option.map · (callback found).replacement) (funext fun node => ?_)
    split
    · next hpath =>
        subst hpath
        obtain rfl := Option.some.inj hfound
        rfl
    · next hpath =>
        have hposition := isSome_position_of_found? hfound fun hnil => absurd hnil hpath
        obtain ⟨position, hposition⟩ := Option.isSome_iff_exists.1 hposition
        rw [Slot.replace, hposition]
        rfl
  descends {path call index child} hmem hnext hchild := by
    obtain ⟨found, hfound, htest, rfl⟩ := (mem_log_iff h).1 hmem
    have hgoes : callback.goesOn test found = .descend := (if_pos htest).trans hnext
    have hslot := Node.node_of_childSlot? (callback.occupant test found) index
    obtain ⟨slot, hslot, hnode⟩ := Option.map_eq_some_iff.1 (hslot.trans hchild)
    refine ⟨slot, ?_, hnode⟩
    rw [found?_append, hfound, Option.bind_some, found?_cons hgoes, hslot]
    rfl
  original {path call} hmem hkept := by
    obtain ⟨found, hfound, htest, rfl⟩ := (mem_log_iff h).1 hmem
    have hat := at?_of_found? hfound fun above below outer hpath hbelow houter =>
      put?_eq_none_of_log h houter fun call habove => hkept above below call hpath habove hbelow
    exact Slot.node_of_at? hat
  inserted {above below outer inner node} houter habove hnode hbelow hinner := by
    obtain ⟨found, hfound, htest, rfl⟩ := (mem_log_iff h).1 houter
    obtain ⟨deeper, hdeeper, -, rfl⟩ := (mem_log_iff h).1 hinner
    exact at?_of_found?_put hsettled hfound
      ((put?_eq_replacement hfound htest habove).trans hnode) hbelow hdeeper
  replaced {path call node} hmem hpath hnode := by
    obtain ⟨found, hfound, htest, rfl⟩ := (mem_log_iff h).1 hmem
    have hput := (put?_eq_replacement hfound htest hpath).trans hnode
    constructor
    · exact Slot.node_of_at? (at?_of_put? hsettled hfound hput)
    · obtain ⟨_, _, _, left, hwalk, hat⟩ := walkSlot_at? h hfound
      have hleft : left = node := by
        rw [eq_occupant_of_walkSlot hwalk fun index below inner hinner => ?_, occupant, hput,
          Option.getD_some]
        refine hsettled hfound hput (List.cons_ne_nil index below) ?_
        rw [found?_append, hfound, Option.bind_some, hinner]
      rw [← hleft]
      exact Slot.node_of_at? hat
  standing {path call} hmem := by
    obtain ⟨found, hfound, htest, rfl⟩ := (mem_log_iff h).1 hmem
    obtain ⟨_, _, _, node, -, hat⟩ := walkSlot_at? h hfound
    exact ⟨node, hat⟩
  kept {path node} hnode hkept :=
    exists_children_of_at? h hnode fun above below outer hpath houter =>
      put?_eq_none_of_log h houter fun call habove => hkept above below call hpath habove

/-- Trees that are put into the slots that a walk finds have a greatest height. -/
theorem exists_bound (hsettled : callback.Settled test ⟨tree, none⟩) :
    ∃ bound, ∀ path found node, callback.found? test ⟨tree, none⟩ path = some found →
      callback.put? test found = some node → node.height ≤ bound := by
  -- These slots are places of the tree, as none lies below another one.
  let puts := tree.paths.filterMap fun path =>
    (callback.found? test ⟨tree, none⟩ path).bind (callback.put? test)
  refine ⟨Node.heightList puts, fun path found node hfound hput => Node.height_le_heightList ?_⟩
  have hnode := Slot.node_of_at? (at?_of_put? hsettled hfound hput)
  refine List.mem_filterMap.2 ⟨path, Node.mem_paths_iff.2 ⟨_, hnode⟩, ?_⟩
  rw [hfound, Option.bind_some, hput]

/-! ### Tables and rules -/

/-- The callback that looks up the label of the node. -/
def ofLabels (edits : String → Edit) : Callback := fun slot => edits slot.node.label

end Callback

/-- What a list of rules wants done with the nodes of a label: what the first rule for it says. -/
def Rule.edits (rules : List Rule) (label : String) : Edit :=
  match rules.find? (·.label == label) with
  | none => ⟨none, .descend⟩
  | some rule => ⟨rule.replacement, rule.next⟩

/-- What an editing walk by rules records of a call. -/
def Encounter.sighting (call : Encounter) : Sighting :=
  ⟨call.slot.node.label, call.slot.position, call.displaced⟩

namespace Rule

variable {rules : List Rule}

theorem visitor_map_sighting (seen : List Encounter) (slot : Slot) :
    visitor rules (seen.map Encounter.sighting) slot =
      ⟨((Callback.ofLabels (edits rules)).visitor seen slot).state.map Encounter.sighting,
        ((Callback.ofLabels (edits rules)).visitor seen slot).node,
        ((Callback.ofLabels (edits rules)).visitor seen slot).next⟩ := by
  rw [visitor, Callback.visitor, List.map_append]
  simp only [List.map_cons, List.map_nil, Encounter.sighting, Callback.encounter, Callback.leaves,
    Callback.ofLabels, edits]
  cases rules.find? (·.label == slot.node.label) with
  | none => rfl
  | some rule =>
      obtain ⟨label, replacement, next⟩ := rule
      cases replacement <;> rfl

theorem exists_of_edits {label : String} {node : Node}
    (h : (edits rules label).replacement = some node) :
    ∃ rule ∈ rules, rule.replacement = some node ∧ (edits rules label).next = rule.next := by
  unfold edits at h ⊢
  cases hrule : rules.find? (·.label == label) with
  | none => simp [hrule] at h
  | some rule =>
      rw [hrule] at h
      exact ⟨rule, List.mem_of_find?_eq_some hrule, h, rfl⟩

theorem le_foldl_levels (start : Nat) :
    start ≤ rules.foldl (fun levels rule => levels + (rule.replacement.map Node.height).getD 0)
        start ∧
      ∀ rule ∈ rules, start + (rule.replacement.map Node.height).getD 0 ≤
        rules.foldl (fun levels rule => levels + (rule.replacement.map Node.height).getD 0)
          start := by
  induction rules generalizing start with
  | nil => exact ⟨Nat.le_refl _, nofun⟩
  | cons first rest ih =>
      obtain ⟨hstart, hrest⟩ := ih (start + (first.replacement.map Node.height).getD 0)
      rw [List.foldl_cons]
      refine ⟨Nat.le_trans (Nat.le_add_right _ _) hstart, fun rule hrule => ?_⟩
      rcases List.mem_cons.1 hrule with rfl | hrule
      · exact hstart
      · have hlater := hrest rule hrule
        omega

/-- The levels that a walk by rules is given are enough for the tree. -/
theorem height_le_levels (tree : Node) : tree.height ≤ levels rules tree :=
  (le_foldl_levels tree.height).1

/-- Besides those of the tree, they are enough for any of the replacements. -/
theorem height_add_height_le_levels {label : String} {node : Node}
    (h : (edits rules label).replacement = some node) (tree : Node) :
    tree.height + node.height ≤ levels rules tree := by
  obtain ⟨rule, hrule, hnode, -⟩ := exists_of_edits h
  have hle := (le_foldl_levels tree.height).2 rule hrule
  rwa [hnode, Option.map_some, Option.getD_some] at hle

end Rule

/-! ### A check on the rules -/

namespace Callback

variable {edits : String → Edit} {test : Node → Bool}

/-- In a tree with no label that the table replaces, the walk finds nothing but its nodes. -/
theorem mem_nodes_of_found? {slot found : Slot} {path : List Nat}
    (hnone : ∀ node ∈ slot.node.nodes, (edits node.label).replacement = none)
    (h : (ofLabels edits).found? test slot path = some found) : found.node ∈ slot.node.nodes := by
  induction path generalizing slot with
  | nil =>
      obtain rfl := Option.some.inj h
      rw [Node.nodes_eq]
      exact List.mem_cons_self
  | cons index path ih =>
      have hput : (ofLabels edits).put? test slot = none := by
        refine Option.eq_none_iff_forall_ne_some.2 fun node hnode => ?_
        have hhere := hnone slot.node (slot.node.nodes_eq ▸ List.mem_cons_self)
        exact absurd ((put?_eq_some_iff.1 hnode).2.2.symm.trans hhere) nofun
      cases hnext : (ofLabels edits).goesOn test slot with
      | skip => simp [found?_cons_of_skip hnext] at h
      | descend =>
          rw [found?_cons hnext, occupant_of_none hput] at h
          obtain ⟨child, hchild, h⟩ := Option.bind_eq_some_iff.1 h
          obtain ⟨parent, node, -, hnode, rfl⟩ := Node.childSlot?_eq_some_iff.1 hchild
          have hinside : ∀ inner ∈ node.nodes, inner ∈ slot.node.nodes := fun inner hinner => by
            rw [Node.nodes_eq, Node.nodesList_eq_flatMap]
            exact List.mem_cons_of_mem _
              (List.mem_flatMap.2 ⟨node, List.mem_of_getElem? hnode, hinner⟩)
          exact hinside _ (ih (fun inner hinner => hnone inner (hinside inner hinner)) h)

/-- It is enough that no label below the top of a replacement that is walked is replaced. -/
theorem settled_of_labels (slot : Slot)
    (h : ∀ label node, (edits label).next = .descend → (edits label).replacement = some node →
      ∀ inner ∈ Node.nodesList node.children, (edits inner.label).replacement = none) :
    (ofLabels edits).Settled test slot := by
  intro above below outer inner node houter hput hbelow hinner
  obtain ⟨htest, -, hnode⟩ := put?_eq_some_iff.1 hput
  obtain ⟨index, below, rfl⟩ := List.exists_cons_of_ne_nil hbelow
  rw [found?_append, houter, Option.bind_some] at hinner
  cases hnext : (ofLabels edits).goesOn test outer with
  | skip => simp [found?_cons_of_skip hnext] at hinner
  | descend =>
      have hnone := h outer.node.label node ((if_pos htest).symm.trans hnext) hnode
      rw [found?_cons hnext, occupant, hput, Option.getD_some] at hinner
      obtain ⟨child, hchild, hinner⟩ := Option.bind_eq_some_iff.1 hinner
      obtain ⟨parent, top, -, htop, rfl⟩ := Node.childSlot?_eq_some_iff.1 hchild
      have hinside : ∀ other ∈ top.nodes, other ∈ Node.nodesList node.children :=
        fun other hother => by
          rw [Node.nodesList_eq_flatMap]
          exact List.mem_flatMap.2 ⟨top, List.mem_of_getElem? htop, hother⟩
      have hmem := mem_nodes_of_found? (fun other hother => hnone other (hinside other hother)) hinner
      refine Option.eq_none_iff_forall_ne_some.2 fun other hother => ?_
      have hlabel := hnone inner.node (hinside _ hmem)
      exact absurd ((put?_eq_some_iff.1 hother).2.2.symm.trans hlabel) (Option.some_ne_none other)

end Callback

/-- The check for a list of rules. -/
theorem Rule.settled_of_rules {rules : List Rule} {test : Node → Bool} (slot : Slot)
    (h : ∀ rule ∈ rules, rule.next = .descend → ∀ node ∈ rule.replacement,
      ∀ inner ∈ Node.nodesList node.children, (edits rules inner.label).replacement = none) :
    (Callback.ofLabels (edits rules)).Settled test slot := by
  refine Callback.settled_of_labels slot fun label node hnext hnode => ?_
  obtain ⟨rule, hrule, hreplacement, hsame⟩ := exists_of_edits hnode
  exact h rule hrule (hsame.symm.trans hnext) node hreplacement

/-! ### Editing -/

open Callback in
/-- **Replacing by labels.** For every tree, test and table of labels that puts nothing into
what it has put there before, the walk ends however many levels more it is given, and has the
outcome that its calls tell. So does the walk by every list of rules that stands for the
table. -/
theorem Node.visitMut?_ofLabels {test : Node → Bool} {edits : String → Edit} {tree : Node}
    (hsettled : (ofLabels edits).Settled test ⟨tree, none⟩) :
    ∃ (log : List (List Nat × Encounter)) (final : Node),
      (∃ bound, ∀ levels, bound ≤ levels →
        tree.visitMut? test (ofLabels edits).visitor levels [] =
          some (log.map (·.2), final)) ∧
      (∀ rules, Rule.edits rules = edits →
        tree.edit? test rules = some (log.map (·.2.sighting), final)) ∧
      (ofLabels edits).Outcome test tree final log := by
  obtain ⟨bound, hbound⟩ := exists_bound hsettled
  obtain ⟨⟨seen, final⟩, hwalk⟩ := exists_walkSlot _ hsettled hbound (Nat.le_refl _) []
  have hseen : seen = ((ofLabels edits).log test tree final).map (·.2) := by
    rw [calls_of_walkSlot hwalk, log, List.map_filterMap, List.nil_append]
    refine List.filterMap_congr fun path _ => ?_
    cases (ofLabels edits).callAt? test ⟨tree, none⟩ path <;> rfl
  refine ⟨(ofLabels edits).log test tree final, final, ⟨tree.height + bound, fun levels hlevels => ?_⟩,
    fun rules hrules => ?_, outcome_of_walkSlot hsettled hwalk⟩
  · rw [← hseen]
    exact walkSlot_mono hlevels hwalk
  · subst hrules
    have henough : tree.height ≤ Rule.levels rules tree := Rule.height_le_levels tree
    obtain ⟨result, hresult⟩ :=
      exists_walkSlot (Rule.levels rules tree - tree.height) hsettled
        (fun path found node _ hput => Nat.le_sub_of_add_le'
          (Rule.height_add_height_le_levels (put?_eq_some_iff.1 hput).2.2 tree))
        (Nat.le_of_eq (Nat.add_sub_cancel' henough)) []
    have hsame : result = (seen, final) := Option.some.inj
      ((walkSlot_mono (Nat.le_max_left _ _) hresult).symm.trans
        (walkSlot_mono (Nat.le_max_right _ _) hwalk))
    have hedit := walkSlot_map (List.map Encounter.sighting)
      Rule.visitor_map_sighting (Nat.le_refl _) (hsame ▸ hresult)
    rw [hseen, List.map_map] at hedit
    exact hedit

/-- A list gives way to one that is walked, with an item that is skipped; emphasis gives way
to a paragraph with emphasis, which is not walked; and the top stays. -/
theorem Node.visitMut?_ofLabels_lists :
    let rules : List Rule :=
      [⟨"ul", some (.plain "ol" [.plain "li" [.text "x"]]), .descend⟩, ⟨"li", none, .skip⟩,
        ⟨"em", some (.plain "p" [.plain "em" []]), .skip⟩, ⟨"#root", some (.text "y"), .descend⟩]
    let tree : Node := .root [.plain "ul" [.plain "em" []], .plain "em" []]
    let final : Node := .root [.plain "ol" [.plain "li" [.text "x"]], .plain "p" [.plain "em" []]]
    (Callback.ofLabels (Rule.edits rules)).Settled (fun _ => true) ⟨tree, none⟩ ∧
      ∃ log, tree.edit? (fun _ => true) rules = some (log.map (·.2.sighting), final) ∧
        (Callback.ofLabels (Rule.edits rules)).Outcome (fun _ => true) tree final log := by
  intro rules tree final
  have hsettled : (Callback.ofLabels (Rule.edits rules)).Settled (fun _ => true) ⟨tree, none⟩ :=
    Rule.settled_of_rules _ (by decide)
  obtain ⟨log, left, -, hedit, houtcome⟩ := Node.visitMut?_ofLabels hsettled
  have hleft : (tree.edit? (fun _ => true) rules).map (·.2) = some final := by decide +kernel
  obtain rfl : left = final := by
    rw [hedit rules rfl] at hleft
    exact Option.some.inj hleft
  exact ⟨hsettled, log, hedit rules rfl, houtcome⟩

end PostPress
