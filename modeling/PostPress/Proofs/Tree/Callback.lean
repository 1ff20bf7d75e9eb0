import PostPress.Proofs.Tree.Path

/-!
# PostPress.Proofs.Tree.Callback

**Walks with a callback.** A callback says for a slot which tree is put there, if any, and
whether the walk goes on below. So what a walk does can be said path by path, without the
order of the calls and the tree that changes meanwhile.

* `Callback`, `Encounter` — a callback, and the record of one call;
* `Callback.put?`, `occupant`, `goesOn` — what one visit does to a slot;
* `Callback.found?` — what the walk finds at a path when it comes there;
* `Callback.Settled` — nothing is replaced inside what was put there before.

`calls_of_walkSlot` says which calls a walk makes, `walkSlot_at?` what it leaves at a path,
and `exists_walkSlot` that it ends.
-/

namespace PostPress

/-- What a callback wants done with the node in a slot. -/
structure Edit where
  /-- The tree that is to take its place, if one is. -/
  replacement : Option Node
  /-- Whether the walk goes on below. -/
  next : Visit
deriving DecidableEq, Repr

/-- A callback that wants the same whenever it is shown the same slot. -/
abbrev Callback := Slot → Edit

/-- One call of a callback. -/
structure Encounter where
  /-- The slot that it was shown. -/
  slot : Slot
  /-- The displaced node if a replacement was asked for: nothing inside if it was refused. -/
  displaced : Option (Option Node)
deriving DecidableEq, Repr

namespace Callback

/-! ### One visit -/

section Visit

variable (callback : Callback) (test : Node → Bool)

/-- The record of a call. -/
def encounter (slot : Slot) : Encounter :=
  ⟨slot, (callback slot).replacement.map fun node => (slot.replace node).2⟩

/-- The node that a call leaves in the slot. -/
def leaves (slot : Slot) : Node :=
  match (callback slot).replacement with
  | none => slot.node
  | some node => (slot.replace node).1.node

/-- The visitor that does what a callback wants, and records the calls. -/
def visitor : Visitor (List Encounter) := fun seen slot =>
  ⟨seen ++ [callback.encounter slot], callback.leaves slot, (callback slot).next⟩

/-- The call for a slot: there is one if the node passes the test. -/
def call? (slot : Slot) : Option Encounter :=
  if test slot.node then some (callback.encounter slot) else none

/-- The tree that is put into a slot. At the top of a tree there is none. -/
def put? (slot : Slot) : Option Node :=
  if test slot.node ∧ slot.position.isSome then (callback slot).replacement else none

/-- What occupies a slot after the visit. -/
def occupant (slot : Slot) : Node := (callback.put? test slot).getD slot.node

/-- Whether the walk goes on below a slot. -/
def goesOn (slot : Slot) : PostPress.Visit :=
  if test slot.node then (callback slot).next else .descend

theorem tested_visitor (seen : List Encounter) (slot : Slot) :
    callback.visitor.tested test seen slot =
      ⟨seen ++ (callback.call? test slot).toList, callback.occupant test slot,
        callback.goesOn test slot⟩ := by
  obtain ⟨node, position⟩ := slot
  by_cases htest : test node = true
  · cases position with
    | none =>
        -- A replacement at the top is refused.
        simp only [Visitor.tested, visitor, leaves, call?, occupant, put?, goesOn, htest]
        cases (callback ⟨node, none⟩).replacement <;> rfl
    | some position =>
        simp only [Visitor.tested, visitor, leaves, call?, occupant, put?, goesOn, htest]
        cases (callback ⟨node, some position⟩).replacement <;> rfl
  · simp [Visitor.tested, call?, occupant, put?, goesOn, htest]

/-- What the walk of a slot finds at a path when it comes there: it goes from a slot to the
children of what occupies it after the visit. -/
def found? : Slot → List Nat → Option Slot
  | slot, [] => some slot
  | slot, index :: path =>
      match callback.goesOn test slot with
      | .skip => none
      | .descend =>
          ((callback.occupant test slot).childSlot? index).bind fun child => found? child path

/-- The call that is made at a path. -/
def callAt? (slot : Slot) (path : List Nat) : Option Encounter :=
  (callback.found? test slot path).bind (callback.call? test)

end Visit

variable {callback : Callback} {test : Node → Bool}

theorem occupant_of_none {slot : Slot} (h : callback.put? test slot = none) :
    callback.occupant test slot = slot.node := by
  rw [occupant, h, Option.getD_none]

theorem found?_cons {slot : Slot} (h : callback.goesOn test slot = .descend) (index : Nat)
    (path : List Nat) : callback.found? test slot (index :: path) =
      ((callback.occupant test slot).childSlot? index).bind fun child =>
        callback.found? test child path := by
  rw [found?, h]

theorem found?_cons_of_skip {slot : Slot} (h : callback.goesOn test slot = .skip) (index : Nat)
    (path : List Nat) : callback.found? test slot (index :: path) = none := by
  rw [found?, h]

theorem found?_append (slot : Slot) (path below : List Nat) :
    callback.found? test slot (path ++ below) =
      (callback.found? test slot path).bind fun found => callback.found? test found below := by
  induction path generalizing slot with
  | nil => rfl
  | cons index path ih =>
      cases hnext : callback.goesOn test slot with
      | skip => rw [List.cons_append, found?_cons_of_skip hnext, found?_cons_of_skip hnext]; rfl
      | descend => simp only [List.cons_append, found?_cons hnext, ih, Option.bind_assoc]

/-! ### What a walk leaves -/

/-- A walk ends at a slot, or goes on with the children of what occupies it. -/
theorem walkSlot_cases {levels : Nat} {seen last : List Encounter} {slot : Slot} {final : Node}
    (h : walkSlot test callback.visitor (levels + 1) seen slot = some (last, final)) :
    (∀ index path, callback.found? test slot (index :: path) = none) ∧
        last = seen ++ (callback.call? test slot).toList ∧ final = callback.occupant test slot ∨
      ∃ parent children, callback.goesOn test slot = .descend ∧
        Parent.ofNode? (callback.occupant test slot) = some parent ∧
        visitChildren (walkSlot test callback.visitor levels) parent 0
          (seen ++ (callback.call? test slot).toList) (callback.occupant test slot).children =
            some (last, children) ∧
        final = (callback.occupant test slot).withChildren children := by
  rw [walkSlot_succ, tested_visitor] at h
  cases hnext : callback.goesOn test slot with
  | skip =>
      rw [hnext] at h
      obtain ⟨rfl, rfl⟩ := Prod.mk.inj (Option.some.inj h)
      exact .inl ⟨found?_cons_of_skip hnext, rfl, rfl⟩
  | descend =>
      rw [hnext] at h
      simp only [Visited.parent?] at h
      split at h
      · next hparent =>
          obtain ⟨rfl, rfl⟩ := Prod.mk.inj (Option.some.inj h)
          refine .inl ⟨fun index path => ?_, rfl, rfl⟩
          rw [found?_cons hnext, Node.childSlot?, hparent]
          rfl
      · next parent hparent =>
          obtain ⟨⟨state, children⟩, hlist, h⟩ := Option.map_eq_some_iff.1 h
          obtain ⟨rfl, rfl⟩ := Prod.mk.inj h
          exact .inr ⟨parent, children, rfl, hparent, hlist, rfl⟩

universe u

theorem length_visitChildren {σ : Type u} {walk : σ → Slot → Option (σ × Node)} {parent : Parent}
    {index : Nat} {state last : σ} {children children' : List Node}
    (h : visitChildren walk parent index state children = some (last, children')) :
    children'.length = children.length :=
  (visitChildren_rel (R := fun _ _ => True) (fun _ => trivial) h).length_eq.symm

/-- What the walk of the children of a parent leaves at an index, it leaves in the slot of that
child. -/
theorem getElem?_visitChildren {σ : Type u} {walk : σ → Slot → Option (σ × Node)}
    {parent : Parent} {index : Nat} {state last : σ} {children children' : List Node}
    (h : visitChildren walk parent index state children = some (last, children')) {i : Nat}
    {child : Node} (hchild : children[i]? = some child) :
    ∃ before after child', walk before ⟨child, some (index + i, parent)⟩ = some (after, child') ∧
      children'[i]? = some child' := by
  induction children generalizing index state children' i with
  | nil => exact absurd hchild nofun
  | cons first rest ih =>
      obtain ⟨between, first', rest', hfirst, hrest, rfl⟩ := visitChildren_cons_eq_some_iff.1 h
      cases i with
      | zero =>
          obtain rfl : first = child := Option.some.inj hchild
          exact ⟨state, between, first', hfirst, rfl⟩
      | succ i =>
          obtain ⟨before, after, child', hwalk, hchild'⟩ := ih hrest hchild
          exact ⟨before, after, child', by rwa [Nat.add_comm i, ← Nat.add_assoc], hchild'⟩

/-- What occupies a slot after the visit stays there, with as many children. -/
theorem exists_children_of_walkSlot {levels : Nat} {seen last : List Encounter} {slot : Slot}
    {final : Node} (h : walkSlot test callback.visitor levels seen slot = some (last, final)) :
    ∃ children, children.length = (callback.occupant test slot).children.length ∧
      final = (callback.occupant test slot).withChildren children := by
  cases levels with
  | zero => exact absurd h nofun
  | succ levels =>
      rcases walkSlot_cases h with ⟨-, -, rfl⟩ | ⟨parent, children, -, -, hlist, rfl⟩
      · exact ⟨_, rfl, (Node.withChildren_children _).symm⟩
      · exact ⟨children, length_visitChildren hlist, rfl⟩

/-- A walk leaves at a path what a walk of the slot leaves that it finds there, and the position
that it finds is the one in the tree that it leaves. -/
theorem walkSlot_at? {levels : Nat} {seen last : List Encounter} {slot found : Slot}
    {final : Node} {path : List Nat}
    (h : walkSlot test callback.visitor levels seen slot = some (last, final))
    (hfound : callback.found? test slot path = some found) :
    ∃ levels before after node,
      walkSlot test callback.visitor levels before found = some (after, node) ∧
        Slot.at? ⟨final, slot.position⟩ path = some ⟨node, found.position⟩ := by
  induction path generalizing levels seen last slot final with
  | nil =>
      obtain rfl := Option.some.inj hfound
      exact ⟨levels, seen, last, final, h, rfl⟩
  | cons index path ih =>
      cases levels with
      | zero => exact absurd h nofun
      | succ levels =>
          rcases walkSlot_cases h with ⟨hnone, -, -⟩ | ⟨parent, children, hnext, hparent, hlist, rfl⟩
          · rw [hnone] at hfound
            exact absurd hfound nofun
          · rw [found?_cons hnext] at hfound
            obtain ⟨child, hchild, hfound⟩ := Option.bind_eq_some_iff.1 hfound
            obtain ⟨other, node, hother, hnode, rfl⟩ := Node.childSlot?_eq_some_iff.1 hchild
            obtain rfl : parent = other := Option.some.inj (hparent.symm.trans hother)
            obtain ⟨before, after, child', hwalk, hchild'⟩ := getElem?_visitChildren hlist hnode
            rw [Nat.zero_add] at hwalk
            rw [Slot.at?, Node.childSlot?_withChildren (length_visitChildren hlist), hparent,
              Option.bind_some, hchild']
            exact ih hwalk hfound

/-- Where nothing is put into the slots below one, its occupant is left as it is. -/
theorem eq_occupant_of_walkSlot {levels : Nat} {seen last : List Encounter} {slot : Slot}
    {final : Node} (h : walkSlot test callback.visitor levels seen slot = some (last, final))
    (hquiet : ∀ index path found, callback.found? test slot (index :: path) = some found →
      callback.put? test found = none) : final = callback.occupant test slot := by
  induction levels generalizing seen last slot final with
  | zero => exact absurd h nofun
  | succ levels ih =>
      rcases walkSlot_cases h with ⟨-, -, rfl⟩ | ⟨parent, children, hnext, hparent, hlist, rfl⟩
      · rfl
      · have hsame : children = (callback.occupant test slot).children := by
          refine List.ext_getElem (length_visitChildren hlist) fun i hi hi' => ?_
          have hget := List.getElem?_eq_getElem hi'
          obtain ⟨before, after, child', hwalk, hchild'⟩ := getElem?_visitChildren hlist hget
          have hslot := Node.childSlot?_eq_some_iff.2 ⟨parent, _, hparent, hget, rfl⟩
          have hfound : ∀ path, callback.found? test slot (i :: path) =
              callback.found? test ⟨_, some (i, parent)⟩ path := fun path => by
            rw [found?_cons hnext, hslot, Option.bind_some]
          rw [Nat.zero_add] at hwalk
          have hchild := ih hwalk fun index path found hbelow =>
            hquiet i (index :: path) found (by rw [hfound, hbelow])
          rw [occupant_of_none (hquiet i [] _ (hfound []))] at hchild
          rw [List.getElem?_eq_getElem hi, hchild] at hchild'
          exact Option.some.inj hchild'
        rw [hsame, Node.withChildren_children]

/-! ### Which calls a walk makes -/

/-- If a walk of the children of a parent makes the calls of some function on paths in the
slot of each child, it makes them in the order of the paths. -/
theorem calls_of_visitChildren (calls : List Nat → Option Encounter) {levels : Nat}
    {parent : Parent} {index : Nat} {seen last : List Encounter} {children children' : List Node}
    (hwalk : ∀ {seen last slot final},
      walkSlot test callback.visitor levels seen slot = some (last, final) →
        last = seen ++ final.paths.filterMap (callback.callAt? test slot))
    (hcalls : ∀ i child path, children[i]? = some child →
      calls ((index + i) :: path) = callback.callAt? test ⟨child, some (index + i, parent)⟩ path)
    (h : visitChildren (walkSlot test callback.visitor levels) parent index seen children =
      some (last, children')) :
    last = seen ++ (Node.pathsFrom index children').filterMap calls := by
  induction children generalizing index seen children' with
  | nil =>
      obtain ⟨rfl, rfl⟩ := Prod.mk.inj (Option.some.inj h)
      exact (List.append_nil _).symm
  | cons first rest ih =>
      obtain ⟨between, first', rest', hfirst, hrest, rfl⟩ := visitChildren_cons_eq_some_iff.1 h
      have hlater := ih (fun i child path hchild => by
        have hsame := hcalls (i + 1) child path hchild
        rwa [Nat.add_comm i, ← Nat.add_assoc] at hsame) hrest
      have hhere : (first'.paths.map (index :: ·)).filterMap calls =
          first'.paths.filterMap (callback.callAt? test ⟨first, some (index, parent)⟩) := by
        rw [List.filterMap_map]
        exact List.filterMap_congr fun path _ => hcalls 0 first path rfl
      rw [hlater, hwalk hfirst, Node.pathsFrom, List.filterMap_append, hhere, List.append_assoc]

/-- **Calls.** A walk makes the calls at the paths of the tree that it leaves, in document
order. -/
theorem calls_of_walkSlot {levels : Nat} {seen last : List Encounter} {slot : Slot} {final : Node}
    (h : walkSlot test callback.visitor levels seen slot = some (last, final)) :
    last = seen ++ final.paths.filterMap (callback.callAt? test slot) := by
  induction levels generalizing seen last slot final with
  | zero => exact absurd h nofun
  | succ levels ih =>
      have hhere : callback.callAt? test slot [] = callback.call? test slot := rfl
      rcases walkSlot_cases h with ⟨hnone, rfl, rfl⟩ | ⟨parent, children, hnext, hparent, hlist, rfl⟩
      · -- The paths below the slot are there, but the walk does not come to them.
        have hbelow : (Node.pathsFrom 0 (callback.occupant test slot).children).filterMap
            (callback.callAt? test slot) = [] := by
          refine List.filterMap_eq_nil_iff.2 fun path hpath => ?_
          obtain ⟨i, child, below, -, rfl, -⟩ := Node.mem_pathsFrom_iff.1 hpath
          rw [callAt?, hnone, Option.bind_none]
        rw [Node.paths_eq, List.filterMap_cons, hhere, hbelow]
        cases callback.call? test slot <;> rfl
      · have hbelow := calls_of_visitChildren (callback.callAt? test slot) ih
          (fun i child path hchild => by
            rw [Nat.zero_add, callAt?, found?_cons hnext, Node.childSlot?, hparent,
              Option.bind_some, hchild]
            rfl) hlist
        rw [hbelow, Node.paths_eq, List.filterMap_cons, hhere,
          Node.children_withChildren (Parent.hasChildList hparent)]
        cases callback.call? test slot with
        | none => simp
        | some call => simp

/-! ### Walks that end -/

/-- A walk follows another one if its visits do. -/
theorem visitChildren_map {σ τ : Type u} {state' : σ → τ} {walk : σ → Slot → Option (σ × Node)}
    {walk' : τ → Slot → Option (τ × Node)}
    (hwalk : ∀ {state slot last node}, walk state slot = some (last, node) →
      walk' (state' state) slot = some (state' last, node))
    {parent : Parent} {index : Nat} {state last : σ} {children children' : List Node}
    (h : visitChildren walk parent index state children = some (last, children')) :
    visitChildren walk' parent index (state' state) children = some (state' last, children') := by
  induction children generalizing index state children' with
  | nil =>
      obtain ⟨rfl, rfl⟩ := Prod.mk.inj (Option.some.inj h)
      rfl
  | cons first rest ih =>
      obtain ⟨between, first', rest', hfirst, hrest, rfl⟩ := visitChildren_cons_eq_some_iff.1 h
      exact visitChildren_cons_eq_some_iff.2
        ⟨state' between, first', rest', hwalk hfirst, ih hrest, rfl⟩

/-- Another visitor that does the same with a state that follows, walks the same way; and more
levels make no difference to a walk that ends. -/
theorem walkSlot_map {σ τ : Type u} (state' : σ → τ) {visitor : Visitor σ} {visitor' : Visitor τ}
    (hvisit : ∀ state slot, visitor' (state' state) slot =
      ⟨state' (visitor state slot).state, (visitor state slot).node, (visitor state slot).next⟩)
    {levels more : Nat} (hmore : levels ≤ more) {state last : σ} {slot : Slot} {node : Node}
    (h : walkSlot test visitor levels state slot = some (last, node)) :
    walkSlot test visitor' more (state' state) slot = some (state' last, node) := by
  induction levels generalizing more state slot last node with
  | zero => exact absurd h nofun
  | succ levels ih =>
      obtain ⟨more, rfl⟩ := Nat.exists_eq_add_one_of_ne_zero (Nat.ne_zero_of_lt hmore)
      have htested : visitor'.tested test (state' state) slot =
          ⟨state' (visitor.tested test state slot).state, (visitor.tested test state slot).node,
            (visitor.tested test state slot).next⟩ := by
        unfold Visitor.tested
        split
        · exact hvisit state slot
        · rfl
      rw [walkSlot_succ] at h ⊢
      rw [htested]
      generalize visitor.tested test state slot = visited at h ⊢
      have hparent : Visited.parent? ⟨state' visited.state, visited.node, visited.next⟩ =
          visited.parent? := rfl
      rw [hparent]
      cases hvisited : visited.parent? with
      | none =>
          rw [hvisited] at h
          obtain ⟨rfl, rfl⟩ := Prod.mk.inj (Option.some.inj h)
          rfl
      | some parent =>
          rw [hvisited] at h
          obtain ⟨⟨walked, children⟩, hlist, h⟩ := Option.map_eq_some_iff.1 h
          obtain ⟨rfl, rfl⟩ := Prod.mk.inj h
          refine Option.map_eq_some_iff.2 ⟨(state' walked, children), ?_, rfl⟩
          exact visitChildren_map (ih (Nat.le_of_succ_le_succ hmore)) hlist

theorem walkSlot_mono {σ : Type u} {visitor : Visitor σ} {levels more : Nat} {state : σ}
    {slot : Slot} {result : σ × Node} (hmore : levels ≤ more)
    (h : walkSlot test visitor levels state slot = some result) :
    walkSlot test visitor more state slot = some result :=
  walkSlot_map id (fun _ _ => rfl) hmore h

theorem exists_visitChildren {σ : Type u} {walk : σ → Slot → Option (σ × Node)} {parent : Parent}
    (index : Nat) {children : List Node}
    (hwalk : ∀ i child, children[i]? = some child → ∀ state,
      ∃ result, walk state ⟨child, some (index + i, parent)⟩ = some result) (state : σ) :
    ∃ result, visitChildren walk parent index state children = some result := by
  induction children generalizing index state with
  | nil => exact ⟨(state, []), rfl⟩
  | cons first rest ih =>
      obtain ⟨⟨between, first'⟩, hfirst⟩ := hwalk 0 first rfl state
      obtain ⟨⟨last, rest'⟩, hrest⟩ := ih (index + 1) (fun i child hchild state => by
        have hthere := hwalk (i + 1) child hchild state
        rwa [Nat.add_comm i, ← Nat.add_assoc] at hthere) between
      exact ⟨(last, first' :: rest'), visitChildren_cons_eq_some_iff.2
        ⟨between, first', rest', hfirst, hrest, rfl⟩⟩

/-- Nothing is put into a slot that the walk comes to below one where something was put. -/
def Settled (callback : Callback) (test : Node → Bool) (slot : Slot) : Prop :=
  ∀ {above below : List Nat} {outer inner : Slot} {node : Node},
    callback.found? test slot above = some outer → callback.put? test outer = some node →
      below ≠ [] → callback.found? test slot (above ++ below) = some inner →
        callback.put? test inner = none

/-- A walk ends if nothing is put into what was put there before: as many levels are enough as
the tree and the highest of the trees that are put there have together. -/
theorem exists_walkSlot (bound : Nat) {levels : Nat} {slot : Slot}
    (hsettled : callback.Settled test slot)
    (hbound : ∀ path found node, callback.found? test slot path = some found →
      callback.put? test found = some node → node.height ≤ bound)
    (hlevels : slot.node.height + bound ≤ levels) (seen : List Encounter) :
    ∃ result, walkSlot test callback.visitor levels seen slot = some result := by
  induction levels generalizing bound slot seen with
  | zero => exact absurd slot.node.height_pos (by omega)
  | succ levels ih =>
      rw [walkSlot_succ, tested_visitor]
      split
      · exact ⟨_, rfl⟩
      next parent hparent =>
        obtain ⟨hnext, hparent⟩ := Visited.ofNode?_of_parent? hparent
        refine (exists_visitChildren 0 (fun i child hchild seen => ?_) _).imp' _ fun result hresult =>
          Option.map_eq_some_iff.2 ⟨result, hresult, rfl⟩
        have hlt : child.height < (callback.occupant test slot).height :=
          Node.height_lt_of_mem (List.mem_of_getElem? hchild)
        have hslot := Node.childSlot?_eq_some_iff.2 ⟨parent, child, hparent, hchild, rfl⟩
        have hfound : ∀ path, callback.found? test slot (i :: path) =
            callback.found? test ⟨child, some (i, parent)⟩ path := fun path => by
          rw [found?_cons hnext, hslot, Option.bind_some]
        rw [Nat.zero_add]
        cases hput : callback.put? test slot with
        | none =>
            -- The walk stays in the tree, and the child has fewer levels.
            rw [occupant_of_none hput] at hlt
            refine ih bound ?_ (fun path found node h => ?_) (by simp only; omega) seen
            · intro above below outer inner node habove houter hbelow hinner
              rw [← hfound] at habove
              rw [← hfound, ← List.cons_append] at hinner
              exact hsettled habove houter hbelow hinner
            · rw [← hfound] at h
              exact hbound _ found node h
        | some node =>
            -- The walk is in what was put there, where nothing is put any more.
            have hhere : callback.found? test slot [] = some slot := rfl
            have hquiet : ∀ path found, callback.found? test ⟨child, some (i, parent)⟩ path =
                some found → callback.put? test found = none := fun path found h =>
              hsettled hhere hput (List.cons_ne_nil i path) (by rw [List.nil_append, hfound, h])
            have hheight := hbound [] slot node rfl hput
            rw [occupant, hput, Option.getD_some] at hlt
            have hpos := slot.node.height_pos
            refine ih 0 ?_ (fun path found node h hnode => ?_) (by simp only; omega) seen
            · intro above below outer inner node habove houter
              rw [hquiet above outer habove] at houter
              exact absurd houter nofun
            · rw [hquiet path found h] at hnode
              exact absurd hnode nofun

end Callback

end PostPress
