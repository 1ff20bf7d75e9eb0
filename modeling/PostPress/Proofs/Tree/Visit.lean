import PostPress.Proofs.Tree.Callback

/-!
# PostPress.Proofs.Tree.Visit

**Reading and editing walks agree.** A reading walk shows a node with its index and its
parent, an editing walk shows a slot. With the same test, and the same rule for where not to
descend, both go to the same places in the same order.

* `View` — what a reading walk shows, and the slot that it stands for (`View.slot`);
* `Node.viewer`, `Callback.watching` — a visitor of either walk that changes nothing;
* `Node.places` — the paths at which the walks show something.

Both walks are compared with the paths of the tree (`visitFrom_viewer`, `calls_of_walkSlot`).
-/

namespace PostPress

/-! ### Views -/

/-- What a reading walk shows of a node. -/
structure View where
  /-- The node. -/
  node : Node
  /-- Its index in its parent. -/
  index : Option Nat
  /-- Its parent. -/
  parent : Option Node
deriving DecidableEq, Repr

namespace View

/-- The slot that holds the node. -/
def slot (view : View) : Slot where
  node := view.node
  position :=
    match view.index, view.parent with
    | some index, some parent => (Parent.ofNode? parent).map fun parent => (index, parent)
    | _, _ => none

/-- The view of a child. -/
def child? (view : View) (index : Nat) : Option View :=
  view.node.children[index]?.map fun child => ⟨child, some index, some view.node⟩

/-- The view at a path below the node. -/
def at? : View → List Nat → Option View
  | view, [] => some view
  | view, index :: path => (view.child? index).bind fun child => child.at? path

theorem slot_child? (view : View) (index : Nat) :
    (view.child? index).map slot = view.slot.node.childSlot? index := by
  change _ = view.node.childSlot? index
  cases hchild : view.node.children[index]? with
  | none => simp [child?, Node.childSlot?, hchild]
  | some child =>
      obtain ⟨parent, hparent⟩ := Node.exists_ofNode?_of_getElem? hchild
      simp [child?, Node.childSlot?, hchild, hparent, slot]

/-- Views and slots go together on the way down. -/
theorem slot_at? (view : View) (path : List Nat) :
    (view.at? path).map slot = view.slot.at? path := by
  induction path generalizing view with
  | nil => rfl
  | cons index path ih =>
      rw [at?, Slot.at?, ← slot_child?]
      cases view.child? index with
      | none => rfl
      | some child => exact ih child

end View

/-- The visitor of a reading walk that records what it is shown. -/
def Node.viewer (skips : Slot → Bool) :
    List View → Node → Option Nat → Option Node → List View × Visit :=
  fun seen node index parent =>
    (seen ++ [⟨node, index, parent⟩],
      if skips (View.slot ⟨node, index, parent⟩) then .skip else .descend)

/-- The callback that changes nothing. -/
def Callback.watching (skips : Slot → Bool) : Callback := fun slot =>
  ⟨none, if skips slot then .skip else .descend⟩

variable {test : Node → Bool} {skips : Slot → Bool}

/-! ### Where a callback comes that changes nothing -/

namespace Callback

theorem put?_watching (slot : Slot) : (watching skips).put? test slot = none := by
  simp [put?, watching]

theorem goesOn_watching (slot : Slot) :
    (watching skips).goesOn test slot =
      if test slot.node = true ∧ skips slot = true then .skip else .descend := by
  cases htest : test slot.node <;> simp [goesOn, watching, htest]

theorem call?_watching (slot : Slot) :
    (watching skips).call? test slot = if test slot.node then some ⟨slot, none⟩ else none := rfl

/-- The walk goes down through the tree as it is, unless it skips something on the way. -/
theorem found?_watching_iff {slot found : Slot} {path : List Nat} :
    (watching skips).found? test slot path = some found ↔ slot.at? path = some found ∧
      ∀ above below outer, path = above ++ below → below ≠ [] → slot.at? above = some outer →
        ¬(test outer.node = true ∧ skips outer = true) := by
  induction path generalizing slot with
  | nil =>
      refine (and_iff_left fun above below outer hpath hbelow => ?_).symm
      exact absurd (List.append_eq_nil_iff.1 hpath.symm).2 hbelow
  | cons index path ih =>
      have hnext : (watching skips).goesOn test slot = _ := goesOn_watching slot
      by_cases hskips : test slot.node = true ∧ skips slot = true
      · rw [if_pos hskips] at hnext
        rw [found?_cons_of_skip hnext]
        refine ⟨fun h => absurd h.symm (Option.some_ne_none found), fun h => ?_⟩
        exact absurd hskips (h.2 [] _ slot rfl (List.cons_ne_nil index path) rfl)
      · rw [if_neg hskips] at hnext
        rw [found?_cons hnext, occupant_of_none (put?_watching slot), Slot.at?]
        cases hchild : slot.node.childSlot? index with
        | none =>
            have hnone := (Option.some_ne_none found).symm
            exact ⟨fun h => absurd h hnone, fun h => absurd h.1 hnone⟩
        | some child =>
            rw [Option.bind_some, Option.bind_some, ih]
            refine and_congr_right fun _ => ⟨fun hout => ?_, fun hout => ?_⟩
            · rintro (_ | ⟨first, above⟩) below outer hpath hbelow houter
              · obtain rfl : slot = outer := Option.some.inj houter
                exact hskips
              · obtain ⟨rfl, rfl⟩ := List.cons.inj hpath
                rw [Slot.at?, hchild] at houter
                exact hout above below outer rfl hbelow houter
            · intro above below outer hpath hbelow houter
              exact hout (index :: above) below outer (congrArg _ hpath) hbelow
                (by rwa [Slot.at?, hchild])

theorem callAt?_watching_eq_some_iff {slot : Slot} {path : List Nat} {call : Encounter} :
    (watching skips).callAt? test slot path = some call ↔ ∃ found,
      (watching skips).found? test slot path = some found ∧ test found.node = true ∧
        call = ⟨found, none⟩ := by
  simp only [callAt?, Option.bind_eq_some_iff, call?_watching]
  refine exists_congr fun found => and_congr_right fun _ => ?_
  cases test found.node <;> simp [eq_comm]

/-- A callback that changes nothing is called as often as the levels of the tree allow, and
leaves the tree. -/
theorem walkSlot_watching {levels : Nat} {tree : Node} (h : tree.height ≤ levels) :
    walkSlot test (watching skips).visitor levels [] ⟨tree, none⟩ =
      some (tree.paths.filterMap ((watching skips).callAt? test ⟨tree, none⟩), tree) := by
  have hnone : ∀ slot, (watching skips).put? test slot = none := put?_watching
  obtain ⟨⟨seen, final⟩, hwalk⟩ : ∃ result,
      walkSlot test (watching skips).visitor levels [] ⟨tree, none⟩ = some result :=
    exists_walkSlot 0 (fun _ hput _ _ => absurd hput (by simp [hnone]))
      (fun path found node _ hput => absurd hput (by simp [hnone])) (by simpa using h) []
  have hfinal := eq_occupant_of_walkSlot hwalk fun _ _ _ _ => hnone _
  rw [occupant_of_none (hnone _)] at hfinal
  have hcalls := calls_of_walkSlot hwalk
  rw [hwalk, hcalls, hfinal, List.nil_append]

end Callback

/-! ### What a reading walk shows -/

namespace Node

open Callback

universe u

/-- A reading walk reports the node, and walks its children if the visitor goes on. -/
theorem visitFrom_eq {σ : Type u} (visitor : σ → Node → Option Nat → Option Node → σ × Visit)
    (state : σ) (index : Option Nat) (parent : Option Node) (node : Node) :
    visitFrom test visitor state index parent node =
      match reportTo test visitor state index parent node with
      | (state, .skip) => state
      | (state, .descend) => visitList test visitor state 0 node node.children := by
  cases node with
  | text value =>
      rw [visitFrom]
      obtain ⟨state, next⟩ := reportTo test visitor state index parent (.text value)
      cases next <;> rfl
  | root _ | element _ _ _ | foreign _ _ => rw [visitFrom]; rfl

/-- What a reading walk shows at a path, if it comes there. -/
def shown? (test : Node → Bool) (skips : Slot → Bool) (view : View) (path : List Nat) :
    Option View :=
  ((watching skips).callAt? test view.slot path).bind fun _ => view.at? path

theorem shown?_nil (view : View) :
    shown? test skips view [] = if test view.node then some view else none := by
  have hnode : view.slot.node = view.node := rfl
  rw [shown?, callAt?, found?, Option.bind_some, call?_watching, hnode]
  cases test view.node <;> rfl

theorem shown?_cons_of_skip {view : View}
    (hskips : test view.node = true ∧ skips view.slot = true) (index : Nat) (path : List Nat) :
    shown? test skips view (index :: path) = none := by
  have hnext : (watching skips).goesOn test view.slot = .skip :=
    (goesOn_watching view.slot).trans (if_pos hskips)
  rw [shown?, callAt?, found?_cons_of_skip hnext]
  rfl

theorem shown?_cons {view : View} (hskips : ¬(test view.node = true ∧ skips view.slot = true))
    {index : Nat} {child : Node} (hchild : view.node.children[index]? = some child)
    (path : List Nat) : shown? test skips view (index :: path) =
      shown? test skips ⟨child, some index, some view.node⟩ path := by
  have hnext : (watching skips).goesOn test view.slot = .descend :=
    (goesOn_watching view.slot).trans (if_neg hskips)
  have hview : view.child? index = some ⟨child, some index, some view.node⟩ := by
    rw [View.child?, hchild, Option.map_some]
  rw [shown?, callAt?, found?_cons hnext, occupant_of_none (put?_watching _), ← View.slot_child?,
    View.at?, hview]
  rfl

/-- If a reading walk shows in each child the views of some function on paths, it shows them
in the order of the paths. -/
theorem visitList_viewer (views : List Nat → Option View) (index : Nat) (seen : List View)
    {parent : Node} {children : List Node}
    (hwalk : ∀ child ∈ children, ∀ seen index,
      visitFrom test (viewer skips) seen (some index) (some parent) child =
        seen ++ child.paths.filterMap (shown? test skips ⟨child, some index, some parent⟩))
    (hviews : ∀ i child path, children[i]? = some child → views ((index + i) :: path) =
      shown? test skips ⟨child, some (index + i), some parent⟩ path) :
    visitList test (viewer skips) seen index parent children =
      seen ++ (pathsFrom index children).filterMap views := by
  induction children generalizing index seen with
  | nil => exact (List.append_nil seen).symm
  | cons first rest ih =>
      have hlater := ih (index + 1)
        (visitFrom test (viewer skips) seen (some index) (some parent) first)
        (fun child hchild => hwalk child (List.mem_cons_of_mem _ hchild)) fun i child path hchild => by
          have hsame := hviews (i + 1) child path hchild
          rwa [Nat.add_comm i, ← Nat.add_assoc] at hsame
      have hhere : (first.paths.map (index :: ·)).filterMap views =
          first.paths.filterMap (shown? test skips ⟨first, some index, some parent⟩) := by
        rw [List.filterMap_map]
        exact List.filterMap_congr fun path _ => hviews 0 first path rfl
      rw [visitList, hlater, hwalk first List.mem_cons_self, pathsFrom, List.filterMap_append, hhere,
        List.append_assoc]

/-- A reading walk shows the places that it comes to in document order. -/
theorem visitFrom_viewer (node : Node) (seen : List View) (index : Option Nat)
    (parent : Option Node) :
    visitFrom test (viewer skips) seen index parent node =
      seen ++ node.paths.filterMap (shown? test skips ⟨node, index, parent⟩) := by
  induction node using induction_children generalizing seen index parent with
  | step node ih =>
      have hreport : reportTo test (viewer skips) seen index parent node =
          (seen ++ (shown? test skips ⟨node, index, parent⟩ []).toList,
            if test node = true ∧ skips (View.slot ⟨node, index, parent⟩) = true then .skip
            else .descend) := by
        rw [shown?_nil]
        cases htest : test node <;> simp [reportTo, viewer, htest]
      rw [visitFrom_eq, hreport, paths_eq]
      by_cases hskips : test node = true ∧ skips (View.slot ⟨node, index, parent⟩) = true
      · have hbelow : (pathsFrom 0 node.children).filterMap
            (shown? test skips ⟨node, index, parent⟩) = [] := by
          refine List.filterMap_eq_nil_iff.2 fun path hpath => ?_
          obtain ⟨i, child, below, -, rfl, -⟩ := mem_pathsFrom_iff.1 hpath
          exact shown?_cons_of_skip hskips _ below
        rw [if_pos hskips, List.filterMap_cons, hbelow]
        cases shown? test skips ⟨node, index, parent⟩ [] <;> rfl
      · have hbelow := visitList_viewer (shown? test skips ⟨node, index, parent⟩) 0
          (seen ++ (shown? test skips ⟨node, index, parent⟩ []).toList)
          (fun child hchild seen index => ih child hchild seen (some index) (some node))
          fun i child path hchild => by
            rw [Nat.zero_add]
            exact shown?_cons hskips hchild path
        simp only [if_neg hskips, hbelow, List.filterMap_cons]
        cases shown? test skips ⟨node, index, parent⟩ [] <;> simp

/-! ### Places -/

/-- The paths at which the walks show something, in document order. -/
def places (test : Node → Bool) (skips : Slot → Bool) (tree : Node) : List (List Nat) :=
  tree.paths.filter fun path => ((watching skips).callAt? test ⟨tree, none⟩ path).isSome

theorem mem_places_iff {tree : Node} {path : List Nat} :
    path ∈ tree.places test skips ↔ ∃ slot, Slot.at? ⟨tree, none⟩ path = some slot ∧
      test slot.node = true ∧ ∀ above below outer, path = above ++ below → below ≠ [] →
        Slot.at? ⟨tree, none⟩ above = some outer →
          ¬(test outer.node = true ∧ skips outer = true) := by
  rw [places, List.mem_filter, mem_paths_iff, Option.isSome_iff_exists]
  constructor
  · rintro ⟨-, call, hcall⟩
    obtain ⟨found, hfound, htest, -⟩ := callAt?_watching_eq_some_iff.1 hcall
    obtain ⟨hat, hout⟩ := found?_watching_iff.1 hfound
    exact ⟨found, hat, htest, hout⟩
  · rintro ⟨found, hat, htest, hout⟩
    refine ⟨⟨found.node, Slot.node_of_at? hat⟩, ⟨found, none⟩, ?_⟩
    exact callAt?_watching_eq_some_iff.2 ⟨found, found?_watching_iff.2 ⟨hat, hout⟩, htest, rfl⟩

theorem filterMap_places {α : Type} (f : List Nat → Option α) (tree : Node) :
    (tree.places test skips).filterMap f = tree.paths.filterMap fun path =>
      ((watching skips).callAt? test ⟨tree, none⟩ path).bind fun _ => f path := by
  rw [places, List.filterMap_filter]
  refine List.filterMap_congr fun path _ => ?_
  cases (watching skips).callAt? test ⟨tree, none⟩ path <;> rfl

/-- What a reading walk shows is there. -/
theorem visit_viewer (tree : Node) : tree.visit test (viewer skips) [] =
    (tree.places test skips).filterMap (View.at? ⟨tree, none, none⟩) := by
  rw [filterMap_places, visit, visitFrom_viewer, List.nil_append]
  rfl

/-- What a callback is shown that changes nothing is there. -/
theorem calls_watching (tree : Node) :
    tree.paths.filterMap ((watching skips).callAt? test ⟨tree, none⟩) =
      ((tree.places test skips).filterMap (Slot.at? ⟨tree, none⟩)).map fun slot =>
        ⟨slot, none⟩ := by
  rw [List.map_filterMap, filterMap_places]
  refine List.filterMap_congr fun path _ => ?_
  cases hcall : (watching skips).callAt? test ⟨tree, none⟩ path with
  | none => rfl
  | some call =>
      obtain ⟨found, hfound, -, rfl⟩ := callAt?_watching_eq_some_iff.1 hcall
      rw [Option.bind_some, (found?_watching_iff.1 hfound).1, Option.map_some]

end Node

/-! ### Agreement -/

theorem map_eq_map_some_filterMap {α β : Type} {f : α → Option β} {l : List α}
    (h : ∀ a ∈ l, (f a).isSome = true) : l.map f = (l.filterMap f).map some := by
  induction l with
  | nil => rfl
  | cons a rest ih =>
      obtain ⟨b, hb⟩ := Option.isSome_iff_exists.1 (h a List.mem_cons_self)
      rw [List.map_cons, List.filterMap_cons, hb, ih fun c hc => h c (List.mem_cons_of_mem _ hc)]
      rfl

/-- **Agreement.** For every tree, test and rule for where to skip, a reading walk and an
editing walk that changes nothing go to the same places in document order: those that pass
the test and do not lie below one that passes it and is skipped. What the one shows there is
the node with its index and its parent, what the other shows is the slot of that, and the
tree stays as it was. -/
theorem Node.visit_agrees_visitMut? (test : Node → Bool) (skips : Slot → Bool) (tree : Node) :
    ∃ (places : List (List Nat)) (slots : List Slot),
      places.Pairwise (· < ·) ∧
      (∀ path, path ∈ places ↔ ∃ slot, Slot.at? ⟨tree, none⟩ path = some slot ∧
        test slot.node = true ∧ ∀ above below outer, path = above ++ below → below ≠ [] →
          Slot.at? ⟨tree, none⟩ above = some outer →
            ¬(test outer.node = true ∧ skips outer = true)) ∧
      places.map (View.at? ⟨tree, none, none⟩) =
        (tree.visit test (viewer skips) []).map some ∧
      places.map (Slot.at? ⟨tree, none⟩) = slots.map some ∧
      (tree.visit test (viewer skips) []).map View.slot = slots ∧
      ∀ levels, tree.height ≤ levels →
        tree.visitMut? test (Callback.watching skips).visitor levels [] =
          some (slots.map fun slot => ⟨slot, none⟩, tree) := by
  have hslots : ∀ path ∈ tree.places test skips,
      (Slot.at? ⟨tree, none⟩ path).isSome = true := fun path hpath => by
    obtain ⟨slot, hslot, -⟩ := mem_places_iff.1 hpath
    rw [hslot, Option.isSome_some]
  have hviews : ∀ path ∈ tree.places test skips,
      (View.at? ⟨tree, none, none⟩ path).isSome = true := fun path hpath => by
    rw [← Option.isSome_map (f := View.slot), View.slot_at?]
    exact hslots path hpath
  refine ⟨tree.places test skips, (tree.places test skips).filterMap (Slot.at? ⟨tree, none⟩),
    tree.pairwise_paths.filter _, fun path => mem_places_iff, ?_,
    map_eq_map_some_filterMap hslots, ?_, fun levels hlevels => ?_⟩
  · rw [visit_viewer]
    exact map_eq_map_some_filterMap hviews
  · rw [visit_viewer, List.map_filterMap]
    exact List.filterMap_congr fun path _ => View.slot_at? _ path
  · rw [visitMut?, Callback.walkSlot_watching hlevels, calls_watching]

end PostPress
