import PostPress.Heading.Outline

/-!
# PostPress.Proofs.Heading.Nesting

**The shape of an outline.** The builder turns a sequence of entries into a
forest. Two facts pin the forest down:

* its entries in document order are the entries that were pushed (`preorder`),
  whatever those had below them already;
* if they had nothing below them, the parent of each is the nearest earlier
  entry of a smaller depth (`parents`, `IsNearestShallower`), so every entry is
  deeper than its parent and siblings never get deeper (`Nested`).

The first fact is carried by `OutlineBuilder.contents`, which no closing of an
entry changes. The second is carried by `OutlineBuilder.Ready`, an invariant of
the stack: each open entry can be adopted by the one outside of it.
-/

namespace PostPress

namespace TocEntry

/-! ### Entries in document order -/

/-- The entry without those below it. -/
def bare (entry : TocEntry) : TocEntry := { entry with children := [] }

mutual

/-- An entry and those below it in document order, each without the others. -/
def preorder : TocEntry → List TocEntry
  | ⟨text, depth, id, children⟩ => ⟨text, depth, id, []⟩ :: preorderList children

/-- The entries of a forest in document order, each without those below it. -/
def preorderList : List TocEntry → List TocEntry
  | [] => []
  | entry :: rest => preorder entry ++ preorderList rest

end

theorem preorder_eq (entry : TocEntry) :
    preorder entry = entry.bare :: preorderList entry.children := by
  cases entry; rfl

theorem preorderList_eq_flatMap (entries : List TocEntry) :
    preorderList entries = entries.flatMap preorder := by
  induction entries with
  | nil => rfl
  | cons entry rest ih => rw [preorderList, ih, List.flatMap_cons]

@[simp] theorem preorderList_append (as bs : List TocEntry) :
    preorderList (as ++ bs) = preorderList as ++ preorderList bs := by
  simp only [preorderList_eq_flatMap, List.flatMap_append]

@[simp] theorem preorderList_singleton (entry : TocEntry) :
    preorderList [entry] = preorder entry := by
  rw [preorderList, preorderList, List.append_nil]

theorem preorder_adopt (entry child : TocEntry) :
    preorder (entry.adopt child) = preorder entry ++ preorder child := by
  rw [preorder_eq (entry.adopt child), preorder_eq entry]
  simp only [adopt, bare, preorderList_append, preorderList_singleton, List.cons_append]

mutual

theorem ids_eq_map : ∀ entry : TocEntry, ids entry = (preorder entry).map TocEntry.id
  | ⟨_, _, _, children⟩ => by rw [ids, preorder, List.map_cons, idsList_eq_map children]

theorem idsList_eq_map : ∀ entries : List TocEntry,
    idsList entries = (preorderList entries).map TocEntry.id
  | [] => rfl
  | entry :: rest => by
      rw [idsList, preorderList, List.map_append, ids_eq_map entry, idsList_eq_map rest]

end

theorem idsList_eq_flatMap (entries : List TocEntry) : idsList entries = entries.flatMap ids := by
  induction entries with
  | nil => rfl
  | cons entry rest ih => rw [idsList, ih, List.flatMap_cons]

theorem preorderList_of_childless {entries : List TocEntry}
    (h : ∀ entry ∈ entries, entry.children = []) : preorderList entries = entries := by
  induction entries with
  | nil => rfl
  | cons entry rest ih =>
      obtain ⟨text, depth, id, children⟩ := entry
      obtain rfl : children = [] := h _ List.mem_cons_self
      have hrest : preorderList rest = rest := ih fun e he => h e (List.mem_cons_of_mem _ he)
      rw [preorderList, preorder, preorderList, hrest, List.cons_append, List.nil_append]

/-! ### Parents -/

mutual

/-- The positions of the parents of an entry and those below it, in document
order, when the entry itself stands at `position` and has the parent `parent`. -/
def parents (parent : Option Nat) (position : Nat) : TocEntry → List (Option Nat)
  | ⟨_, _, _, children⟩ => parent :: parentsList (some position) (position + 1) children

/-- The positions of the parents of the entries of a forest, in document order,
when its first entry stands at `position` and its roots have the parent
`parent`. -/
def parentsList (parent : Option Nat) (position : Nat) : List TocEntry → List (Option Nat)
  | [] => []
  | entry :: rest =>
      parents parent position entry ++ parentsList parent (position + (preorder entry).length) rest

end

/-- Among the entries that come before one of a given depth, `parent` is the
position of the nearest one of a smaller depth, or nothing if there is none. -/
def IsNearestShallower (earlier : List TocEntry) (depth : Nat) : (parent : Option Nat) → Prop
  | none => ∀ entry ∈ earlier, depth ≤ entry.depth
  | some position => ∃ before parent after, earlier = before ++ parent :: after ∧
      before.length = position ∧ parent.depth < depth ∧ ∀ entry ∈ after, depth ≤ entry.depth

/-- Entries at least as deep leave the nearest shallower one where it is. -/
theorem IsNearestShallower.append {earlier more : List TocEntry} {depth : Nat}
    {parent : Option Nat} (h : IsNearestShallower earlier depth parent)
    (hmore : ∀ entry ∈ more, depth ≤ entry.depth) :
    IsNearestShallower (earlier ++ more) depth parent := by
  cases parent with
  | none =>
      intro entry he
      rcases List.mem_append.1 he with he | he
      · exact h entry he
      · exact hmore entry he
  | some position =>
      obtain ⟨before, parent, after, rfl, hlength, hlt, hafter⟩ := h
      refine ⟨before, parent, after ++ more, by simp, hlength, hlt, fun entry he => ?_⟩
      rcases List.mem_append.1 he with he | he
      · exact hafter entry he
      · exact hmore entry he

/-- `parents` lists, for one entry after the other, the nearest shallower one
among `earlier` and the entries of the list before it. -/
inductive NearestFrom : (earlier entries : List TocEntry) → (parents : List (Option Nat)) → Prop
  /-- No entries, no parents. -/
  | nil {earlier} : NearestFrom earlier [] []
  /-- The parent of the first entry, and those of the others. -/
  | cons {earlier entry rest parent parents} :
      IsNearestShallower earlier entry.depth parent →
      NearestFrom (earlier ++ [entry]) rest parents →
      NearestFrom earlier (entry :: rest) (parent :: parents)

theorem NearestFrom.append {earlier as bs : List TocEntry} {ps qs : List (Option Nat)}
    (ha : NearestFrom earlier as ps) (hb : NearestFrom (earlier ++ as) bs qs) :
    NearestFrom earlier (as ++ bs) (ps ++ qs) := by
  induction ha with
  | nil => simpa using hb
  | cons hparent _ ih => exact .cons hparent (ih (by simpa using hb))

theorem NearestFrom.length_eq {earlier entries : List TocEntry} {parents : List (Option Nat)}
    (h : NearestFrom earlier entries parents) : parents.length = entries.length := by
  induction h with
  | nil => rfl
  | cons _ _ ih => rw [List.length_cons, List.length_cons, ih]

/-- The parent listed at a position is the nearest shallower entry before it. -/
theorem NearestFrom.get {earlier entries : List TocEntry} {parents : List (Option Nat)}
    (h : NearestFrom earlier entries parents) {i : Nat} {entry : TocEntry} {parent : Option Nat}
    (he : entries[i]? = some entry) (hp : parents[i]? = some parent) :
    IsNearestShallower (earlier ++ entries.take i) entry.depth parent := by
  induction h generalizing i with
  | nil => simp at he
  | cons hparent _ ih =>
      cases i with
      | zero =>
          obtain rfl := Option.some.inj he
          obtain rfl := Option.some.inj hp
          simpa using hparent
      | succ i => simpa using ih he hp

/-! ### Nested entries -/

/-- Every entry is deeper than the one it is below, and of two siblings the later
one is not deeper. -/
inductive Nested : TocEntry → Prop
  /-- All below an entry is nested, deeper than the entry, and does not get
  deeper. -/
  | intro {text depth id children} :
      (∀ child ∈ children, Nested child) →
      (∀ child ∈ children, depth < child.depth) →
      children.Pairwise (fun former later => later.depth ≤ former.depth) →
      Nested ⟨text, depth, id, children⟩

/-- The entries of a forest are nested, and its roots do not get deeper. -/
structure NestedForest (entries : List TocEntry) : Prop where
  /-- Each tree is nested. -/
  nested : ∀ entry ∈ entries, Nested entry
  /-- Of two roots the later one is not deeper. -/
  falling : entries.Pairwise (fun former later => later.depth ≤ former.depth)

theorem nestedForest_nil : NestedForest [] := ⟨fun _ h => absurd h List.not_mem_nil, .nil⟩

/-- An entry fits behind a forest whose roots are all at least as deep. -/
theorem NestedForest.concat {entries : List TocEntry} {last : TocEntry}
    (h : NestedForest entries) (hlast : Nested last)
    (hle : ∀ entry ∈ entries, last.depth ≤ entry.depth) : NestedForest (entries ++ [last]) := by
  refine ⟨fun entry he => ?_, List.pairwise_append.2 ⟨h.falling, List.pairwise_singleton .., ?_⟩⟩
  · rcases List.mem_append.1 he with he | he
    · exact h.nested entry he
    · exact List.mem_singleton.1 he ▸ hlast
  · intro entry he later hl
    exact List.mem_singleton.1 hl ▸ hle entry he

theorem Nested.children {entry : TocEntry} (h : Nested entry) : NestedForest entry.children := by
  cases h with
  | intro hnested _ hfalling => exact ⟨hnested, hfalling⟩

theorem Nested.deeper {entry : TocEntry} (h : Nested entry) :
    ∀ child ∈ entry.children, entry.depth < child.depth := by
  cases h with
  | intro _ hdeeper _ => exact hdeeper

/-- An entry can adopt a deeper one if its other children are not less deep. -/
theorem Nested.adopt {entry child : TocEntry} (h : Nested entry) (hchild : Nested child)
    (hlt : entry.depth < child.depth) (hle : ∀ c ∈ entry.children, child.depth ≤ c.depth) :
    Nested (entry.adopt child) := by
  have hforest := h.children.concat hchild hle
  refine .intro hforest.nested (fun c hc => ?_) hforest.falling
  rcases List.mem_append.1 hc with hc | hc
  · exact h.deeper c hc
  · exact List.mem_singleton.1 hc ▸ hlt

/-- Nothing below an entry is less deep than the entry. -/
theorem Nested.depth_le {entry : TocEntry} (h : Nested entry) :
    ∀ e ∈ preorder entry, entry.depth ≤ e.depth := by
  induction h with
  | @intro text depth id children _ hdeeper _ ih =>
      intro e he
      rw [preorder, preorderList_eq_flatMap, List.mem_cons, List.mem_flatMap] at he
      rcases he with rfl | ⟨child, hchild, he⟩
      · exact Nat.le_refl _
      · exact Nat.le_trans (Nat.le_of_lt (hdeeper child hchild)) (ih child hchild e he)

/-- What holds of every tree of a falling forest with the same parent holds of
the forest: between two roots nothing is less deep than the later one. -/
theorem nearestFrom_of_falling {parent : Option Nat} {entries : List TocEntry}
    (hnested : ∀ entry ∈ entries, Nested entry)
    (htree : ∀ entry ∈ entries, ∀ earlier, IsNearestShallower earlier entry.depth parent →
      NearestFrom earlier (preorder entry) (parents parent earlier.length entry))
    (hfalling : entries.Pairwise (fun former later => later.depth ≤ former.depth))
    {earlier : List TocEntry}
    (hparent : ∀ entry ∈ entries, IsNearestShallower earlier entry.depth parent) :
    NearestFrom earlier (preorderList entries) (parentsList parent earlier.length entries) := by
  induction entries generalizing earlier with
  | nil => exact .nil
  | cons entry rest ih =>
      obtain ⟨hle, hfalling⟩ := List.pairwise_cons.1 hfalling
      refine (htree entry List.mem_cons_self earlier (hparent entry List.mem_cons_self)).append ?_
      rw [← List.length_append]
      refine ih (fun e he => hnested e (List.mem_cons_of_mem _ he))
        (fun e he => htree e (List.mem_cons_of_mem _ he)) hfalling fun e he => ?_
      refine (hparent e (List.mem_cons_of_mem _ he)).append fun below hbelow => ?_
      exact Nat.le_trans (hle e he) ((hnested entry List.mem_cons_self).depth_le below hbelow)

/-- In a nested tree the parents below the top are the nearest shallower entries,
if the parent of the top is. -/
theorem Nested.nearestFrom {entry : TocEntry} (h : Nested entry) {parent : Option Nat}
    {earlier : List TocEntry} (hparent : IsNearestShallower earlier entry.depth parent) :
    NearestFrom earlier (preorder entry) (parents parent earlier.length entry) := by
  induction h generalizing parent earlier with
  | @intro text depth id children hnested hdeeper hfalling ih =>
      refine .cons hparent ?_
      -- The top is now the nearest entry before its children, and they are deeper.
      have hbelow : ∀ child ∈ children, IsNearestShallower (earlier ++ [⟨text, depth, id, []⟩])
          child.depth (some earlier.length) := fun child hc =>
        ⟨earlier, ⟨text, depth, id, []⟩, [], rfl, rfl, hdeeper child hc, nofun⟩
      have hlist :=
        nearestFrom_of_falling hnested (fun child hc _ h => ih child hc h) hfalling hbelow
      rwa [List.length_append, List.length_singleton] at hlist

/-- In a nested forest every parent is the nearest shallower entry. -/
theorem NestedForest.nearestFrom {entries : List TocEntry} (h : NestedForest entries) :
    NearestFrom [] (preorderList entries) (parentsList none 0 entries) :=
  nearestFrom_of_falling h.nested (fun entry he _ hp => (h.nested entry he).nearestFrom hp)
    h.falling (fun _ _ _ hmem => absurd hmem List.not_mem_nil)

end TocEntry

namespace OutlineBuilder

open TocEntry

/-! ### Nothing is lost -/

/-- The entries of a builder in document order, the open ones after the finished
ones and from the outermost inward. -/
def contents (b : OutlineBuilder) : List TocEntry :=
  preorderList b.roots ++ preorderList b.stack.reverse

theorem contents_close (closes : TocEntry → Bool) (done : TocEntry) (stack roots : List TocEntry) :
    (close closes done stack roots).contents = contents ⟨done :: stack, roots⟩ := by
  induction stack generalizing done roots with
  | nil => simp [close, contents, preorderList]
  | cons parent rest ih =>
      have hadopt : contents ⟨parent.adopt done :: rest, roots⟩ =
          contents ⟨done :: parent :: rest, roots⟩ := by
        simp [contents, preorder_adopt, preorderList]
      rw [close]
      split
      · rw [ih, hadopt]
      · exact hadopt

theorem contents_closeWhile (closes : TocEntry → Bool) (b : OutlineBuilder) :
    (b.closeWhile closes).contents = b.contents := by
  obtain ⟨stack, roots⟩ := b
  cases stack with
  | nil => rfl
  | cons top rest =>
      simp only [closeWhile]
      split
      · exact contents_close closes top rest roots
      · rfl

theorem contents_push (b : OutlineBuilder) (entry : TocEntry) :
    (b.push entry).contents = b.contents ++ preorder entry := by
  rw [← contents_closeWhile (fun «open» => entry.depth ≤ «open».depth) b]
  simp [push, contents]

theorem contents_foldl_push (b : OutlineBuilder) (entries : List TocEntry) :
    (entries.foldl push b).contents = b.contents ++ preorderList entries := by
  induction entries generalizing b with
  | nil => simp [preorderList]
  | cons entry rest ih => rw [List.foldl_cons, ih, contents_push, preorderList, List.append_assoc]

/-- Closing everything leaves no open entry. -/
theorem stack_close_all (done : TocEntry) (stack roots : List TocEntry) :
    (close (fun _ => true) done stack roots).stack = [] := by
  induction stack generalizing done roots with
  | nil => rfl
  | cons parent rest ih => exact ih (parent.adopt done) roots

theorem stack_closeWhile_all (b : OutlineBuilder) : (b.closeWhile fun _ => true).stack = [] := by
  obtain ⟨_ | ⟨top, rest⟩, roots⟩ := b
  · rfl
  · exact stack_close_all top rest roots

theorem preorderList_finish (b : OutlineBuilder) : preorderList b.finish = b.contents := by
  rw [← contents_closeWhile (fun _ => true) b, contents, stack_closeWhile_all]
  simp [finish, preorderList]

/-- The entries of an outline in document order are those that were pushed. -/
theorem preorderList_outline (entries : List TocEntry) :
    preorderList (outline entries) = preorderList entries := by
  rw [outline, preorderList_finish, contents_foldl_push]
  rfl

/-! ### The stack is nested -/

/-- An entry of this depth goes right behind everything below the innermost open
entry, and is deeper than that one. -/
def Accepts (depth : Nat) : (stack roots : List TocEntry) → Prop
  | [], roots => ∀ root ∈ roots, depth ≤ root.depth
  | parent :: _, _ => parent.depth < depth ∧ ∀ child ∈ parent.children, depth ≤ child.depth

/-- Every open entry is nested, and accepted by the one outside of it. -/
def OpenNested : (stack roots : List TocEntry) → Prop
  | [], roots => NestedForest roots
  | top :: rest, roots => top.Nested ∧ Accepts top.depth rest roots ∧ OpenNested rest roots

/-- The invariant between two pushes of entries with nothing below them. -/
structure Ready (b : OutlineBuilder) : Prop where
  /-- The stack is nested. -/
  openNested : OpenNested b.stack b.roots
  /-- Whatever is deeper than the innermost open entry can be put below it: so far
  it has no children, and without an open entry nothing is finished. -/
  accepts : ∀ depth, (∀ top ∈ b.stack.head?, top.depth < depth) → Accepts depth b.stack b.roots

theorem ready_empty : Ready empty := ⟨nestedForest_nil, fun _ _ _ h => absurd h List.not_mem_nil⟩

/-- Closing all open entries that are not less deep than `limit` leaves a nested
stack that accepts an entry of that depth. -/
theorem nested_close {closes : TocEntry → Bool} {limit : Nat}
    (hcloses : ∀ entry, closes entry = true ↔ limit ≤ entry.depth) {done : TocEntry}
    {stack roots : List TocEntry} (h : OpenNested (done :: stack) roots)
    (hlimit : limit ≤ done.depth) :
    OpenNested (close closes done stack roots).stack (close closes done stack roots).roots ∧
      Accepts limit (close closes done stack roots).stack
        (close closes done stack roots).roots := by
  induction stack generalizing done with
  | nil =>
      obtain ⟨hdone, haccepts, hroots⟩ := h
      refine ⟨hroots.concat hdone haccepts, fun root hroot => ?_⟩
      rcases List.mem_append.1 hroot with hroot | hroot
      · exact Nat.le_trans hlimit (haccepts root hroot)
      · exact List.mem_singleton.1 hroot ▸ hlimit
  | cons parent rest ih =>
      obtain ⟨hdone, ⟨hlt, hle⟩, hparent, haccepts, hrest⟩ := h
      have hadopt : OpenNested (parent.adopt done :: rest) roots :=
        ⟨hparent.adopt hdone hlt hle, haccepts, hrest⟩
      rw [close]
      by_cases hc : closes parent = true
      · rw [if_pos hc]
        exact ih hadopt ((hcloses parent).1 hc)
      · rw [if_neg hc]
        have hparent_lt : parent.depth < limit := Nat.not_le.1 fun hl => hc ((hcloses parent).2 hl)
        refine ⟨hadopt, hparent_lt, fun child hchild => ?_⟩
        rcases List.mem_append.1 hchild with hchild | hchild
        · exact Nat.le_trans hlimit (hle child hchild)
        · exact List.mem_singleton.1 hchild ▸ hlimit

theorem nested_closeWhile {closes : TocEntry → Bool} {limit : Nat}
    (hcloses : ∀ entry, closes entry = true ↔ limit ≤ entry.depth) {b : OutlineBuilder}
    (h : Ready b) :
    OpenNested (b.closeWhile closes).stack (b.closeWhile closes).roots ∧
      Accepts limit (b.closeWhile closes).stack (b.closeWhile closes).roots := by
  obtain ⟨_ | ⟨top, rest⟩, roots⟩ := b
  · exact ⟨h.openNested, h.accepts limit nofun⟩
  · simp only [closeWhile]
    by_cases hc : closes top = true
    · rw [if_pos hc]
      exact nested_close hcloses h.openNested ((hcloses top).1 hc)
    · rw [if_neg hc]
      refine ⟨h.openNested, h.accepts limit fun t ht => ?_⟩
      obtain rfl := Option.some.inj ht
      exact Nat.not_le.1 fun hl => hc ((hcloses top).2 hl)

/-- **Step.** Pushing an entry with nothing below it keeps the invariant. -/
theorem Ready.push {b : OutlineBuilder} (h : Ready b) {entry : TocEntry}
    (hentry : entry.children = []) : Ready (b.push entry) := by
  have hcloses : ∀ earlier : TocEntry,
      decide (entry.depth ≤ earlier.depth) = true ↔ entry.depth ≤ earlier.depth :=
    fun _ => decide_eq_true_iff
  obtain ⟨hopen, haccepts⟩ := nested_closeWhile hcloses h
  refine ⟨⟨?_, haccepts, hopen⟩, fun depth hdepth => ⟨hdepth entry rfl, ?_⟩⟩
  · obtain ⟨text, depth, id, children⟩ := entry
    obtain rfl : children = [] := hentry
    exact .intro nofun nofun .nil
  · intro child hchild
    exact absurd (hentry ▸ hchild) List.not_mem_nil

/-- **Run.** So does pushing any number of them. -/
theorem Ready.foldl_push {b : OutlineBuilder} (h : Ready b) {entries : List TocEntry}
    (hentries : ∀ entry ∈ entries, entry.children = []) :
    Ready (entries.foldl OutlineBuilder.push b) := by
  induction entries generalizing b with
  | nil => exact h
  | cons entry rest ih =>
      exact ih (h.push (hentries entry List.mem_cons_self))
        fun e he => hentries e (List.mem_cons_of_mem _ he)

theorem Ready.finish {b : OutlineBuilder} (h : Ready b) : NestedForest b.finish := by
  have hcloses : ∀ entry : TocEntry, (fun _ => true) entry = true ↔ 0 ≤ entry.depth := by simp
  obtain ⟨hopen, -⟩ := nested_closeWhile hcloses h
  rwa [stack_closeWhile_all] at hopen

/-- The outline of entries with nothing below them is nested. -/
theorem nestedForest_outline {entries : List TocEntry}
    (h : ∀ entry ∈ entries, entry.children = []) : NestedForest (outline entries) :=
  (ready_empty.foldl_push h).finish

/-! ### The outline of a sequence -/

/-- **Outlines.** The outline of any entries holds them, and those that were below
them, once each and in order. If nothing was below them, the parent of every entry
is the nearest earlier one of a smaller depth, children are deeper than their
parent, and siblings do not get deeper. -/
theorem outline_in_order_and_nested (entries : List TocEntry) :
    flattenIds (outline entries) = entries.flatMap TocEntry.ids ∧
      ((∀ entry ∈ entries, entry.children = []) →
        preorderList (outline entries) = entries ∧
          (parentsList none 0 (outline entries)).length = entries.length ∧
          (∀ i entry parent, entries[i]? = some entry →
            (parentsList none 0 (outline entries))[i]? = some parent →
            IsNearestShallower (entries.take i) entry.depth parent) ∧
          NestedForest (outline entries)) := by
  refine ⟨?_, fun h => ?_⟩
  · rw [flattenIds, idsList_eq_map, preorderList_outline, ← idsList_eq_map]
    exact idsList_eq_flatMap entries
  · have hall : preorderList (outline entries) = entries := by
      rw [preorderList_outline, preorderList_of_childless h]
    have hforest := nestedForest_outline h
    have hnearest := hforest.nearestFrom
    rw [hall] at hnearest
    exact ⟨hall, hnearest.length_eq, fun i entry parent he hp => by simpa using hnearest.get he hp,
      hforest⟩

/-- A deep start, a skipped level and two entries of one depth. -/
theorem outline_in_order_and_nested_deep_start :
    let entries : List TocEntry :=
      [⟨"Aside", 3, "aside", []⟩, ⟨"Top", 1, "top", []⟩, ⟨"Deep", 4, "deep", []⟩,
       ⟨"Part", 2, "part", []⟩, ⟨"Part", 2, "part-1", []⟩]
    (∀ entry ∈ entries, entry.children = []) ∧ preorderList (outline entries) = entries ∧
      parentsList none 0 (outline entries) = [none, none, some 1, some 1, some 1] ∧
      NestedForest (outline entries) := by
  intro entries
  have hbare : ∀ entry ∈ entries, entry.children = [] := by simp [entries]
  obtain ⟨hall, -, -, hforest⟩ := (outline_in_order_and_nested entries).2 hbare
  exact ⟨hbare, hall, by decide, hforest⟩

end OutlineBuilder

end PostPress
