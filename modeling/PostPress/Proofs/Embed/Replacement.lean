import PostPress.Proofs.Embed.Placement
import PostPress.Proofs.Tree.Nodes

/-!
# PostPress.Proofs.Embed.Replacement

**What becomes of a tree when players are placed**, place by place.

* `Embed.Reaches` — the places that are come to from the top without entering what gives way;
* `Embed.Stays` — what a node that stays becomes: only an anchor that opens is changed;
* `Embed.Placement` — a tree with players for what gives way at these places, and all else as
  it was.

A tree has one placement. It is given by recursion on the tree (`Node.withPlayers`), as are
the places of the players (`slots`), and a walk does and counts the same (`walk_withPlayers`).
-/

namespace PostPress

namespace Embed

/-! ### Placements -/

/-- The place at a path below a node is reached, and the node there has this parent: nothing
on the way down to it gives way. -/
inductive Reaches : Option Parent → Node → List Nat → Option Parent → Node → Prop
  /-- The node itself. -/
  | here {parent : Option Parent} {node : Node} : Reaches parent node [] parent node
  /-- What is reached from a child of a node that stays. -/
  | descend {parent place : Option Parent} {node child found : Node} {index : Nat}
      {path : List Nat} (stays : ∀ embed, ¬GivesWay embed parent node)
      (hchild : node.children[index]? = some child)
      (rest : Reaches (Parent.ofNode? node) child path place found) :
      Reaches parent node (index :: path) place found

/-- What a node that stays becomes. It has as many children as before. -/
inductive Stays : Node → Node → Prop
  /-- An anchor that opens is made safe, and keeps its other attributes. -/
  | safe {attrs attrs' : Attributes} {children children' : List Node}
      (hopens : opens (.element "a" attrs children) = true)
      (target : attrs'.get? "target" = some (.text "_blank"))
      (rel : attrs'.get? "rel" = some (.text "noopener noreferrer"))
      (others : ∀ name, name ≠ "target" → name ≠ "rel" → attrs'.get? name = attrs.get? name)
      (hlength : children'.length = children.length) :
      Stays (.element "a" attrs children) (.element "a" attrs' children')
  /-- Every other node is as it was. -/
  | same {node : Node} {children' : List Node} (hopens : opens node = false)
      (hlength : children'.length = node.children.length) :
      Stays node (node.withChildren children')

/-- A tree with players, compared with the tree below some parent that they were placed in. -/
structure Placement (parent : Option Parent) (tree result : Node) : Prop where
  /-- A player is in the slot of what gives way. -/
  player : ∀ {path place node embed}, Reaches parent tree path place node →
    GivesWay embed place node → result.at? path = some embed.toNode
  /-- What does not give way is still in its slot. -/
  stays : ∀ {path place node}, Reaches parent tree path place node →
    (∀ embed, ¬GivesWay embed place node) → ∃ after, result.at? path = some after ∧
      Stays node after

/-! ### Nodes that stay -/

theorem get?_makeSafe (tag : String) (attrs : Attributes) (children : List Node) (name : String) :
    (makeSafe (.element tag attrs children)).attributes.get? name =
      if name = "rel" then some (.text "noopener noreferrer")
      else if name = "target" then some (.text "_blank") else attrs.get? name := by
  rw [makeSafe, Node.setAttr, Node.setAttr, Node.attributes, NameMap.get?_insert,
    NameMap.get?_insert]

theorem exists_of_opens {node : Node} (h : opens node = true) :
    ∃ attrs children, node = .element "a" attrs children := by
  rw [opens, Bool.and_eq_true, Bool.and_eq_true] at h
  cases node with
  | element tag attrs children =>
      obtain rfl : tag = "a" := Option.some.inj (beq_iff_eq.1 h.1.1)
      exact ⟨attrs, children, rfl⟩
  | text _ | root _ | foreign _ _ => exact absurd h.1.1 Bool.false_ne_true

/-- An anchor that opens and is as it is made safe, is safe. -/
theorem attr?_of_secured {node : Node} (hsafe : secured node = node) (hopens : opens node = true) :
    node.attr? "target" = some "_blank" ∧ node.attr? "rel" = some "noopener noreferrer" := by
  obtain ⟨attrs, children, rfl⟩ := exists_of_opens hopens
  have hget := get?_makeSafe "a" attrs children
  rw [secured, if_pos hopens] at hsafe
  rw [hsafe] at hget
  constructor
  · rw [Node.attr?, hget "target"]
    rfl
  · rw [Node.attr?, hget "rel"]
    rfl

theorem stays_secured {node : Node} {children : List Node}
    (hlength : children.length = node.children.length) :
    Stays node ((secured node).withChildren children) := by
  by_cases hopens : opens node = true
  · obtain ⟨attrs, below, rfl⟩ := exists_of_opens hopens
    have hsafe := get?_makeSafe "a" attrs below
    rw [secured, if_pos hopens]
    refine .safe hopens ?_ ?_ ?_ hlength
    · exact hsafe "target"
    · exact hsafe "rel"
    · intro name htarget hrel
      refine (hsafe name).trans ?_
      rw [if_neg hrel, if_neg htarget]
  · rw [secured, if_neg hopens]
    exact .same (Bool.eq_false_iff.2 hopens) hlength

/-- What a node that stays becomes is known but for its children. -/
theorem Stays.eq {node after : Node} (h : Stays node after) :
    after = (secured node).withChildren after.children ∧
      after.children.length = node.children.length := by
  cases h with
  | @safe attrs attrs' children children' hopens target rel others hlength =>
      refine ⟨?_, hlength⟩
      rw [secured, if_pos hopens]
      refine congrArg (Node.element "a" · children') (NameMap.ext_get? fun name => ?_)
      refine Eq.trans ?_ (get?_makeSafe "a" attrs children name).symm
      by_cases hrel : name = "rel"
      · rw [if_pos hrel, hrel, rel]
      · by_cases htarget : name = "target"
        · rw [if_neg hrel, if_pos htarget, htarget, target]
        · rw [if_neg hrel, if_neg htarget, others name htarget hrel]
  | @same _ children' hopens hlength =>
      rw [secured, if_neg (Bool.eq_false_iff.1 hopens)]
      cases node with
      | text _ => exact ⟨rfl, rfl⟩
      | root _ | element _ _ _ | foreign _ _ => exact ⟨rfl, hlength⟩

end Embed

/-! ### The placement of a tree -/

namespace Node

open Embed

mutual

/-- A tree below a parent, with players in the slots of what gives way, and safe links. -/
def withPlayers (parent : Option Parent) : Node → Node
  | .text value => .text value
  | .root children => .root (withPlayersList (some (.root children.length)) children)
  | .element tag attrs children =>
      match player? parent (.element tag attrs children) with
      | some embed => embed.toNode
      | none =>
          (secured (.element tag attrs children)).withChildren
            (withPlayersList (some (.element tag children.length)) children)
  | .foreign name children =>
      .foreign name (withPlayersList (some (.foreign name children.length)) children)

/-- The children of a parent, with players. -/
def withPlayersList (parent : Option Parent) : List Node → List Node
  | [] => []
  | node :: rest => withPlayers parent node :: withPlayersList parent rest

end

mutual

/-- The places of the players, in document order. -/
def slots (parent : Option Parent) : Node → List (List Nat)
  | .text _ => []
  | .root children => slotsList (some (.root children.length)) 0 children
  | .element tag attrs children =>
      if (player? parent (.element tag attrs children)).isSome then [[]]
      else slotsList (some (.element tag children.length)) 0 children
  | .foreign name children => slotsList (some (.foreign name children.length)) 0 children

/-- The places of the players below the children of a parent, from this index on. -/
def slotsList (parent : Option Parent) (index : Nat) : List Node → List (List Nat)
  | [] => []
  | node :: rest => (slots parent node).map (index :: ·) ++ slotsList parent (index + 1) rest

end

theorem withPlayersList_eq_map (parent : Option Parent) (nodes : List Node) :
    withPlayersList parent nodes = nodes.map (withPlayers parent) := by
  induction nodes with
  | nil => rfl
  | cons node rest ih => rw [withPlayersList, ih, List.map_cons]

variable {parent : Option Parent} {node : Node}

/-- Only elements give way. -/
theorem exists_of_player? {embed : Embed} (h : player? parent node = some embed) :
    ∃ tag attrs children, node = .element tag attrs children := by
  rcases player?_eq_some_iff.1 h with @⟨_, attrs, only, -⟩ | ⟨⟨attrs, children, url, rfl, -⟩, -⟩
  · exact ⟨"p", attrs, [only], rfl⟩
  · exact ⟨"a", attrs, children, rfl⟩

theorem withPlayers_of_some {embed : Embed} (h : player? parent node = some embed) :
    node.withPlayers parent = embed.toNode := by
  obtain ⟨tag, attrs, children, rfl⟩ := exists_of_player? h
  rw [withPlayers, h]

theorem withPlayers_of_none (h : player? parent node = none) :
    node.withPlayers parent =
      (secured node).withChildren (node.children.map (withPlayers (Parent.ofNode? node))) := by
  rw [← withPlayersList_eq_map]
  cases node with
  | element tag attrs children =>
      rw [withPlayers, h]
      rfl
  | text _ | root _ | foreign _ _ => rfl

theorem slots_of_some {embed : Embed} (h : player? parent node = some embed) :
    node.slots parent = [[]] := by
  obtain ⟨tag, attrs, children, rfl⟩ := exists_of_player? h
  rw [slots, h]
  rfl

theorem slots_of_none (h : player? parent node = none) :
    node.slots parent = slotsList (Parent.ofNode? node) 0 node.children := by
  cases node with
  | element tag attrs children =>
      rw [slots, h]
      rfl
  | text _ | root _ | foreign _ _ => rfl

theorem mem_slotsList_iff {index : Nat} {nodes : List Node} {path : List Nat} :
    path ∈ slotsList parent index nodes ↔ ∃ i child rest, nodes[i]? = some child ∧
      path = (index + i) :: rest ∧ rest ∈ child.slots parent := by
  induction nodes generalizing index with
  | nil => simp [slotsList]
  | cons node rest ih =>
      rw [slotsList, List.mem_append, List.mem_map, ih]
      constructor
      · rintro (⟨path, hpath, rfl⟩ | ⟨i, child, path, hchild, rfl, hpath⟩)
        · exact ⟨0, node, path, rfl, rfl, hpath⟩
        · exact ⟨i + 1, child, path, hchild, by rw [Nat.add_right_comm, Nat.add_assoc], hpath⟩
      · rintro ⟨i, child, path, hchild, rfl, hpath⟩
        cases i with
        | zero =>
            obtain rfl : node = child := Option.some.inj hchild
            exact .inl ⟨path, hpath, rfl⟩
        | succ i =>
            exact .inr ⟨i, child, path, hchild, by rw [Nat.add_right_comm, Nat.add_assoc], hpath⟩

theorem nodup_slotsList {index : Nat} {nodes : List Node}
    (h : ∀ node ∈ nodes, (node.slots parent).Nodup) : (slotsList parent index nodes).Nodup := by
  induction nodes generalizing index with
  | nil => exact List.nodup_nil
  | cons node rest ih =>
      rw [slotsList, List.nodup_append']
      refine ⟨(h node List.mem_cons_self).map fun _ _ hsame => (List.cons.inj hsame).2,
        ih fun other hother => h other (List.mem_cons_of_mem _ hother), ?_⟩
      -- The places below later children have greater indices.
      intro path hpath hlater
      obtain ⟨below, -, rfl⟩ := List.mem_map.1 hpath
      obtain ⟨i, child, other, -, hsame, -⟩ := mem_slotsList_iff.1 hlater
      exact absurd (List.cons.inj hsame).1 (by omega)

theorem nodup_slots (parent : Option Parent) (node : Node) : (node.slots parent).Nodup := by
  induction node using induction_children generalizing parent with
  | step node ih =>
      cases hplayer : player? parent node with
      | some embed =>
          rw [slots_of_some hplayer]
          exact List.nodup_singleton []
      | none =>
          rw [slots_of_none hplayer]
          exact nodup_slotsList fun child hchild => ih child hchild _

/-- The places of the players are those that are reached and whose node gives way. -/
theorem mem_slots_iff {path : List Nat} : path ∈ node.slots parent ↔
    ∃ place found embed, Reaches parent node path place found ∧ GivesWay embed place found := by
  induction node using induction_children generalizing parent path with
  | step node ih =>
      cases hplayer : player? parent node with
      | some embed =>
          have hgives := player?_eq_some_iff.1 hplayer
          rw [slots_of_some hplayer, List.mem_singleton]
          constructor
          · rintro rfl
            exact ⟨parent, node, embed, .here, hgives⟩
          · rintro ⟨place, found, other, hreaches, -⟩
            cases hreaches with
            | here => rfl
            -- Nothing is reached below what gives way.
            | descend stays _ _ => exact absurd hgives (stays embed)
      | none =>
          have hstays := player?_eq_none_iff.1 hplayer
          rw [slots_of_none hplayer, mem_slotsList_iff]
          constructor
          · rintro ⟨i, child, rest, hchild, rfl, hrest⟩
            obtain ⟨place, found, embed, hreaches, hgives⟩ :=
              (ih child (List.mem_of_getElem? hchild)).1 hrest
            rw [Nat.zero_add]
            exact ⟨place, found, embed, .descend hstays hchild hreaches, hgives⟩
          · rintro ⟨place, found, embed, hreaches, hgives⟩
            cases hreaches with
            | here => exact absurd hgives (hstays embed)
            | @descend _ _ _ child _ index rest _ hchild hrest =>
                refine ⟨index, child, rest, hchild, by rw [Nat.zero_add], ?_⟩
                refine (ih child (List.mem_of_getElem? hchild)).2 ?_
                exact ⟨place, found, embed, hrest, hgives⟩

theorem children_withPlayers (h : player? parent node = none) :
    (node.withPlayers parent).children =
      node.children.map (withPlayers (Parent.ofNode? node)) := by
  rw [withPlayers_of_none h]
  cases hnode : node.hasChildList with
  | true =>
      refine children_withChildren ?_ _
      rw [secured_eq (f := hasChildList) fun node => by cases node <;> rfl, hnode]
  | false =>
      cases node with
      | text _ => rfl
      | root _ | element _ _ _ | foreign _ _ => exact absurd hnode.symm Bool.false_ne_true

/-- At the places that are reached, the tree with players has those of the nodes there. -/
theorem at?_withPlayers {place : Option Parent} {found : Node} {path : List Nat}
    (h : Reaches parent node path place found) :
    (node.withPlayers parent).at? path = some (found.withPlayers place) := by
  induction h with
  | here => rfl
  | @descend _ _ node child found index path stays hchild _ ih =>
      rw [at?_cons _ path, ih]
      rw [children_withPlayers (player?_eq_none_iff.2 stays), List.getElem?_map, hchild]
      rfl

end Node

open Embed

theorem placement_withPlayers (parent : Option Parent) (tree : Node) :
    Placement parent tree (tree.withPlayers parent) where
  player hreaches hgives := by
    rw [Node.at?_withPlayers hreaches, Node.withPlayers_of_some (player?_eq_some_iff.2 hgives)]
  stays hreaches hstays := by
    refine ⟨_, Node.at?_withPlayers hreaches, ?_⟩
    rw [Node.withPlayers_of_none (player?_eq_none_iff.2 hstays)]
    exact stays_secured (List.length_map _)

/-- Below a node that stays, a placement holds placements of the children. -/
theorem Embed.Placement.of_getElem? {parent : Option Parent} {tree result child after : Node}
    {index : Nat} (h : Placement parent tree result)
    (hstays : ∀ embed, ¬GivesWay embed parent tree) (hchild : tree.children[index]? = some child)
    (hafter : result.children[index]? = some after) :
    Placement (Parent.ofNode? tree) child after where
  player {path _ _ _} hreaches hgives := by
    rw [← Node.at?_cons hafter path]
    exact h.player (.descend hstays hchild hreaches) hgives
  stays {path _ _} hreaches hnone := by
    rw [← Node.at?_cons hafter path]
    exact h.stays (.descend hstays hchild hreaches) hnone

/-- A tree has one placement. -/
theorem eq_withPlayers_of_placement {parent : Option Parent} {tree result : Node}
    (h : Placement parent tree result) : result = tree.withPlayers parent := by
  induction tree using Node.induction_children generalizing parent result with
  | step tree ih =>
      cases hplayer : player? parent tree with
      | some embed =>
          rw [Node.withPlayers_of_some hplayer]
          exact Option.some.inj (h.player .here (player?_eq_some_iff.1 hplayer))
      | none =>
          have hstays := player?_eq_none_iff.1 hplayer
          obtain ⟨after, hafter, hsame⟩ := h.stays .here hstays
          obtain rfl : result = after := Option.some.inj hafter
          obtain ⟨heq, hlength⟩ := hsame.eq
          rw [Node.withPlayers_of_none hplayer, heq]
          -- A placement says what is at places, so the lists of children are compared by index.
          refine congrArg (Node.withChildren · (secured tree)) (List.ext_getElem? fun index => ?_)
          rw [List.getElem?_map]
          cases hchild : tree.children[index]? with
          | none =>
              rw [List.getElem?_eq_none_iff] at hchild
              exact List.getElem?_eq_none_iff.2 (hlength ▸ hchild)
          | some child =>
              obtain ⟨hindex, -⟩ := List.getElem?_eq_some_iff.1 hchild
              have hafter : result.children[index]? = some _ :=
                List.getElem?_eq_getElem (hlength ▸ hindex)
              rw [hafter, Option.map_some]
              refine congrArg some (ih child (List.mem_of_getElem? hchild) ?_)
              exact h.of_getElem? hstays hchild hafter

theorem placement_iff {parent : Option Parent} {tree result : Node} :
    Placement parent tree result ↔ result = tree.withPlayers parent :=
  ⟨eq_withPlayers_of_placement, fun h => h ▸ placement_withPlayers parent tree⟩

/-! ### The walk -/

/-- If a walk of each child leaves it with players and adds their number to the count, so does
a walk of the children. -/
theorem walkList_withPlayers {parent : Parent} {children : List Node}
    (h : ∀ child ∈ children, ∀ count index,
      walk isVisited placeVisitor count ⟨child, some (index, parent)⟩ =
        (count + (child.slots (some parent)).length, child.withPlayers (some parent)))
    (index count : Nat) :
    walkList isVisited placeVisitor parent index count children =
      (count + (Node.slotsList (some parent) index children).length,
        children.map (Node.withPlayers (some parent))) := by
  induction children generalizing index count with
  | nil => rfl
  | cons child rest ih =>
      have hrest := ih fun other hother => h other (List.mem_cons_of_mem _ hother)
      simp only [walkList, h child List.mem_cons_self, hrest, Node.slotsList, List.length_append,
        List.length_map, List.map_cons, Nat.add_assoc]

/-- A walk leaves the tree with players, and adds their number to the count. -/
theorem walk_withPlayers (node : Node) (count : Nat) (position : Option (Nat × Parent)) :
    walk isVisited placeVisitor count ⟨node, position⟩ =
      (count + (node.slots (position.map (·.2))).length,
        node.withPlayers (position.map (·.2))) := by
  induction node using Node.induction_children generalizing count position with
  | step node ih =>
      have hparent : Slot.parent? ⟨node, position⟩ = position.map (·.2) := rfl
      rw [walk_eq shrinks_placeVisitor, walkStep, tested_placeVisitor, hparent]
      generalize position.map (·.2) = parent
      cases hplayer : player? parent node with
      | some embed =>
          rw [Node.slots_of_some hplayer, Node.withPlayers_of_some hplayer]
          rfl
      | none =>
          rw [Node.slots_of_none hplayer, Node.withPlayers_of_none hplayer]
          simp only [Visited.parent?, ofNode?_secured, children_secured]
          cases hnode : Parent.ofNode? node with
          | none =>
              -- The walk stops at a text. The map gives it its children back, which are none.
              have hchildren := Parent.children_eq_nil hnode
              have hsame := (secured node).withChildren_children
              rw [children_secured, hchildren] at hsame
              simp only [hchildren, hsame, Node.slotsList, List.map_nil, List.length_nil,
                Nat.add_zero]
          | some parent =>
              have hbelow := walkList_withPlayers (fun child hchild count index =>
                ih child hchild count (some (index, parent))) 0 count
              simp only [hbelow]

theorem placeEmbeds_eq (tree : Node) :
    placeEmbeds tree = ((tree.slots none).length, tree.withPlayers none) := by
  have hwalk := walk_withPlayers tree 0 none
  rwa [Nat.zero_add] at hwalk

/-- **Players.** What a run leaves is the one placement of the tree: in the slots that are
reached from the top and whose node gives way there are players, and all other nodes are as
they were, apart from anchors that open. The count is the number of these slots. Every anchor
that opens is safe, and a link to a resource is left only at the top or beside other content of
a paragraph. -/
theorem placeEmbeds_places (tree : Node) :
    (∀ result, result = (placeEmbeds tree).2 ↔ Placement none tree result) ∧
      (∃ slots : List (List Nat), slots.Nodup ∧ slots.length = (placeEmbeds tree).1 ∧
        ∀ path, path ∈ slots ↔ ∃ place node embed,
          Reaches none tree path place node ∧ GivesWay embed place node) ∧
      Everywhere (fun parent node =>
        (opens node = true → node.attr? "target" = some "_blank" ∧
          node.attr? "rel" = some "noopener noreferrer") ∧
        ∀ embed, LinksTo node embed → parent = none ∨ InParagraph parent)
        none (placeEmbeds tree).2 := by
  refine ⟨fun result => ?_, ⟨tree.slots none, Node.nodup_slots none tree, ?_, ?_⟩, ?_⟩
  · rw [placement_iff, placeEmbeds_eq]
  · rw [placeEmbeds_eq]
  · exact fun path => Node.mem_slots_iff
  · refine (everywhere_isPlaced tree).mono fun parent node hplaced => ?_
    refine ⟨attr?_of_secured hplaced.safe, fun embed hlink => hplaced.stays ?_⟩
    rw [ofAnchor?_eq_some_iff.2 hlink]
    rfl

/-- A paragraph gives way with its only link. In another one a link shares it with a text, and
one in an inline element does not. -/
example :
    let link : Node := .element "a"
      ((∅ : Attributes).insert "href" (.text "https://youtu.be/dQw4w9WgXcQ")) []
    let tree : Node := .root [.plain "p" [link], .plain "p" [.text "x", link, .plain "em" [link]]]
    let player := (Embed.mk .youTube "dQw4w9WgXcQ").toNode
    placeEmbeds tree = (2, .root [player,
      .plain "p" [.text "x", makeSafe link, .plain "em" [player]]]) := by
  decide +kernel

end PostPress
