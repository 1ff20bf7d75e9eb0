import PostPress.Embed.Placement
import PostPress.Proofs.Collections.NameMap
import PostPress.Proofs.Tree.Everywhere

/-!
# PostPress.Proofs.Embed.Placement

**Players are placed in one run.** What a visit does to a slot depends on the node in it and
on its parent, of which a walk keeps kind, tag and number of children. So what stays in one
run stays in the next one.

* `Embed.LinksTo`, `Embed.GivesWay` — links to a resource, and what gives way to its player;
* `Embed.secured` — an anchor that opens, made safe;
* `Node.IsPlaced` — what is left of links after a run.

`tested_placeVisitor` says what a visit does, `everywhere_isPlaced` what a run leaves, and
`placeEmbeds_placeEmbeds` that a second run changes nothing.
-/

namespace PostPress

/-! ### Other attributes -/

namespace Node

theorem isElement_setAttr (name : String) (value : AttrValue) (node : Node) (tag : String) :
    (node.setAttr name value).isElement tag = node.isElement tag := by
  cases node <;> rfl

theorem attr?_setAttr_ne {name other : String} (h : other ≠ name) (value : AttrValue)
    (node : Node) : (node.setAttr name value).attr? other = node.attr? other := by
  cases node with
  | element tag attrs children => simp [attr?, setAttr, attributes, NameMap.get?_insert, h]
  | text _ | root _ | foreign _ _ => rfl

theorem contains_attributes_setAttr_ne {name other : String} (h : other ≠ name)
    (value : AttrValue) (node : Node) :
    (node.setAttr name value).attributes.contains other = node.attributes.contains other := by
  cases node with
  | element tag attrs children =>
      simp [setAttr, attributes, NameMap.contains, NameMap.get?_insert, h]
  | text _ | root _ | foreign _ _ => rfl

theorem isForeign_setAttr (name : String) (value : AttrValue) (node : Node) :
    (node.setAttr name value).isForeign = node.isForeign := by
  cases node <;> rfl

theorem ofNode?_setAttr (name : String) (value : AttrValue) (node : Node) :
    Parent.ofNode? (node.setAttr name value) = Parent.ofNode? node := by
  cases node <;> rfl

theorem height_setAttr (name : String) (value : AttrValue) (node : Node) :
    (node.setAttr name value).height = node.height := by
  cases node <;> rfl

end Node

/-! ### Safe links -/

namespace Embed

/-- An anchor that leads somewhere and joins no text and footnote. -/
def opens (node : Node) : Bool :=
  node.isElement "a" && (node.attr? "href").isSome && !isFootnoteLink node

/-- An anchor that opens is made safe. -/
def secured (node : Node) : Node := if opens node then makeSafe node else node

theorem ofAnchor?_makeSafe (node : Node) : ofAnchor? (makeSafe node) = ofAnchor? node := by
  rw [ofAnchor?, makeSafe, Node.isElement_setAttr, Node.isElement_setAttr,
    Node.attr?_setAttr_ne (by decide), Node.attr?_setAttr_ne (by decide), ofAnchor?]

theorem opens_makeSafe (node : Node) : opens (makeSafe node) = opens node := by
  rw [opens, isFootnoteLink, makeSafe, Node.isElement_setAttr, Node.isElement_setAttr,
    Node.attr?_setAttr_ne (by decide), Node.attr?_setAttr_ne (by decide),
    Node.contains_attributes_setAttr_ne (by decide),
    Node.contains_attributes_setAttr_ne (by decide),
    Node.contains_attributes_setAttr_ne (by decide),
    Node.contains_attributes_setAttr_ne (by decide)]
  rfl

/-- What is safe already stays as it is. -/
theorem makeSafe_makeSafe (node : Node) : makeSafe (makeSafe node) = makeSafe node := by
  cases node with
  | element tag attrs children =>
      refine congrArg (Node.element tag · children) (NameMap.ext_get? fun name => ?_)
      simp only [NameMap.get?_insert]
      by_cases hrel : name = "rel"
      · simp [hrel]
      · by_cases htarget : name = "target"
        · simp [htarget]
        · simp [hrel, htarget]
  | text _ | root _ | foreign _ _ => rfl

theorem secured_secured (node : Node) : secured (secured node) = secured node := by
  unfold secured
  by_cases hopens : opens node = true
  · rw [if_pos hopens, opens_makeSafe, if_pos hopens, makeSafe_makeSafe]
  · rw [if_neg hopens, if_neg hopens]

/-- A property that `makeSafe` keeps is kept by `secured`. -/
theorem secured_eq {α : Type} {f : Node → α} (h : ∀ node, f (makeSafe node) = f node)
    (node : Node) : f (secured node) = f node := by
  unfold secured
  split
  · exact h node
  · rfl

/-! ### What gives way -/

/-- An anchor with an address that names a resource. -/
def LinksTo (node : Node) (embed : Embed) : Prop :=
  ∃ attrs children url, node = .element "a" attrs children ∧
    attrs.get? "href" = some (.text url) ∧ classify url = some embed

theorem ofAnchor?_eq_some_iff {node : Node} {embed : Embed} :
    ofAnchor? node = some embed ↔ LinksTo node embed := by
  constructor
  · intro h
    unfold ofAnchor? at h
    split at h
    · next hanchor =>
        obtain ⟨url, hurl, hembed⟩ := Option.bind_eq_some_iff.1 h
        obtain ⟨value, hvalue, hplain⟩ := Option.bind_eq_some_iff.1 hurl
        cases node with
        | text _ | root _ | foreign _ _ => exact absurd hanchor Bool.false_ne_true
        | element tag attrs children =>
            obtain rfl : tag = "a" := Option.some.inj (beq_iff_eq.1 hanchor)
            cases value with
            | tokens _ => exact absurd hplain nofun
            | text value =>
                obtain rfl : value = url := Option.some.inj hplain
                exact ⟨attrs, children, value, rfl, hvalue, hembed⟩
    · exact absurd h nofun
  · rintro ⟨attrs, children, url, rfl, hhref, hembed⟩
    simp [ofAnchor?, Node.isElement, Node.tag?, Node.attr?, Node.attributes, hhref,
      AttrValue.plain?, hembed]

/-- One of several children of a paragraph. -/
def InParagraph (parent : Option Parent) : Prop :=
  ∃ size, parent = some (.element "p" size) ∧ 1 < size

theorem sharesParagraph_iff (slot : Slot) :
    sharesParagraph slot = true ↔ InParagraph slot.parent? := by
  unfold sharesParagraph InParagraph
  cases slot.parent? with
  | none => simp
  | some parent =>
      cases parent with
      | root _ | foreign _ _ => simp
      | element tag size =>
          simp only [Bool.and_eq_true, beq_iff_eq, decide_eq_true_eq, Option.some.injEq,
            Parent.element.injEq]
          exact ⟨fun ⟨htag, hsize⟩ => ⟨size, ⟨htag, rfl⟩, hsize⟩,
            fun ⟨_, ⟨htag, hsame⟩, hsize⟩ => ⟨htag, hsame ▸ hsize⟩⟩

/-- What gives way to the player for a resource, below some parent: a paragraph whose only
child links to it, and a link to it that is not one of several children of a paragraph. -/
inductive GivesWay (embed : Embed) : Option Parent → Node → Prop
  /-- A paragraph with nothing but a link. -/
  | paragraph {parent : Parent} {attrs : Attributes} {only : Node} (link : LinksTo only embed) :
      GivesWay embed (some parent) (.element "p" attrs [only])
  /-- A link that shares no paragraph. -/
  | link {parent : Parent} {node : Node} (link : LinksTo node embed)
      (apart : ¬InParagraph (some parent)) : GivesWay embed (some parent) node

/-- The resource whose player takes the place of a node. -/
def player? : Option Parent → Node → Option Embed
  | none, _ => none
  | some parent, node => replacing? ⟨node, some (0, parent)⟩

theorem player?_eq_some_iff {parent : Option Parent} {node : Node} {embed : Embed} :
    player? parent node = some embed ↔ GivesWay embed parent node := by
  constructor
  · cases parent with
    | none => exact nofun
    | some parent =>
        intro h
        rw [player?, replacing?] at h
        split at h
        · next attrs only hnode =>
            obtain rfl : node = .element "p" attrs [only] := hnode
            exact .paragraph (ofAnchor?_eq_some_iff.1 h)
        · split at h
          · exact absurd h nofun
          · next hshares =>
              exact .link (ofAnchor?_eq_some_iff.1 h) fun hin =>
                hshares ((sharesParagraph_iff _).2 hin)
  · rintro (⟨hlink⟩ | @⟨parent, _, hlink, hapart⟩)
    · exact ofAnchor?_eq_some_iff.2 hlink
    · have hshares : ¬sharesParagraph ⟨node, some (0, parent)⟩ = true := fun hshares =>
        hapart ((sharesParagraph_iff _).1 hshares)
      obtain ⟨attrs, children, url, rfl, -⟩ := id hlink
      exact (if_neg hshares).trans (ofAnchor?_eq_some_iff.2 hlink)

theorem player?_eq_none_iff {parent : Option Parent} {node : Node} :
    player? parent node = none ↔ ∀ embed, ¬GivesWay embed parent node := by
  rw [Option.eq_none_iff_forall_ne_some]
  exact forall_congr' fun embed => not_congr player?_eq_some_iff

/-! ### Visits -/

/-- Anchors and paragraphs are visited. -/
abbrev isVisited (node : Node) : Bool := node.isElement "a" || node.isElement "p"

theorem isVisited_of_givesWay {embed : Embed} {parent : Option Parent} {node : Node}
    (h : GivesWay embed parent node) : isVisited node = true := by
  rcases h with ⟨-⟩ | ⟨⟨attrs, children, url, rfl, -⟩, -⟩
  · rfl
  · rfl

/-- A visit puts a player into the slot of what gives way, and makes safe what stays. -/
theorem tested_placeVisitor (count : Nat) (slot : Slot) :
    placeVisitor.tested isVisited count slot =
      match player? slot.parent? slot.node with
      | some embed => ⟨count + 1, embed.toNode, .skip⟩
      | none => ⟨count, secured slot.node, .descend⟩ := by
  obtain ⟨node, position⟩ := slot
  by_cases hvisited : isVisited node = true
  · rw [Visitor.tested, if_pos hvisited]
    cases position with
    | none =>
        -- A replacement at the top is refused.
        simp only [placeVisitor]
        cases replacing? ⟨node, none⟩ <;> rfl
    | some position =>
        have hplayer : player? (some position.2) node = replacing? ⟨node, some position⟩ := rfl
        simp only [placeVisitor, Slot.parent?, Option.map_some, hplayer]
        cases replacing? ⟨node, some position⟩ <;> rfl
  · have hnone : player? (Slot.parent? ⟨node, position⟩) node = none :=
      player?_eq_none_iff.2 fun _ h => hvisited (isVisited_of_givesWay h)
    have hanchor : node.isElement "a" = false := by
      rw [isVisited, Bool.or_eq_true, not_or] at hvisited
      exact Bool.eq_false_iff.2 hvisited.1
    rw [Visitor.tested, if_neg hvisited, hnone, secured, opens, hanchor]
    rfl

theorem height_secured (node : Node) : (secured node).height = node.height :=
  secured_eq (f := Node.height)
    (fun node => by rw [makeSafe, Node.height_setAttr, Node.height_setAttr]) node

theorem shrinks_placeVisitor : placeVisitor.Shrinks isVisited := by
  intro count slot hvisited hnext
  have htested := tested_placeVisitor count slot
  rw [Visitor.tested, if_pos hvisited] at htested
  rw [htested] at hnext ⊢
  cases hplayer : player? slot.parent? slot.node with
  | none => exact Nat.le_of_eq (height_secured slot.node)
  | some embed =>
      rw [hplayer] at hnext
      exact absurd hnext Visit.skip_ne_descend

end Embed

/-! ### What a run leaves -/

/-- A link to a resource is at the top or shares a paragraph, and one that opens is
safe. -/
structure Node.IsPlaced (parent : Option Parent) (node : Node) : Prop where
  /-- Why it has not given way to a player. -/
  stays : (Embed.ofAnchor? node).isSome = true → parent = none ∨ Embed.InParagraph parent
  /-- What opens is safe. -/
  safe : Embed.secured node = node

namespace Node

variable {parent : Option Parent} {node : Node}

theorem IsPlaced.of_not_anchor (hanchor : node.isElement "a" = false) : node.IsPlaced parent := by
  refine ⟨fun hlink => ?_, ?_⟩
  · rw [Embed.ofAnchor?, hanchor] at hlink
    exact absurd hlink Bool.false_ne_true
  · rw [Embed.secured, Embed.opens, hanchor]
    rfl

theorem ofAnchor?_withChildren (node : Node) (children : List Node) :
    Embed.ofAnchor? (node.withChildren children) = Embed.ofAnchor? node := by
  cases node <;> rfl

theorem secured_withChildren (node : Node) (children : List Node) :
    Embed.secured (node.withChildren children) = (Embed.secured node).withChildren children := by
  have hopens : Embed.opens (node.withChildren children) = Embed.opens node := by
    cases node <;> rfl
  unfold Embed.secured
  rw [hopens]
  split
  · cases node <;> rfl
  · rfl

theorem IsPlaced.withChildren (h : node.IsPlaced parent) (children : List Node) :
    (node.withChildren children).IsPlaced parent := by
  refine ⟨fun hlink => ?_, ?_⟩
  · rw [ofAnchor?_withChildren] at hlink
    exact h.stays hlink
  · rw [secured_withChildren, h.safe]

end Node

namespace Embed

theorem children_secured (node : Node) : (secured node).children = node.children :=
  secured_eq (f := Node.children)
    (fun node => by rw [makeSafe, Node.children_setAttr, Node.children_setAttr]) node

theorem ofNode?_secured (node : Node) : Parent.ofNode? (secured node) = Parent.ofNode? node :=
  secured_eq (f := Parent.ofNode?)
    (fun node => by rw [makeSafe, Node.ofNode?_setAttr, Node.ofNode?_setAttr]) node

/-- What does not give way is placed as soon as it is safe. -/
theorem isPlaced_secured {parent : Option Parent} {node : Node} (h : player? parent node = none) :
    (secured node).IsPlaced parent := by
  refine ⟨fun hlink => ?_, secured_secured node⟩
  rw [secured_eq ofAnchor?_makeSafe] at hlink
  obtain ⟨embed, hembed⟩ := Option.isSome_iff_exists.1 hlink
  cases parent with
  | none => exact .inl rfl
  | some parent =>
      refine .inr (Classical.byContradiction fun hapart => ?_)
      exact player?_eq_none_iff.1 h embed (.link (ofAnchor?_eq_some_iff.1 hembed) hapart)

/-- A player holds no link and nothing foreign. -/
theorem everywhere_toNode {P : Option Parent → Node → Prop}
    (hplain : ∀ parent node, node.isElement "a" = false → node.isForeign = false →
      P parent node)
    (parent : Option Parent) (embed : Embed) : Everywhere P parent embed.toNode := by
  refine .intro (hplain _ _ rfl rfl) fun child hchild => ?_
  obtain rfl := List.mem_singleton.1 hchild
  exact .intro (hplain _ _ rfl rfl) fun _ => nofun

section Kept

variable {N : Option Parent → Node → Prop}
  (hplain : ∀ parent node, node.isElement "a" = false → node.isForeign = false → N parent node)
  (hsecured : ∀ parent node (children : List Node), N parent node →
    children.length = node.children.length → N parent ((secured node).withChildren children))

include hplain hsecured

/-- A property that players have, and that other nodes keep when they are made safe, holds
of what is placed. -/
theorem brings_placeVisitor :
    placeVisitor.Brings isVisited N fun parent node => N parent node ∧ node.IsPlaced parent where
  shrinks := shrinks_placeVisitor
  skipped {count slot} h hnext := by
    rw [tested_placeVisitor] at hnext ⊢
    cases hplayer : player? slot.parent? slot.node with
    | some embed =>
        exact everywhere_toNode (fun parent node hanchor hforeign =>
          ⟨hplain parent node hanchor hforeign, .of_not_anchor hanchor⟩) slot.parent? embed
    | none =>
        rw [hplayer] at hnext
        exact absurd hnext.symm Visit.skip_ne_descend
  below {count slot} h hnext child hchild := by
    rw [tested_placeVisitor] at hnext hchild ⊢
    cases hplayer : player? slot.parent? slot.node with
    | some embed =>
        rw [hplayer] at hnext
        exact absurd hnext Visit.skip_ne_descend
    | none =>
        simp only [hplayer, children_secured, ofNode?_secured] at hchild ⊢
        exact h.of_mem hchild
  descended {count slot} h hnext children hlength := by
    rw [tested_placeVisitor] at hnext hlength ⊢
    cases hplayer : player? slot.parent? slot.node with
    | some embed =>
        rw [hplayer] at hnext
        exact absurd hnext Visit.skip_ne_descend
    | none =>
        simp only [hplayer, children_secured] at hlength ⊢
        exact ⟨hsecured _ _ _ h.here hlength, (isPlaced_secured hplayer).withChildren children⟩

theorem everywhere_placeEmbeds_of {tree : Node} (h : Everywhere N none tree) :
    Everywhere (fun parent node => N parent node ∧ node.IsPlaced parent) none
      (placeEmbeds tree).2 := by
  have hbrings := brings_placeVisitor hplain hsecured
  exact everywhere_walk hbrings ⟨tree, none⟩ h 0

end Kept

/-- Where links are placed everywhere, nothing gives way. -/
theorem not_givesWay_of_isPlaced {embed : Embed} {parent : Option Parent} {node : Node}
    (h : Everywhere Node.IsPlaced parent node) : ¬GivesWay embed parent node := by
  have hstays : ∀ {parent node}, Node.IsPlaced parent node → LinksTo node embed →
      parent = none ∨ InParagraph parent := fun hplaced hlink =>
    hplaced.stays (by rw [ofAnchor?_eq_some_iff.2 hlink]; rfl)
  rintro (⟨hlink⟩ | ⟨hlink, hapart⟩)
  · -- The only child of a paragraph shares it with none.
    rcases hstays (h.of_mem List.mem_cons_self).here hlink with htop | ⟨size, hsame, hsize⟩
    · exact absurd htop nofun
    · obtain ⟨-, rfl⟩ := Parent.element.inj (Option.some.inj hsame)
      exact absurd hsize (Nat.lt_irrefl 1)
  · exact (hstays h.here hlink).elim nofun hapart

end Embed

/-- After a run every link is placed. -/
theorem everywhere_isPlaced (tree : Node) : Everywhere Node.IsPlaced none (placeEmbeds tree).2 :=
  (Embed.everywhere_placeEmbeds_of (N := fun _ _ => True) (fun _ _ _ _ => trivial)
    (fun _ _ _ _ _ => trivial) (.of_forall (fun _ _ => trivial) none tree)).mono fun _ _ h => h.2

/-- Where links are placed, no player is put into the tree and no link is changed. -/
theorem placeEmbeds_eq_self {tree : Node} (h : Everywhere Node.IsPlaced none tree) :
    placeEmbeds tree = (0, tree) := by
  refine walk_eq_self Embed.shrinks_placeVisitor (fun count slot h => ?_) h 0 rfl
  have hnone := Embed.player?_eq_none_iff.2 fun _ => Embed.not_givesWay_of_isPlaced h
  rw [Embed.tested_placeVisitor, hnone, h.here.safe]

/-- **Once is enough.** In every tree that a run has left, a second run places no player and
changes nothing. -/
theorem placeEmbeds_placeEmbeds (tree : Node) :
    placeEmbeds (placeEmbeds tree).2 = (0, (placeEmbeds tree).2) :=
  placeEmbeds_eq_self (everywhere_isPlaced tree)

end PostPress
