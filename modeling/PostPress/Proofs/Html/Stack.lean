import Mathlib.Data.List.TakeWhile
import PostPress.Proofs.Html.Placement

/-!
# PostPress.Proofs.Html.Stack

**The open elements of a document are well nested**: the outermost ones are `html` and
`body`, and each part of a table stands right on the part that it belongs to. What is not
such a part may stand anywhere.

The rules of a body close only what they find in a scope, and tables end every scope. Under
a part of a table there are other parts, down to the table; so a search that goes past a part
meets the end of its scope, and what is found has no part inside (`Stands.inner_of_searchScope`).

* `WellNested` — the names of the open elements;
* `Builder.Stands` — a state with well nested elements, in a mode and with certain parts;
  what happens in the body keeps the mode and the parts;
* `Builder.Clear` — an element that can be closed without closing a part of a table.
-/

namespace PostPress.Html

open Builder (suppliedElements)

/-! ### Names of open elements -/

/-- The elements that hold a document and its tables together, and those that change the way
in which a document is read. -/
def structuralTags : List String :=
  ["html", "head", "body", "frameset", "template", "table", "caption", "colgroup", "tbody",
   "tfoot", "thead", "tr", "td", "th"]

/-- Tags whose elements are not read as others are: what they hold is text, or of another
vocabulary. -/
def separateTags : List String := "svg" :: "math" :: Builder.textElements

/-- Tags that ask for another way of reading. -/
def unusualTags : List String := "template" :: "frameset" :: separateTags

/-- The parts of a table. -/
def tableParts : List String :=
  ["caption", "colgroup", "tbody", "tfoot", "thead", "tr", "td", "th"]

/-- The groups of rows of a table. -/
def rowGroups : List String := ["tbody", "tfoot", "thead"]

/-- The structural elements among some. -/
def partsOf (names : List String) : List String := names.filter (· ∈ structuralTags)

theorem mem_partsOf {name : String} {names : List String} :
    name ∈ partsOf names ↔ name ∈ names ∧ name ∈ structuralTags := by
  rw [partsOf, List.mem_filter, decide_eq_true_eq]

theorem partsOf_append {above names : List String} (h : ∀ name ∈ above, name ∉ structuralTags) :
    partsOf (above ++ names) = partsOf names := by
  have hnone : above.filter (· ∈ structuralTags) = [] := by
    rw [List.filter_eq_nil_iff]
    exact fun name hname => by simpa using h name hname
  rw [partsOf, List.filter_append, hnone, List.nil_append, partsOf]

/-- What a part of a table stands on. -/
def supports (name : String) : List String :=
  if name ∈ ["td", "th"] then ["tr"]
  else if name = "tr" then rowGroups
  else if name ∈ "caption" :: "colgroup" :: rowGroups then ["table"]
  else []

/-- The names of open elements, innermost first: each part of a table stands right on the
part that it belongs to. -/
inductive WellNested : List String → Prop
  | body {name root : String} (hname : name = "body") (hroot : root = "html") :
      WellNested [name, root]
  | inner {name : String} {rest : List String} (hname : name ∉ structuralTags)
      (hrest : WellNested rest) : WellNested (name :: rest)
  | table {name : String} {rest : List String} (hname : name = "table")
      (hrest : WellNested rest) : WellNested (name :: rest)
  | part {name below : String} {rest : List String} (hbelow : below ∈ supports name)
      (hrest : WellNested (below :: rest)) : WellNested (name :: below :: rest)

/-- A part of a table stands on a structural element. -/
theorem mem_of_supports {name below : String} (h : below ∈ supports name) :
    name ∈ tableParts ∧ below ∈ "table" :: "tr" :: rowGroups := by
  unfold supports rowGroups at h
  unfold tableParts rowGroups
  grind

theorem structural_of_supports {name below : String} (h : below ∈ supports name) :
    name ∈ structuralTags ∧ below ∈ structuralTags := by
  have hparts : ∀ other ∈ tableParts, other ∈ structuralTags := by decide
  have hbelow : ∀ other ∈ "table" :: "tr" :: rowGroups, other ∈ structuralTags := by decide
  exact ⟨hparts _ (mem_of_supports h).1, hbelow _ (mem_of_supports h).2⟩

namespace WellNested

variable {name : String} {rest : List String}

theorem tail (h : WellNested (name :: rest)) (hbody : name ≠ "body") : WellNested rest := by
  cases h with
  | body hname => exact absurd hname hbody
  | inner _ hrest | table _ hrest | part _ hrest => exact hrest

/-- What the innermost element is, and what it stands on. -/
theorem cons_cases (h : WellNested (name :: rest)) :
    (name = "body" ∧ rest = ["html"]) ∨ (WellNested rest ∧ (name ∉ structuralTags ∨
      name = "table" ∨ ∃ below under, rest = below :: under ∧ below ∈ supports name)) := by
  cases h with
  | body hname hroot => exact .inl ⟨hname, hroot ▸ rfl⟩
  | inner hname hrest => exact .inr ⟨hrest, .inl hname⟩
  | table hname hrest => exact .inr ⟨hrest, .inr (.inl hname)⟩
  | part hbelow hrest => exact .inr ⟨hrest, .inr (.inr ⟨_, _, rfl, hbelow⟩)⟩

/-- At least the body and its document are open. -/
theorem two_le_length {names : List String} (h : WellNested names) : 2 ≤ names.length := by
  induction h with
  | body => exact le_refl 2
  | inner _ _ ih | table _ _ ih | part _ _ ih => exact ih.trans (Nat.le_succ _)

/-- Elements that are not among the inner ones. -/
theorem notMem_outer (h : WellNested (name :: rest)) :
    name ∉ ["html", "head", "frameset", "template"] := by
  have hstructural : ∀ other ∈ ["html", "head", "frameset", "template"],
      other ∈ structuralTags := by decide
  have hparts : ∀ other ∈ tableParts, other ∉ ["html", "head", "frameset", "template"] := by
    decide
  cases h with
  | body hname =>
      subst hname
      decide
  | inner hname => exact fun hmem => hname (hstructural name hmem)
  | table hname =>
      subst hname
      decide
  | part hbelow => exact hparts name (mem_of_supports hbelow).1

/-- Each open element but the outermost one stands on well nested ones. -/
theorem exists_of_mem {names : List String} (h : WellNested names) (hname : name ∈ names) :
    name = "html" ∨ ∃ below, WellNested (name :: below) := by
  induction h with
  | body hbody hroot =>
      rcases List.mem_cons.1 hname with rfl | hname
      · exact .inr ⟨_, .body hbody hroot⟩
      · exact .inl ((List.mem_singleton.1 hname).trans hroot)
  | inner hinner hrest ih =>
      rcases List.mem_cons.1 hname with rfl | hname
      · exact .inr ⟨_, .inner hinner hrest⟩
      · exact ih hname
  | table htable hrest ih =>
      rcases List.mem_cons.1 hname with rfl | hname
      · exact .inr ⟨_, .table htable hrest⟩
      · exact ih hname
  | part hbelow hrest ih =>
      rcases List.mem_cons.1 hname with rfl | hname
      · exact .inr ⟨_, .part hbelow hrest⟩
      · exact ih hname

/-- No head, frames or templates are open. -/
theorem notMem_of_never {names : List String} (h : WellNested names)
    (hname : name ∈ ["head", "frameset", "template"]) : name ∉ names := by
  intro hmem
  rcases h.exists_of_mem hmem with rfl | ⟨below, hbelow⟩
  · exact absurd hname (by decide)
  · exact hbelow.notMem_outer (List.mem_cons_of_mem _ hname)

/-- Without elements that are no parts, the others are well nested. -/
theorem cut {above : List String} (h : WellNested (above ++ rest))
    (habove : ∀ name ∈ above, name ∉ structuralTags) : WellNested rest := by
  induction above with
  | nil => exact h
  | cons name above ih =>
      rw [List.forall_mem_cons] at habove
      refine ih (h.tail ?_) habove.2
      rintro rfl
      exact habove.1 (by decide)

end WellNested

namespace Dom

/-- A node that is neither a part of a table nor one that every document has. -/
def IsInner (dom : Dom) (id : Nat) : Prop :=
  id < dom.nodes.size ∧ dom.tag id ∉ structuralTags

variable {dom dom' : Dom} {id : Nat}

theorem IsInner.isCommon (h : dom.IsInner id) : dom.IsCommon id := by
  have hsupplied : ∀ name ∈ suppliedElements, name ∈ structuralTags := by decide
  exact ⟨h.1, fun hmem => h.2 (hsupplied _ hmem)⟩

theorem Grows.isInner (h : dom.Grows dom') (hid : dom.IsInner id) : dom'.IsInner id :=
  ⟨hid.1.trans_le h.size, h.tag hid.1 ▸ hid.2⟩

theorem Grows.map_tag (h : dom.Grows dom') {stack : List Nat}
    (hvalid : ∀ id ∈ stack, id < dom.nodes.size) : stack.map dom'.tag = stack.map dom.tag :=
  List.map_congr_left fun id hid => h.tag (hvalid id hid)

end Dom

/-- Formatting elements that are all inner ones. -/
def ListsInner (dom : Dom) (entries : List Formatting) : Prop :=
  Builder.Listed (fun id name _ => dom.IsInner id ∧ name ∉ structuralTags) entries

theorem ListsInner.grows {dom dom' : Dom} {entries : List Formatting}
    (h : ListsInner dom entries) (hgrows : dom.Grows dom') : ListsInner dom' entries :=
  h.mono fun _ _ _ hinner => hinner.imp_left hgrows.isInner

/-! ### States -/

/-- Well nested elements, of which some are parts, over a tree with all parts of the document
in their places. -/
structure Sound (parts : List String) (dom : Dom) (stack : List Nat)
    (formatting : List Formatting) (form : Option Nat) : Prop where
  /-- Open elements are nodes. -/
  valid : ∀ id ∈ stack, id < dom.nodes.size
  /-- They are well nested. -/
  nested : WellNested (stack.map dom.tag)
  /-- Some of them are parts. -/
  parts : partsOf (stack.map dom.tag) = parts
  /-- The parts of the document are in their places. -/
  placed : dom.Placed
  /-- Formatting elements are inner ones. -/
  listed : ListsInner dom formatting
  /-- A form is an inner element. -/
  form : ∀ id, form = some id → dom.IsInner id

/-- A tree and a mode to start from, and the parts that are open. -/
structure Frame where
  /-- The tree. -/
  dom : Dom
  /-- The mode. -/
  mode : Mode
  /-- The mode to go back to. -/
  returnMode : Mode
  /-- The open parts, innermost first. -/
  parts : List String

namespace Builder

/-- A state in which elements are well nested, after changes of the tree only. -/
def Stands (frame : Frame) (b : Builder) : Prop :=
  Sound frame.parts b.dom b.stack b.formatting b.form ∧ frame.dom.Grows b.dom ∧
    b.mode = frame.mode ∧ b.returnMode = frame.returnMode

variable {frame : Frame} {b : Builder}

/-! ### The tree and the stack -/

theorem Stands.withDom {dom : Dom} (h : b.Stands frame) (hgrows : b.dom.Grows dom) :
    { b with dom }.Stands frame := by
  obtain ⟨hsound, hgrown, hmode⟩ := h
  have htags := hgrows.map_tag hsound.valid
  refine ⟨⟨fun id hid => (hsound.valid id hid).trans_le hgrows.size, ?_, ?_,
    hgrows.placed hsound.placed, hsound.listed.grows hgrows, fun id hid => ?_⟩,
    hgrown.trans hgrows, hmode⟩
  · exact htags ▸ hsound.nested
  · exact htags ▸ hsound.parts
  · exact hgrows.isInner (hsound.form id hid)

theorem Stands.withFormatting {formatting : List Formatting} (h : b.Stands frame)
    (hlisted : ListsInner b.dom formatting) : { b with formatting }.Stands frame :=
  ⟨{ h.1 with listed := hlisted }, h.2⟩

theorem Stands.pushOpen {id : Nat} (h : b.Stands frame) (hid : b.dom.IsInner id) :
    (b.pushOpen id).Stands frame := by
  obtain ⟨hsound, hmode⟩ := h
  refine ⟨{ hsound with valid := ?_, nested := .inner hid.2 hsound.nested, parts := ?_ }, hmode⟩
  · rintro other hother
    rcases List.mem_cons.1 hother with rfl | hother
    · exact hid.1
    · exact hsound.valid other hother
  · have habove : ∀ name ∈ [b.dom.tag id], name ∉ structuralTags := fun name hname =>
      List.mem_singleton.1 hname ▸ hid.2
    exact (partsOf_append habove).trans hsound.parts

theorem Stands.pushAll {above : List Nat} (h : b.Stands frame)
    (habove : ∀ id ∈ above, b.dom.IsInner id) : { b with stack := above ++ b.stack }.Stands frame := by
  induction above with
  | nil => exact h
  | cons id above ih =>
      rw [List.forall_mem_cons] at habove
      exact (ih habove.2).pushOpen habove.1

/-- Closing the innermost elements, all of them inner ones. -/
theorem Stands.cut {above stack : List Nat} (h : b.Stands frame) (hstack : b.stack = above ++ stack)
    (habove : ∀ id ∈ above, b.dom.tag id ∉ structuralTags) : { b with stack }.Stands frame := by
  obtain ⟨hsound, hmode⟩ := h
  have hnested := hsound.nested
  have hparts := hsound.parts
  have hinner : ∀ name ∈ above.map b.dom.tag, name ∉ structuralTags :=
    List.forall_mem_map.2 habove
  rw [hstack, List.map_append] at hnested hparts
  refine ⟨{ hsound with valid := fun id hid => ?_, nested := hnested.cut hinner, parts := ?_ },
    hmode⟩
  · exact hsound.valid id (hstack ▸ List.mem_append_right _ hid)
  · exact (partsOf_append hinner).symm.trans hparts

theorem tag_mem_of_isHtml {names : List String} {id : Nat} (h : b.isHtml names id = true) :
    b.dom.tag id ∈ names := by
  unfold isHtml htmlName? at h
  unfold Dom.tag
  grind

theorem exists_of_currentIs {names : List String} (h : b.currentIs names = true) :
    ∃ id rest, b.stack = id :: rest ∧ b.dom.tag id ∈ names := by
  unfold currentIs at h
  split at h
  · exact absurd h Bool.false_ne_true
  · next id rest hstack => exact ⟨id, rest, hstack, tag_mem_of_isHtml h⟩

theorem isHtml_of_tag_mem {names : List String} {id : Nat} (h : b.dom.tag id ∈ names)
    (hempty : b.dom.tag id ≠ "") : b.isHtml names id = true := by
  unfold isHtml htmlName?
  unfold Dom.tag at h hempty
  grind

/-- No head, frames or templates are open. -/
theorem Stands.not_isOpen {name : String} (h : b.Stands frame)
    (hname : name ∈ ["head", "frameset", "template"]) : b.isOpen name = false := by
  refine eq_false_of_ne_true fun hopen => ?_
  obtain ⟨id, hid, hhtml⟩ := List.any_eq_true.1 hopen
  refine h.1.nested.notMem_of_never hname ?_
  exact List.mem_singleton.1 (tag_mem_of_isHtml hhtml) ▸ List.mem_map_of_mem hid

/-! ### Closing elements -/

/-- Above the innermost element of some names there are only inner ones. -/
def Clear (b : Builder) (names : List String) : Prop :=
  ∀ id ∈ b.stack.takeWhile (!b.isHtml names ·), b.dom.tag id ∉ structuralTags

/-- Closing elements through the first one with a property. -/
theorem Stands.dropThrough {p : Nat → Bool} (h : b.Stands frame)
    (habove : ∀ id ∈ b.stack.takeWhile p, b.dom.tag id ∉ structuralTags)
    (hlast : ∀ id, p id = false → b.dom.tag id ∉ structuralTags) :
    { b with stack := (b.stack.dropWhile p).drop 1 }.Stands frame := by
  have hsplit := List.takeWhile_append_dropWhile (p := p) (l := b.stack)
  cases hrest : b.stack.dropWhile p with
  | nil => exact h.cut (hrest ▸ hsplit).symm habove
  | cons id rest =>
      have hstack : b.stack = (b.stack.takeWhile p ++ [id]) ++ rest := by
        rw [List.append_assoc, List.singleton_append, ← hrest, hsplit]
      have hid : p id = false := by
        have hhead := List.head_dropWhile_not p (l := b.stack) (by simp [hrest])
        simpa [hrest] using hhead
      refine h.cut hstack fun other hother => ?_
      rcases List.mem_append.1 hother with hinside | hother
      · exact habove other hinside
      · exact List.mem_singleton.1 hother ▸ hlast id hid

theorem Stands.popUntil {names : List String} (h : b.Stands frame) (hclear : b.Clear names)
    (hnames : ∀ name ∈ names, name ∉ structuralTags) : (b.popUntil names).Stands frame :=
  h.dropThrough hclear fun id hid =>
    hnames _ (tag_mem_of_isHtml (by simpa using hid))

theorem Stands.popThrough {node : Nat} (h : b.Stands frame)
    (habove : ∀ id ∈ b.stack.takeWhile (· ≠ node), b.dom.tag id ∉ structuralTags)
    (hnode : b.dom.tag node ∉ structuralTags) : (b.popThrough node).Stands frame :=
  h.dropThrough habove fun id hid => by
    have heq : id = node := by simpa using hid
    exact heq ▸ hnode

theorem implied_inner {name : String} (h : name ∈ impliedEnds) : name ∉ structuralTags := by
  have hall : ∀ name ∈ impliedEnds, name ∉ structuralTags := by decide
  exact hall name h

@[grind ←] theorem Stands.closeImplied (h : b.Stands frame) (but : List String) :
    (b.closeImplied but).Stands frame := by
  refine h.cut List.takeWhile_append_dropWhile.symm fun id hid => ?_
  have hcloses := List.mem_takeWhile_imp hid
  rw [Bool.and_eq_true] at hcloses
  exact implied_inner (tag_mem_of_isHtml hcloses.1)

theorem takeWhile_dropWhile_subset {p q : Nat → Bool} (h : ∀ x, p x = true → q x = true)
    (l : List Nat) : (l.dropWhile p).takeWhile q ⊆ l.takeWhile q := by
  induction l with
  | nil => exact List.Subset.refl _
  | cons x rest ih =>
      by_cases hx : p x = true
      · rw [List.dropWhile_cons_of_pos hx, List.takeWhile_cons_of_pos (h x hx)]
        exact fun y hy => List.mem_cons_of_mem _ (ih hy)
      · rw [List.dropWhile_cons_of_neg hx]
        exact List.Subset.refl _

/-- Closing elements whose end need not be written leaves the others of some names. -/
theorem Clear.closeImplied {names but : List String} (h : b.Clear names)
    (hnames : ∀ name ∈ names, name ∈ impliedEnds → name ∈ but) :
    (b.closeImplied but).Clear names := by
  refine fun id hid => h id (takeWhile_dropWhile_subset (fun other hcloses => ?_) _ hid)
  rw [Bool.and_eq_true, Bool.not_eq_true'] at hcloses
  obtain ⟨himplied, hbut⟩ := hcloses
  rw [Bool.not_eq_true']
  refine eq_false_of_ne_true fun hhtml => Bool.false_ne_true (hbut.symm.trans ?_)
  have htag := hnames _ (tag_mem_of_isHtml hhtml) (tag_mem_of_isHtml himplied)
  refine isHtml_of_tag_mem htag fun hempty => ?_
  have hmem := tag_mem_of_isHtml himplied
  rw [hempty] at hmem
  exact absurd hmem (by decide)

/-- What is found before the scope ends has only inner elements above it: a part of a table
stands on others, of which one ends the scope. -/
theorem Stands.inner_of_searchScope (h : b.Stands frame) (wanted ends : Nat → Bool)
    (hwanted : ∀ id, wanted id = true → b.dom.tag id ∉ structuralTags)
    (hends : ∀ id, b.dom.tag id ∈ ["html", "table"] → ends id = true)
    (hfound : searchScope wanted ends b.stack = true) :
    ∀ id ∈ b.stack.takeWhile (!wanted ·), b.dom.tag id ∉ structuralTags := by
  have hnested := h.1.nested
  generalize b.stack = stack at hnested hfound
  induction stack with
  | nil => exact fun _ hmem => absurd hmem List.not_mem_nil
  | cons id rest ih =>
      unfold searchScope at hfound
      by_cases hid : wanted id = true
      · rw [List.takeWhile_cons_of_neg (by simp [hid])]
        exact fun _ hmem => absurd hmem List.not_mem_nil
      · rw [if_neg hid] at hfound
        have hout : ends id ≠ true := fun heq => by simp [heq] at hfound
        rw [if_neg hout] at hfound
        rw [List.takeWhile_cons_of_pos (by simp [hid]), List.forall_mem_cons]
        rcases hnested.cons_cases with ⟨-, hroot⟩ | ⟨hrest, hinner | htable | ⟨below, under, heq, hon⟩⟩
        · -- Only the root is below the body.
          obtain ⟨root, rfl, hhtml⟩ := List.map_eq_singleton_iff.1 hroot
          have hnot : wanted root ≠ true := fun heq => hwanted root heq (hhtml ▸ by decide)
          have hend := hends root (hhtml ▸ List.mem_cons_self)
          simp [searchScope, hnot, hend] at hfound
        · exact ⟨hinner, ih hrest hfound⟩
        · refine absurd (hends id ?_) hout
          rw [htable]
          exact List.mem_cons_of_mem _ List.mem_cons_self
        · obtain ⟨next, others, rfl, hbelow, -⟩ := List.map_eq_cons_iff.1 heq
          have hstructural : b.dom.tag next ∈ structuralTags :=
            hbelow ▸ (structural_of_supports hon).2
          have hnot : wanted next ≠ true := fun heq => hwanted next heq hstructural
          refine absurd hstructural (ih hrest hfound next ?_)
          rw [List.takeWhile_cons_of_pos (by simp [hnot])]
          exact List.mem_cons_self

theorem endsScope_of_tag {more : List String} {id : Nat} (h : b.dom.tag id ∈ ["html", "table"]) :
    b.endsScope more id = true := by
  have hends : ∀ name ∈ ["html", "table"], scopeEnds.contains name = true ∧ name ≠ "" := by decide
  obtain ⟨hscope, hempty⟩ := hends _ h
  unfold Dom.tag at hscope hempty
  unfold endsScope
  grind

section

variable {names : List String} (hnames : ∀ name ∈ names, name ∉ structuralTags)

include hnames

theorem Stands.clear_of_inScope (h : b.Stands frame) (hscope : b.inScope names = true) :
    b.Clear names :=
  h.inner_of_searchScope _ _ (fun _ hid => hnames _ (tag_mem_of_isHtml hid))
    (fun _ => endsScope_of_tag) hscope

theorem Stands.clear_of_inButtonScope (h : b.Stands frame)
    (hscope : b.inButtonScope names = true) : b.Clear names :=
  h.inner_of_searchScope _ _ (fun _ hid => hnames _ (tag_mem_of_isHtml hid))
    (fun _ => endsScope_of_tag) hscope

theorem Stands.clear_of_inListScope (h : b.Stands frame) (hscope : b.inListScope names = true) :
    b.Clear names :=
  h.inner_of_searchScope _ _ (fun _ hid => hnames _ (tag_mem_of_isHtml hid))
    (fun _ => endsScope_of_tag) hscope

end

theorem isSpecial_of_tag {id : Nat} (h : b.dom.tag id ∈ structuralTags) :
    b.isSpecial id = true := by
  have hspecial : ∀ name ∈ structuralTags, name ∈ specialElements ∧ name ≠ "" := by decide
  exact isHtml_of_tag_mem (hspecial _ h).1 (hspecial _ h).2

theorem takeWhile_subset_of_append {p : Nat → Bool} {id : Nat} (hid : p id = false)
    (above rest : List Nat) : (above ++ id :: rest).takeWhile p ⊆ above := by
  induction above with
  | nil =>
      rw [List.nil_append, List.takeWhile_cons_of_neg (by simp [hid])]
      exact List.Subset.refl _
  | cons x above ih =>
      rw [List.cons_append]
      by_cases hx : p x = true
      · rw [List.takeWhile_cons_of_pos hx]
        exact List.cons_subset_cons x ih
      · rw [List.takeWhile_cons_of_neg hx]
        exact List.nil_subset _

/-- An end tag closes no part of a table that is not open. -/
theorem Stands.closeAny {name : String} (h : b.Stands frame) (hname : name ∉ frame.parts) :
    (b.closeAny name).Stands frame := by
  unfold Builder.closeAny
  split
  · exact h
  · next id hfind =>
    split
    · next hhtml =>
      obtain ⟨-, above, rest, hstack, habove⟩ := List.find?_eq_some_iff_append.1 hfind
      have htag : b.dom.tag id = name := List.mem_singleton.1 (tag_mem_of_isHtml hhtml)
      have hinner : b.dom.tag id ∉ structuralTags := by
        intro hstructural
        refine hname ?_
        rw [← h.1.parts, mem_partsOf, ← htag]
        refine ⟨List.mem_map_of_mem ?_, hstructural⟩
        rw [hstack]
        exact List.mem_append_right _ List.mem_cons_self
      refine (h.closeImplied [name]).popThrough (fun other hother => ?_) hinner
      have hmem := takeWhile_dropWhile_subset (q := (· ≠ id)) (fun x hcloses => ?_) _ hother
      · rw [hstack] at hmem
        have hfar := habove other (takeWhile_subset_of_append (by simp) above rest hmem)
        intro hstructural
        have hspecial : b.isSpecial other = true := isSpecial_of_tag hstructural
        simp [hspecial] at hfar
      · rw [decide_eq_true_eq]
        rintro rfl
        simp [hhtml] at hcloses
    · exact h

/-- Without an inner element, elements stay well nested, with the same parts. -/
theorem wellNested_without {tag : Nat → String} {node : Nat} (hnode : tag node ∉ structuralTags)
    (stack : List Nat) (hnested : WellNested (stack.map tag)) :
    WellNested ((stack.filter (· ≠ node)).map tag) := by
  have hstays : ∀ {id : Nat} {rest : List Nat}, tag id ∈ structuralTags →
      (id :: rest).filter (· ≠ node) = id :: rest.filter (· ≠ node) := by
    intro id rest hid
    refine List.filter_cons_of_pos (decide_eq_true ?_)
    rintro rfl
    exact hnode hid
  induction stack with
  | nil => exact hnested
  | cons x rest ih =>
      rcases hnested.cons_cases with
        ⟨hbody, hroot⟩ | ⟨hrest, hinner | htable | ⟨below, under, heq, hon⟩⟩
      · obtain ⟨root, rfl, hhtml⟩ := List.map_eq_singleton_iff.1 hroot
        have hx : tag x ∈ structuralTags := by rw [hbody]; decide
        have hlast : tag root ∈ structuralTags := by rw [hhtml]; decide
        rw [hstays hx, hstays hlast]
        exact .body hbody hhtml
      · by_cases hx : x = node
        · rw [List.filter_cons_of_neg (by simp [hx])]
          exact ih hrest
        · rw [List.filter_cons_of_pos (by simp [hx])]
          exact .inner hinner (ih hrest)
      · have hx : tag x ∈ structuralTags := by rw [htable]; decide
        rw [hstays hx]
        exact .table htable (ih hrest)
      · obtain ⟨next, others, rfl, hbelow, -⟩ := List.map_eq_cons_iff.1 heq
        obtain ⟨hx, hnext⟩ := structural_of_supports hon
        have hkeep := ih hrest
        rw [hstays (hbelow ▸ hnext)] at hkeep
        rw [hstays hx, hstays (hbelow ▸ hnext)]
        exact .part (hbelow ▸ hon) hkeep

theorem partsOf_without {tag : Nat → String} {node : Nat} (hnode : tag node ∉ structuralTags)
    (stack : List Nat) :
    partsOf ((stack.filter (· ≠ node)).map tag) = partsOf (stack.map tag) := by
  induction stack with
  | nil => rfl
  | cons x rest ih =>
      by_cases hx : x = node
      · have hout : ∀ name ∈ [tag x], name ∉ structuralTags := fun name hmem =>
          List.mem_singleton.1 hmem ▸ hx ▸ hnode
        rw [List.filter_cons_of_neg (by simp [hx]), ih]
        exact (partsOf_append hout).symm
      · rw [List.filter_cons_of_pos (by simp [hx]), List.map_cons, List.map_cons]
        unfold partsOf at ih ⊢
        rw [List.filter_cons, List.filter_cons, ih]

/-- Taking an inner element off the stack. -/
theorem Stands.removeOpen {node : Nat} (h : b.Stands frame)
    (hnode : b.dom.tag node ∉ structuralTags) : (b.removeOpen node).Stands frame :=
  ⟨{ h.1 with
      valid := fun id hid => h.1.valid id (List.mem_filter.1 hid).1
      nested := wellNested_without hnode _ h.1.nested
      parts := (partsOf_without hnode _).trans h.1.parts }, h.2⟩

end Builder

end PostPress.Html
