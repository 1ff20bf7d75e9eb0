import PostPress.Proofs.Html.Body
import PostPress.Proofs.Html.Tidy

/-!
# PostPress.Proofs.Html.Table

**The modes of a body go with the parts that are open**: each mode of a table is entered
only where its part is open, and left where that part is closed.

It is enough to know that the part of a mode is open somewhere, not that it is the innermost
one: elements are closed up to the part before another one is put on it, and what the part
itself stands on follows from the nesting (`Builder.support_mem`).

* `Mode.Fits` — whether a mode goes with the open parts;
* `Builder.Settled` — a body is open, with well nested elements in a mode that fits;
* `Builder.Stands.resetMode` — the mode that follows from the open elements fits.
-/

namespace PostPress.Html

open Builder (suppliedElements)

/-! ### Closing parts -/

namespace WellNested

variable {name : String} {rest names : List String}

/-- A part of a table stands on the part that it belongs to. -/
theorem support (h : WellNested (name :: rest)) (hname : name ∈ tableParts) :
    ∃ below under, rest = below :: under ∧ below ∈ supports name := by
  have hparts : ∀ name ∈ tableParts, name ∈ structuralTags ∧ name ≠ "body" ∧ name ≠ "table" := by
    decide
  obtain ⟨hstructural, hbody, htable⟩ := hparts name hname
  rcases h.cons_cases with ⟨heq, -⟩ | ⟨-, hinner | heq | hbelow⟩
  · exact absurd heq hbody
  · exact absurd hstructural hinner
  · exact absurd heq htable
  · exact hbelow

/-- Where a part of a table is open, a table is. -/
theorem table_mem (h : WellNested names) (hname : name ∈ names) (hpart : name ∈ tableParts) :
    "table" ∈ names := by
  induction h generalizing name with
  | body hbody hroot =>
      subst hbody hroot
      have hnot : ∀ name ∈ ["body", "html"], name ∉ tableParts := by decide
      exact absurd hpart (hnot name hname)
  | inner hinner hrest ih =>
      rcases List.mem_cons.1 hname with rfl | hname
      · exact absurd ((by decide : ∀ name ∈ tableParts, name ∈ structuralTags) _ hpart) hinner
      · exact List.mem_cons_of_mem _ (ih hname hpart)
  | table htable hrest ih => exact htable ▸ List.mem_cons_self
  | part hbelow hrest ih =>
      have hon : ∀ name ∈ "table" :: "tr" :: rowGroups, name = "table" ∨ name ∈ tableParts := by
        decide
      refine List.mem_cons_of_mem _ ?_
      rcases List.mem_cons.1 hname with rfl | hname
      · rcases hon _ (mem_of_supports hbelow).2 with rfl | hbelow
        · exact List.mem_cons_self
        · exact ih List.mem_cons_self hbelow
      · exact ih hname hpart

/-- Closing elements up to one that is not the outermost one. -/
theorem dropWhile {tag : Nat → String} {p : Nat → Bool} (stack : List Nat)
    (h : WellNested (stack.map tag)) (hfound : ∃ id ∈ stack, p id = true ∧ tag id ≠ "html") :
    ∃ id rest, stack.dropWhile (!p ·) = id :: rest ∧ p id = true ∧
      WellNested (tag id :: rest.map tag) := by
  induction stack with
  | nil =>
      obtain ⟨id, hid, -⟩ := hfound
      exact absurd hid List.not_mem_nil
  | cons id rest ih =>
      by_cases hp : p id = true
      · exact ⟨id, rest, List.dropWhile_cons_of_neg (by simp [hp]), hp, h⟩
      · obtain ⟨other, hother, hfound, hhtml⟩ := hfound
        have hmem : other ∈ rest := (List.mem_cons.1 hother).resolve_left fun heq =>
          hp (heq ▸ hfound)
        rw [List.dropWhile_cons_of_pos (by simp [hp])]
        refine ih (h.tail ?_) ⟨other, hmem, hfound, hhtml⟩
        intro hbody
        rcases h.cons_cases with ⟨-, hroot⟩ | ⟨hrest, hinner | htable | ⟨below, under, -, hon⟩⟩
        · have htag : tag other ∈ rest.map tag := List.mem_map_of_mem hmem
          rw [hroot] at htag
          exact hhtml (List.mem_singleton.1 htag)
        · exact hinner (hbody ▸ by decide)
        · exact absurd (hbody.symm.trans htable) (by decide)
        · exact absurd (hbody ▸ (mem_of_supports hon).1) (by decide)

end WellNested

/-! ### Modes -/

/-- The modes of a table in which rows may begin. -/
def tableModes : List Mode := [.inTable, .inTableBody, .inRow]

/-- Whether a mode goes with the open parts. -/
def Mode.Fits : Mode → List String → Prop
  | .inBody, parts | .afterBody, parts | .afterAfterBody, parts => parts = ["body", "html"]
  | .inTable, parts => "table" ∈ parts
  | .inTableBody, parts => ∃ name ∈ rowGroups, name ∈ parts
  | .inRow, parts => "tr" ∈ parts
  | .inCell, parts => ∃ name ∈ ["td", "th"], name ∈ parts
  | .inCaption, _ | .inColumnGroup, _ => True
  | _, _ => False

/-- Whether the mode goes with the open parts, or the one to go back to where text of a table
is read. -/
def Frame.Fits (frame : Frame) : Prop :=
  frame.mode.Fits frame.parts ∨
    (frame.mode = .inTableText ∧ frame.returnMode ∈ tableModes ∧
      frame.returnMode.Fits frame.parts)

namespace Builder

variable {frame : Frame} {b : Builder}

/-- A body is open, with well nested elements in a mode that fits. -/
def Settled (b : Builder) : Prop := ∃ frame : Frame, b.Stands frame ∧ frame.Fits

theorem Stands.settled (h : b.Stands frame) (hfits : frame.mode.Fits frame.parts) : b.Settled :=
  ⟨frame, h, .inl hfits⟩

theorem Stands.enter {mode : Mode} (h : b.Stands frame) (hfits : mode.Fits frame.parts) :
    (b.goTo mode).Settled :=
  (h.goTo mode).settled hfits

theorem Stands.mem_parts (h : b.Stands frame) {name : String} :
    name ∈ frame.parts ↔ name ∈ b.stack.map b.dom.tag ∧ name ∈ structuralTags := by
  rw [← h.1.parts, mem_partsOf]

theorem Stands.table_mem (h : b.Stands frame) {mode : Mode} (hmode : mode ∈ tableModes)
    (hfits : mode.Fits frame.parts) : "table" ∈ frame.parts := by
  have hpart : ∀ name ∈ tableParts, name ∈ frame.parts → "table" ∈ frame.parts :=
    fun name hname hmem => h.mem_parts.2
      ⟨h.1.nested.table_mem (h.mem_parts.1 hmem).1 hname, by decide⟩
  have hcases : mode = .inTable ∨ mode = .inTableBody ∨ mode = .inRow := by
    simpa [tableModes] using hmode
  rcases hcases with rfl | rfl | rfl
  · exact hfits
  · obtain ⟨name, hname, hmem⟩ := hfits
    exact hpart name ((by decide : ∀ name ∈ rowGroups, name ∈ tableParts) name hname) hmem
  · exact hpart "tr" (by decide) hfits

/-- Keeping only some of the open elements. -/
theorem Stands.withStack {stack : List Nat} (h : b.Stands frame) (hsub : stack ⊆ b.stack)
    (hnested : WellNested (stack.map b.dom.tag)) :
    { b with stack }.Stands { frame with parts := partsOf (stack.map b.dom.tag) } :=
  ⟨{ h.1 with valid := fun id hid => h.1.valid id (hsub hid), nested := hnested, parts := rfl },
    h.2⟩

section

variable {names : List String}

/-- Closing elements up to a part that is open. -/
theorem Stands.clearTo (h : b.Stands frame) (names : List String)
    (hfound : ∃ name ∈ names, name ∈ frame.parts ∧ name ≠ "html") :
    ∃ name rest, name ∈ names ∧ (b.clearTo names).stack.map b.dom.tag = name :: rest ∧
      WellNested (name :: rest) ∧
      (b.clearTo names).Stands { frame with parts := partsOf (name :: rest) } := by
  obtain ⟨name, hname, hmem, hhtml⟩ := hfound
  obtain ⟨htags, hstructural⟩ := h.mem_parts.1 hmem
  obtain ⟨id, hid, rfl⟩ := List.mem_map.1 htags
  have hempty : b.dom.tag id ≠ "" := fun heq => absurd (heq ▸ hstructural) (by decide)
  obtain ⟨found, rest, hdrop, hfound, hnested⟩ := h.1.nested.dropWhile (p := b.isHtml names)
    b.stack ⟨id, hid, isHtml_of_tag_mem hname hempty, hhtml⟩
  have hstack : (b.clearTo names).stack.map b.dom.tag = b.dom.tag found :: rest.map b.dom.tag :=
    congrArg (List.map b.dom.tag) hdrop
  refine ⟨_, rest.map b.dom.tag, tag_mem_of_isHtml hfound, hstack, hnested, ?_⟩
  rw [← hstack]
  exact h.withStack (List.dropWhile_sublist _).subset (hstack ▸ hnested)

/-- Closing the innermost element, a part. -/
theorem Stands.popPart {name : String} {rest : List String} (h : b.Stands frame)
    (hstack : b.stack.map b.dom.tag = name :: rest) (hname : name ≠ "body") :
    b.pop.Stands { frame with parts := partsOf rest } := by
  have hrest : (b.stack.drop 1).map b.dom.tag = rest := by
    rw [List.map_drop, hstack]
    rfl
  have hnested : WellNested (name :: rest) := hstack ▸ h.1.nested
  rw [← hrest]
  exact h.withStack (List.drop_sublist 1 _).subset (hrest.symm ▸ hnested.tail hname)

/-- Closing elements through a part that is open. -/
theorem Stands.closePart (h : b.Stands frame) (names : List String)
    (hfound : ∃ name ∈ names, name ∈ frame.parts ∧ name ≠ "html") (hbody : "body" ∉ names) :
    ∃ name rest, name ∈ names ∧ WellNested (name :: rest) ∧
      (b.popUntil names).Stands { frame with parts := partsOf rest } := by
  obtain ⟨name, rest, hname, hstack, hnested, hstands⟩ := h.clearTo names hfound
  exact ⟨name, rest, hname, hnested, hstands.popPart hstack fun heq => hbody (heq ▸ hname)⟩

/-- What is in the scope of tables is open. -/
theorem Stands.exists_of_inTableScope (h : b.Stands frame)
    (hnames : ∀ name ∈ names, name ∈ structuralTags ∧ name ≠ "html")
    (hscope : b.inTableScope names = true) :
    ∃ name ∈ names, name ∈ frame.parts ∧ name ≠ "html" := by
  have hexists : ∀ stack : List Nat,
      searchScope (b.isHtml names) (b.isHtml ["html", "table", "template"]) stack = true →
      ∃ id ∈ stack, b.isHtml names id = true := by
    intro stack
    induction stack with
    | nil => exact fun h => absurd h Bool.false_ne_true
    | cons id rest ih =>
        intro hfound
        unfold searchScope at hfound
        split at hfound
        · next hid => exact ⟨id, List.mem_cons_self, hid⟩
        · split at hfound
          · exact absurd hfound Bool.false_ne_true
          · obtain ⟨other, hother, hid⟩ := ih hfound
            exact ⟨other, List.mem_cons_of_mem _ hother, hid⟩
  obtain ⟨id, hid, hhtml⟩ := hexists b.stack hscope
  have hname := tag_mem_of_isHtml hhtml
  obtain ⟨hstructural, hnot⟩ := hnames _ hname
  exact ⟨_, hname, h.mem_parts.2 ⟨List.mem_map_of_mem hid, hstructural⟩, hnot⟩

end

/-! ### The mode that follows from the open elements -/

theorem htmlName?_of_tag {id : Nat} (h : b.dom.tag id ≠ "") : b.htmlName? id = some (b.dom.tag id) := by
  unfold Dom.tag at h ⊢
  unfold htmlName?
  grind

theorem tag_of_htmlName? {id : Nat} {name : String} (h : b.htmlName? id = some name) :
    b.dom.tag id = name := by
  unfold htmlName? at h
  unfold Dom.tag
  grind

theorem mem_partsOf_cons {name : String} (h : name ∈ structuralTags) (rest : List String) :
    name ∈ partsOf (name :: rest) :=
  mem_partsOf.2 ⟨List.mem_cons_self, h⟩

/-- **The mode that follows from the open elements** goes with their parts. -/
theorem modeFor_fits (stack : List Nat) (h : WellNested (stack.map b.dom.tag)) :
    (b.modeFor stack).Fits (partsOf (stack.map b.dom.tag)) := by
  induction stack with
  | nil => exact absurd h.two_le_length (by simp)
  | cons id rest ih =>
      have hrest : rest.isEmpty = false := by
        refine List.isEmpty_eq_false_iff.2 fun hnil => ?_
        subst hnil
        exact absurd h.two_le_length (by simp)
      have hname : ∀ name ∈ structuralTags, b.dom.tag id = name → b.htmlName? id = some name := by
        rintro name hstructural rfl
        exact htmlName?_of_tag fun hempty => absurd (hempty ▸ hstructural) (by decide)
      unfold modeFor
      rw [hrest, List.map_cons]
      dsimp only
      rw [Bool.false_and, if_neg Bool.false_ne_true]
      rcases h.cons_cases with ⟨hbody, hroot⟩ | ⟨hbelow, hinner | htable | ⟨below, under, -, hon⟩⟩
      · rw [hname "body" (by decide) hbody, hbody, hroot]
        exact (by decide : partsOf ["body", "html"] = ["body", "html"])
      · have hout : ∀ name ∈ [b.dom.tag id], name ∉ structuralTags := fun name hmem =>
          List.mem_singleton.1 hmem ▸ hinner
        have hparts : partsOf (b.dom.tag id :: rest.map b.dom.tag) = partsOf (rest.map b.dom.tag) :=
          partsOf_append hout
        have hnot : ∀ name ∈ structuralTags, b.htmlName? id ≠ some name := fun name hmem heq =>
          hinner (tag_of_htmlName? heq ▸ hmem)
        rw [hparts]
        split
        all_goals try exact absurd ‹_› (hnot _ (by decide))
        exact ih hbelow
      · rw [hname "table" (by decide) htable, htable]
        exact mem_partsOf_cons (by decide) _
      · have hpart := (mem_of_supports hon).1
        generalize b.dom.tag id = name at hpart hname ⊢
        rw [hname name ((by decide : ∀ name ∈ tableParts, name ∈ structuralTags) name hpart) rfl]
        have hcases : ∀ name ∈ tableParts, name = "caption" ∨ name = "colgroup" ∨
            name ∈ rowGroups ∨ name = "tr" ∨ name = "td" ∨ name = "th" := by decide
        rcases hcases name hpart with rfl | rfl | hrows | rfl | rfl | rfl
        · trivial
        · trivial
        · have hmode : ∀ name ∈ rowGroups, name = "tbody" ∨ name = "tfoot" ∨ name = "thead" := by
            decide
          have hfits : Mode.inTableBody.Fits (partsOf (name :: rest.map b.dom.tag)) :=
            ⟨name, hrows, mem_partsOf_cons
              ((by decide : ∀ name ∈ rowGroups, name ∈ structuralTags) name hrows) _⟩
          rcases hmode name hrows with rfl | rfl | rfl
          · exact hfits
          · exact hfits
          · exact hfits
        · exact mem_partsOf_cons (by decide) _
        · exact ⟨"td", by decide, mem_partsOf_cons (by decide) _⟩
        · exact ⟨"th", by decide, mem_partsOf_cons (by decide) _⟩

theorem Stands.resetMode (h : b.Stands frame) : b.resetMode.Settled :=
  h.enter (h.1.parts ▸ modeFor_fits b.stack h.1.nested)

/-- Leaving a table. -/
theorem Stands.leaveTable (h : b.Stands frame) (htable : "table" ∈ frame.parts) :
    (b.popUntil ["table"]).resetMode.Settled := by
  obtain ⟨_, _, -, -, hstands⟩ :=
    h.closePart ["table"] ⟨"table", by decide, htable, by decide⟩ (by decide)
  exact hstands.resetMode

/-! ### Between the parts of a table -/

/-- Closing elements up to a table. -/
theorem Stands.clearToTable (h : b.Stands frame) (htable : "table" ∈ frame.parts) :
    ∃ rest parts, b.clearToTable.stack.map b.dom.tag = "table" :: rest ∧
      b.clearToTable.Stands { frame with parts } := by
  obtain ⟨name, rest, hname, hstack, hnested, hstands⟩ :=
    h.clearTo ["table", "template", "html"] ⟨"table", by decide, htable, by decide⟩
  have hnot := hnested.notMem_outer
  have heq : name = "table" := by grind
  exact ⟨rest, _, heq ▸ hstack, hstands⟩

/-- Closing elements up to a group of rows. -/
theorem Stands.clearToRows (h : b.Stands frame)
    (hrows : ∃ name ∈ rowGroups, name ∈ frame.parts) :
    ∃ group ∈ rowGroups, ∃ rest parts, b.clearToRows.stack.map b.dom.tag = group :: rest ∧
      b.clearToRows.Stands { frame with parts } := by
  obtain ⟨group, hgroup, hmem⟩ := hrows
  have hnames : ∀ name ∈ rowGroups, name ∈ ["tbody", "tfoot", "thead", "template", "html"] ∧
      name ≠ "html" := by decide
  obtain ⟨name, rest, hname, hstack, hnested, hstands⟩ :=
    h.clearTo ["tbody", "tfoot", "thead", "template", "html"]
      ⟨group, (hnames group hgroup).1, hmem, (hnames group hgroup).2⟩
  have hnot := hnested.notMem_outer
  refine ⟨name, ?_, rest, _, hstack, hstands⟩
  unfold rowGroups
  grind

/-- Closing elements up to a row. -/
theorem Stands.clearToRow (h : b.Stands frame) (hrow : "tr" ∈ frame.parts) :
    ∃ rest parts, b.clearToRow.stack.map b.dom.tag = "tr" :: rest ∧
      b.clearToRow.Stands { frame with parts } := by
  obtain ⟨name, rest, hname, hstack, hnested, hstands⟩ :=
    h.clearTo ["tr", "template", "html"] ⟨"tr", by decide, hrow, by decide⟩
  have hnot := hnested.notMem_outer
  have heq : name = "tr" := by grind
  exact ⟨rest, _, heq ▸ hstack, hstands⟩

/-- Opening a part of a table on the one that it belongs to. -/
theorem Stands.openOn {name below : String} {rest : List String} {attrs : List Attribute}
    (h : b.Stands frame) (hstack : b.stack.map b.dom.tag = below :: rest)
    (hbelow : below ∈ supports name) :
    (b.insert name attrs).Stands { frame with parts := name :: frame.parts } := by
  have hparts : ∀ name ∈ tableParts, name ∉ suppliedElements := by decide
  refine h.openPart (hparts name (mem_of_supports hbelow).1) (structural_of_supports hbelow).1 ?_
  rw [hstack]
  exact .part hbelow (hstack ▸ h.1.nested)

/-- Under a part of a table is the one that it stands on. -/
theorem support_mem {name : String} {rest : List String} (h : WellNested (name :: rest))
    (hname : name ∈ tableParts) : ∃ below ∈ supports name, below ∈ partsOf rest := by
  obtain ⟨below, under, rfl, hbelow⟩ := h.support hname
  exact ⟨below, hbelow, mem_partsOf_cons (structural_of_supports hbelow).2 under⟩

theorem Stands.closeCaption (h : b.Stands frame) (hscope : b.inTableScope ["caption"] = true) :
    b.closeCaption.Settled := by
  obtain ⟨name, rest, hname, hnested, hstands⟩ := (h.closeImplied []).closePart _
    (h.exists_of_inTableScope (by decide) hscope) (by decide)
  obtain rfl := List.mem_singleton.1 hname
  obtain ⟨below, hbelow, hmem⟩ := support_mem hnested (by decide)
  obtain rfl := List.mem_singleton.1 hbelow
  exact hstands.clearFormatting.enter hmem

/-- Leaving a cell of one of some names. -/
theorem Stands.closeCellOf {names : List String} (h : b.Stands frame)
    (hnames : ∀ name ∈ names, name = "td" ∨ name = "th")
    (hfound : ∃ name ∈ names, name ∈ frame.parts) :
    ((((b.closeImplied []).popUntil names).clearFormatting).goTo .inRow).Settled := by
  have hcell : ∀ name ∈ names, name ∈ tableParts ∧ name ≠ "body" ∧ supports name = ["tr"] ∧
      name ≠ "html" := by
    intro name hname
    rcases hnames name hname with rfl | rfl <;> decide
  obtain ⟨found, hfound, hin⟩ := hfound
  obtain ⟨name, rest, hname, hnested, hstands⟩ := (h.closeImplied []).closePart names
    ⟨found, hfound, hin, (hcell found hfound).2.2.2⟩ fun hbody => (hcell _ hbody).2.1 rfl
  obtain ⟨hpart, -, hrow, -⟩ := hcell name hname
  obtain ⟨below, hbelow, hmem⟩ := support_mem hnested hpart
  obtain rfl := List.mem_singleton.1 (hrow ▸ hbelow)
  exact hstands.clearFormatting.enter hmem

theorem Stands.closeCell (h : b.Stands frame) (hcell : ∃ name ∈ ["td", "th"], name ∈ frame.parts) :
    b.closeCell.Settled :=
  h.closeCellOf (by decide) hcell

theorem Stands.closeRow (h : b.Stands frame) (hrow : "tr" ∈ frame.parts) :
    b.closeRow.Settled := by
  obtain ⟨rest, _, hstack, hstands⟩ := h.clearToRow hrow
  obtain ⟨below, hbelow, hmem⟩ := support_mem (hstack ▸ hstands.1.nested) (by decide)
  exact (hstands.popPart hstack (by decide)).enter ⟨below, hbelow, hmem⟩

theorem Stands.closeRows (h : b.Stands frame) (hrows : ∃ name ∈ rowGroups, name ∈ frame.parts) :
    b.closeRows.Settled := by
  obtain ⟨group, hgroup, rest, _, hstack, hstands⟩ := h.clearToRows hrows
  have hgroups : ∀ name ∈ rowGroups, name ∈ tableParts ∧ name ≠ "body" ∧
      supports name = ["table"] := by decide
  obtain ⟨hpart, hbody, htable⟩ := hgroups group hgroup
  obtain ⟨below, hbelow, hmem⟩ := support_mem (hstack ▸ hstands.1.nested) hpart
  obtain rfl := List.mem_singleton.1 (htable ▸ hbelow)
  exact (hstands.popPart hstack hbody).enter hmem

/-- Other elements are no parts. -/
theorem Stands.notMem_parts_of_other {name : String} (h : b.Stands frame)
    (hname : name ∉ "html" :: "body" :: "table" :: tableParts) : name ∉ frame.parts := by
  intro hmem
  obtain ⟨htags, hstructural⟩ := h.mem_parts.1 hmem
  have hcases : ∀ name ∈ structuralTags, name ∈ "html" :: "body" :: "table" :: tableParts ∨
      name ∈ ["head", "frameset", "template"] := by decide
  rcases hcases name hstructural with hopen | hnever
  · exact hname hopen
  · exact h.1.nested.notMem_of_never hnever htags

/-- The end tags of other elements close none of the parts. -/
theorem Stands.notMem_parts_of_endTag {name : String} (h : b.Stands frame)
    (hname : name ∉ "html" :: "body" :: "table" :: tableParts) :
    ∀ closed, Token.endTag name = .endTag closed → closed ∉ frame.parts := by
  intro closed heq
  obtain rfl := Token.endTag.inj heq
  exact h.notMem_parts_of_other hname

theorem Stands.outer_mem (h : b.Stands frame) : "body" ∈ frame.parts ∧ "html" ∈ frame.parts := by
  have houter : ∀ {names : List String}, WellNested names → "body" ∈ names ∧ "html" ∈ names := by
    intro names hnested
    induction hnested with
    | body hname hroot =>
        subst hname hroot
        decide
    | inner _ _ ih | table _ _ ih | part _ _ ih =>
        exact ih.imp (List.mem_cons_of_mem _) (List.mem_cons_of_mem _)
  obtain ⟨hbody, hhtml⟩ := houter h.1.nested
  exact ⟨h.mem_parts.2 ⟨hbody, by decide⟩, h.mem_parts.2 ⟨hhtml, by decide⟩⟩

end Builder

/-! ### Rules -/

/-- A token that asks for no other way of reading. -/
def Token.Ordinary (token : Token) : Prop := token.Named (· ∉ unusualTags)

theorem Token.Ordinary.startTag {name : String} {attrs : List Attribute} {selfClosing : Bool}
    (h : (Token.startTag name attrs selfClosing).Ordinary) : name ∉ unusualTags :=
  h name (.inr ⟨attrs, selfClosing, rfl⟩)

theorem Token.Ordinary.endTag {name : String} (h : (Token.endTag name).Ordinary) :
    name ∉ unusualTags :=
  h name (.inl rfl)

/-- What a rule leaves: a state with a property, and an ordinary token. -/
def After (State : Builder → Prop) (result : Builder × Option Token) : Prop :=
  State result.1 ∧ ∀ token, result.2 = some token → token.Ordinary

section

variable {frame : Frame} {b : Builder} {token : Token}

theorem after_done {State : Builder → Prop} : After State (done b) ↔ State b := by
  simp [After, done]

theorem after_again {State : Builder → Prop} :
    After State (again b token) ↔ State b ∧ token.Ordinary := by
  simp [After, again]

/-- Closing a part that is in scope, or ignoring the token. -/
theorem after_done_ite {State : Builder → Prop} {scope : Bool} {closed : Builder}
    (hclosed : scope = true → State closed) (hstay : State b) :
    After State (done (if scope then closed else b)) := by
  refine after_done.2 ?_
  split
  · next hscope => exact hclosed hscope
  · exact hstay

/-- Closing a part that is in scope and reading the token where that leads, or ignoring it. -/
theorem after_again_ite {State : Builder → Prop} {scope : Bool} {closed : Builder}
    (hclosed : scope = true → State closed) (hstay : State b) (hord : token.Ordinary) :
    After State (if scope then again closed token else done b) := by
  split
  · next hscope => exact after_again.2 ⟨hclosed hscope, hord⟩
  · exact after_done.2 hstay

namespace Builder

/-- A state in the same mode and with the same parts, or in a table that was opened. -/
def StandsOrTable (frame : Frame) (b : Builder) : Prop :=
  b.Stands frame ∨ b.Stands { frame with mode := .inTable, parts := "table" :: frame.parts }

theorem StandsOrTable.settled (h : b.StandsOrTable frame) (hfits : frame.Fits) : b.Settled := by
  rcases h with h | h
  · exact ⟨frame, h, hfits⟩
  · exact h.settled List.mem_cons_self

/-- **The rule of the body.** It keeps the parts that are open, but that it opens tables. -/
theorem Stands.ruleInBody (h : b.Stands frame) (hord : token.Ordinary)
    (hend : ∀ name, token = .endTag name → name ∉ frame.parts) :
    (ruleInBody b token).2 = none ∧ (ruleInBody b token).1.StandsOrTable frame := by
  obtain ⟨hbody, hhtml⟩ := h.outer_mem
  have htemplate : b.isOpen "template" = false := h.not_isOpen (by decide)
  unfold Html.ruleInBody
  split
  · exact ⟨rfl, .inl h⟩
  · exact ⟨rfl, .inl h⟩
  · exact ⟨rfl, .inl (h.reopenFormatting.insertText _)⟩
  · exact ⟨rfl, .inl (h.reopenFormatting.insertText _)⟩
  · exact ⟨rfl, .inl h.insertComment⟩
  · next name attrs selfClosing =>
    refine ⟨rfl, ?_⟩
    by_cases htable : name = "table"
    · subst htable
      exact .inr (h.startTable selfClosing)
    · exact .inl (h.startInBody hord.startTag htable selfClosing)
  · exact absurd hbody (hend _ rfl)
  · exact absurd hhtml (hend _ rfl)
  · next name _ _ => exact ⟨rfl, .inl (h.endInBody hord.endTag (hend name rfl))⟩
  · split
    · exact ⟨rfl, .inl h⟩
    · unfold endInTemplate
      rw [htemplate]
      exact ⟨rfl, .inl h⟩

theorem Stands.settledAfter_body (h : b.Stands frame) (hfits : frame.Fits) (hord : token.Ordinary)
    (hend : ∀ name, token = .endTag name → name ∉ frame.parts) :
    After Settled (Html.ruleInBody b token) := by
  obtain ⟨hused, hstands⟩ := h.ruleInBody hord hend
  exact ⟨hstands.settled hfits, fun token heq => absurd (hused.symm.trans heq) nofun⟩

/-- What cannot be in a table is put before it. -/
theorem Stands.settledAfter_fostered (h : b.Stands frame) (hfits : frame.Fits)
    (hord : token.Ordinary) (hend : ∀ name, token = .endTag name → name ∉ frame.parts) :
    After Settled (ruleFostered b token) := by
  obtain ⟨hused, hstands⟩ :=
    Stands.ruleInBody (b := { b with fostering := true }) h hord hend
  refine ⟨StandsOrTable.settled ?_ hfits, fun token heq => absurd (hused.symm.trans heq) nofun⟩
  exact hstands

/-- Text of a table is put into it or before it. -/
theorem Stands.flushTableText (h : b.Stands frame) :
    b.flushTableText.Stands { frame with mode := frame.returnMode } := by
  have hstart : { b with tableText := [], mode := b.returnMode }.Stands
      { frame with mode := frame.returnMode } := ⟨h.1, h.2.1, h.2.2.2, h.2.2.2⟩
  unfold Builder.flushTableText
  dsimp only
  split
  · exact List.foldlRecOn (motive := Stands _) _ _ hstart fun b h chars _ => h.insertText chars
  · refine List.foldlRecOn (motive := Stands _) _ _ hstart fun b h chars _ => ?_
    have htext : ({ b with fostering := true }.reopenFormatting.insertText chars).Stands _ :=
      Stands.insertText (Stands.reopenFormatting (b := { b with fostering := true }) h) chars
    split
    · exact htext
    · exact htext

/-- **The rule of a table.** -/
theorem Stands.settledAfter_inTable (h : b.Stands frame) (hmode : frame.mode ∈ tableModes)
    (hfits : frame.mode.Fits frame.parts) (hord : token.Ordinary) :
    After Settled (ruleInTable b token) := by
  have htable := h.table_mem hmode hfits
  have hstay : b.Settled := h.settled hfits
  obtain ⟨rest, parts, hstack, hstands⟩ := h.clearToTable htable
  have hopen : ∀ (name : String) (attrs : List Attribute) (mode : Mode),
      "table" ∈ supports name → (∀ parts, mode.Fits (name :: parts)) →
      ((b.clearToTable.insert name attrs).goTo mode).Settled := fun name attrs mode hon hmode =>
    (hstands.openOn hstack hon).enter (hmode parts)
  have hrows : ∀ name ∈ rowGroups, ∀ parts, Mode.inTableBody.Fits (name :: parts) :=
    fun name hname parts => ⟨name, hname, List.mem_cons_self⟩
  have hfostered : (∀ name, token = .endTag name → name ∉ frame.parts) →
      After Settled (ruleFostered b token) :=
    h.settledAfter_fostered (.inl hfits) hord
  have htext : (∀ name, token ≠ .endTag name) →
      After Settled (if b.currentIs ["table", "tbody", "template", "tfoot", "thead", "tr"]
        then again { b with mode := .inTableText, returnMode := b.mode } token
        else ruleFostered b token) := by
    intro htoken
    split
    · refine after_again.2 ⟨⟨{ frame with
        mode := .inTableText, returnMode := frame.mode }, ?_, ?_⟩, hord⟩
      · exact ⟨h.1, h.2.1, rfl, h.2.2.1⟩
      · exact .inr ⟨rfl, hmode, hfits⟩
    · exact hfostered fun name heq => absurd heq (htoken name)
  unfold ruleInTable
  dsimp only
  split
  · exact htext fun _ => nofun
  · exact htext fun _ => nofun
  · exact htext fun _ => nofun
  · exact after_done.2 (h.insertComment.settled hfits)
  · exact after_done.2 hstay
  · split
    · exact after_done.2 ((hstands.pushMarker.openOn hstack (by decide)).enter trivial)
    · exact after_done.2 (hopen _ _ .inColumnGroup (by decide) fun _ => trivial)
    · exact after_again.2
        ⟨hopen "colgroup" [] .inColumnGroup (by decide) fun _ => trivial, hord⟩
    · exact after_done.2 (hopen _ _ .inTableBody (by decide) (hrows _ (by decide)))
    · exact after_done.2 (hopen _ _ .inTableBody (by decide) (hrows _ (by decide)))
    · exact after_done.2 (hopen _ _ .inTableBody (by decide) (hrows _ (by decide)))
    · exact after_again.2 ⟨hopen "tbody" [] .inTableBody (by decide) (hrows _ (by decide)), hord⟩
    · exact after_again.2 ⟨hopen "tbody" [] .inTableBody (by decide) (hrows _ (by decide)), hord⟩
    · exact after_again.2 ⟨hopen "tbody" [] .inTableBody (by decide) (hrows _ (by decide)), hord⟩
    · exact after_again_ite (fun _ => h.leaveTable htable) hstay hord
    · exact absurd (by decide) hord.startTag
    · exact absurd (by decide) hord.startTag
    · exact absurd (by decide) hord.startTag
    · split
      · exact after_done.2 ((h.insertVoid (by decide)).settled hfits)
      · exact hfostered fun _ => nofun
    · exact after_done.2 (h.startTableForm.settled hfits)
    · exact hfostered fun _ => nofun
  · split
    · exact after_done_ite (fun _ => h.leaveTable htable) hstay
    all_goals try exact after_done.2 hstay
    · exact absurd (by decide) hord.endTag
    · next name htable hbody hcaption hcol hcolgroup hhtml htbody htd htfoot hth hthead htr _ =>
      refine hfostered (h.notMem_parts_of_endTag ?_)
      simp_all [tableParts]
  · exact h.settledAfter_body (.inl hfits) hord fun _ => nofun

theorem Stands.settledAfter_inTableText (h : b.Stands frame) (hmode : frame.mode = .inTableText)
    (hreturn : frame.returnMode ∈ tableModes) (hfits : frame.returnMode.Fits frame.parts)
    (hord : token.Ordinary) : After Settled (ruleInTableText b token) := by
  have hstay : ∀ tableText, { b with tableText }.Settled := fun tableText =>
    ⟨frame, h, .inr ⟨hmode, hreturn, hfits⟩⟩
  unfold ruleInTableText
  split
  · exact after_done.2 (hstay b.tableText)
  · exact after_done.2 (hstay _)
  · exact after_done.2 (hstay _)
  · exact after_again.2 ⟨h.flushTableText.settled hfits, hord⟩

theorem Stands.settledAfter_inCaption (h : b.Stands frame) (hfits : frame.mode.Fits frame.parts)
    (hord : token.Ordinary) : After Settled (ruleInCaption b token) := by
  have hstay : b.Settled := h.settled hfits
  have hbody : (∀ name, token = .endTag name → name ∉ frame.parts) →
      After Settled (Html.ruleInBody b token) := h.settledAfter_body (.inl hfits) hord
  have hleave : After Settled
      (if b.inTableScope ["caption"] then again b.closeCaption token else done b) :=
    after_again_ite h.closeCaption hstay hord
  unfold ruleInCaption
  dsimp only
  split
  · split
    · exact hleave
    · exact hbody fun _ => nofun
  · split
    · exact after_done_ite h.closeCaption hstay
    · exact hleave
    all_goals try exact after_done.2 hstay
    refine hbody (h.notMem_parts_of_endTag ?_)
    simp_all [tableParts]
  · next hstart hend => exact hbody fun name heq => absurd heq (hend name)

theorem Stands.settledAfter_inColumnGroup (h : b.Stands frame)
    (hfits : frame.mode.Fits frame.parts) (hord : token.Ordinary) :
    After Settled (ruleInColumnGroup b token) := by
  have hstay : b.Settled := h.settled hfits
  have hclose : b.currentIs ["colgroup"] = true → (b.pop.goTo .inTable).Settled := by
    intro hcurrent
    obtain ⟨id, rest, hstack, htag⟩ := exists_of_currentIs hcurrent
    have htags : b.stack.map b.dom.tag = "colgroup" :: rest.map b.dom.tag := by
      rw [hstack, List.map_cons, List.mem_singleton.1 htag]
    obtain ⟨below, hbelow, hmem⟩ := support_mem (htags ▸ h.1.nested) (by decide)
    obtain rfl := List.mem_singleton.1 hbelow
    exact (h.popPart htags (by decide)).enter hmem
  have hleave : After Settled
      (if b.currentIs ["colgroup"] then again (b.pop.goTo .inTable) token else done b) :=
    after_again_ite hclose hstay hord
  unfold ruleInColumnGroup
  dsimp only
  split
  · exact after_done.2 ((h.insertText _).settled hfits)
  · exact after_done.2 (h.insertComment.settled hfits)
  · exact after_done.2 hstay
  · exact after_done.2 ((h.mergeHtml _).settled hfits)
  · exact after_done.2 ((h.insertVoid (by decide)).settled hfits)
  · exact absurd (by decide) hord.startTag
  · exact after_done_ite hclose hstay
  · exact after_done.2 hstay
  · exact absurd (by decide) hord.endTag
  · exact h.settledAfter_body (.inl hfits) hord fun _ => nofun
  · exact hleave

theorem Stands.settledAfter_inTableBody (h : b.Stands frame) (hmode : frame.mode = .inTableBody)
    (hrows : ∃ name ∈ rowGroups, name ∈ frame.parts) (hord : token.Ordinary) :
    After Settled (ruleInTableBody b token) := by
  have hfits : frame.mode.Fits frame.parts := hmode ▸ hrows
  have hstay : b.Settled := h.settled hfits
  have htable : After Settled (ruleInTable b token) :=
    h.settledAfter_inTable (hmode ▸ by decide) hfits hord
  have hleave : After Settled (if b.inTableScope ["tbody", "thead", "tfoot"]
      then again b.closeRows token else done b) :=
    after_again_ite (fun _ => h.closeRows hrows) hstay hord
  have hrow : ∀ attrs, ((b.clearToRows.insert "tr" attrs).goTo .inRow).Settled := by
    intro attrs
    obtain ⟨group, hgroup, rest, parts, hstack, hstands⟩ := h.clearToRows hrows
    have hon : supports "tr" = rowGroups := by decide
    exact (hstands.openOn hstack (hon ▸ hgroup)).enter List.mem_cons_self
  have hclose : ∀ name, After Settled (done (if b.inTableScope [name] then b.closeRows else b)) :=
    fun _ => after_done_ite (fun _ => h.closeRows hrows) hstay
  unfold ruleInTableBody
  dsimp only
  split
  · split
    · exact after_done.2 (hrow _)
    · exact after_again.2 ⟨hrow [], hord⟩
    · exact after_again.2 ⟨hrow [], hord⟩
    all_goals first | exact hleave | exact htable
  · split
    · exact hclose _
    · exact hclose _
    · exact hclose _
    all_goals first | exact hleave | exact after_done.2 hstay | exact htable
  · exact htable

theorem Stands.settledAfter_inRow (h : b.Stands frame) (hmode : frame.mode = .inRow)
    (hrow : "tr" ∈ frame.parts) (hord : token.Ordinary) : After Settled (ruleInRow b token) := by
  have hfits : frame.mode.Fits frame.parts := hmode ▸ hrow
  have hstay : b.Settled := h.settled hfits
  have htable : After Settled (ruleInTable b token) :=
    h.settledAfter_inTable (hmode ▸ by decide) hfits hord
  have hleave : After Settled
      (if b.inTableScope ["tr"] then again b.closeRow token else done b) :=
    after_again_ite (fun _ => h.closeRow hrow) hstay hord
  have hgroup : ∀ name, After Settled (if b.inTableScope [name] then
      (if b.inTableScope ["tr"] then again b.closeRow token else done b) else done b) := by
    intro name
    split
    · exact hleave
    · exact after_done.2 hstay
  have hcell : ∀ name ∈ ["td", "th"], ∀ attrs,
      (((b.clearToRow.insert name attrs).goTo .inCell).pushMarker).Settled := by
    intro name hname attrs
    have hon : ∀ name ∈ ["td", "th"], "tr" ∈ supports name := by decide
    obtain ⟨rest, parts, hstack, hstands⟩ := h.clearToRow hrow
    exact (hstands.openOn hstack (hon name hname)).pushMarker.enter
      ⟨name, hname, List.mem_cons_self⟩
  unfold ruleInRow
  dsimp only
  split
  · split
    · exact after_done.2 (hcell _ (by decide) _)
    · exact after_done.2 (hcell _ (by decide) _)
    all_goals first | exact hleave | exact htable
  · split
    · exact after_done_ite (fun _ => h.closeRow hrow) hstay
    · exact hleave
    · exact hgroup _
    · exact hgroup _
    · exact hgroup _
    all_goals first | exact after_done.2 hstay | exact htable
  · exact htable

theorem Stands.settledAfter_inCell (h : b.Stands frame) (hmode : frame.mode = .inCell)
    (hcell : ∃ name ∈ ["td", "th"], name ∈ frame.parts) (hord : token.Ordinary) :
    After Settled (ruleInCell b token) := by
  have hfits : frame.mode.Fits frame.parts := hmode ▸ hcell
  have hstay : b.Settled := h.settled hfits
  have hbody : (∀ name, token = .endTag name → name ∉ frame.parts) →
      After Settled (Html.ruleInBody b token) := h.settledAfter_body (.inl hfits) hord
  have hleave : ∀ names, After Settled
      (if b.inTableScope names then again b.closeCell token else done b) :=
    fun _ => after_again_ite (fun _ => h.closeCell hcell) hstay hord
  have hclose : ∀ name, name = "td" ∨ name = "th" → After Settled (done (if b.inTableScope [name]
      then (((b.closeImplied []).popUntil [name]).clearFormatting).goTo .inRow else b)) := by
    intro name hname
    refine after_done_ite (fun hscope => ?_) hstay
    have hnames : ∀ other ∈ [name], other ∈ structuralTags ∧ other ≠ "html" := by
      intro other hother
      rcases List.mem_singleton.1 hother ▸ hname with rfl | rfl <;> decide
    obtain ⟨other, hother, hin, -⟩ := h.exists_of_inTableScope hnames hscope
    exact h.closeCellOf (fun other hother => List.mem_singleton.1 hother ▸ hname)
      ⟨other, hother, hin⟩
  unfold ruleInCell
  split
  · split
    · exact hleave _
    · exact hbody fun _ => nofun
  · split
    · exact hclose _ (.inl rfl)
    · exact hclose _ (.inr rfl)
    all_goals try first | exact hleave _ | exact after_done.2 hstay
    refine hbody (h.notMem_parts_of_endTag ?_)
    simp_all [tableParts]
  · next hstart hend => exact hbody fun name heq => absurd heq (hend name)

theorem Stands.settledAfter_inBody (h : b.Stands frame) (hmode : frame.mode = .inBody)
    (hparts : frame.parts = ["body", "html"]) (hord : token.Ordinary) :
    After Settled (Html.ruleInBody b token) := by
  have hfits : frame.mode.Fits frame.parts := hmode ▸ hparts
  have hafter : (b.goTo .afterBody).Settled := h.enter hparts
  by_cases hend : ∀ name, token = .endTag name → name ∉ frame.parts
  · exact h.settledAfter_body (.inl hfits) hord hend
  · -- Only the end tags of the body and of the document close what is open.
    push Not at hend
    obtain ⟨name, rfl, hmem⟩ := hend
    rw [hparts] at hmem
    have hname : name = "body" ∨ name = "html" := by simpa using hmem
    rcases hname with rfl | rfl
    · exact after_done_ite (fun _ => hafter) (h.settled hfits)
    · exact after_again_ite (fun _ => hafter) (h.settled hfits) hord

/-- After the body, and after the document, blanks are put into the body and what else is
there leads back into it. -/
theorem Stands.settledAfter_afterBody (h : b.Stands frame)
    (hmode : frame.mode = .afterBody ∨ frame.mode = .afterAfterBody)
    (hparts : frame.parts = ["body", "html"]) (hord : token.Ordinary) :
    After Settled (ruleAfterBody b token) ∧ After Settled (ruleAfterAfterBody b token) := by
  have hfits : frame.mode.Fits frame.parts := by
    rcases hmode with heq | heq <;> exact heq ▸ hparts
  have hstay : b.Settled := h.settled hfits
  have hbody : After Settled (again (b.goTo .inBody) token) :=
    after_again.2 ⟨h.enter hparts, hord⟩
  constructor
  · unfold ruleAfterBody
    split
    · exact h.settledAfter_body (.inl hfits) hord fun _ => nofun
    · exact after_done.2 hstay
    · exact after_done.2 hstay
    · exact after_done.2 ((h.mergeHtml _).settled hfits)
    · refine after_done.2 ?_
      split
      · exact hstay
      · exact h.enter hparts
    · exact after_done.2 (Stands.settled (b := { b with stopped := true }) h hfits)
    · exact hbody
  · unfold ruleAfterAfterBody
    split
    · exact h.settledAfter_body (.inl hfits) hord fun _ => nofun
    · exact after_done.2 hstay
    · exact after_done.2 hstay
    · exact after_done.2 ((h.mergeHtml _).settled hfits)
    · exact after_done.2 (Stands.settled (b := { b with stopped := true }) h hfits)
    · exact hbody

end Builder

/-- **What every rule leaves in a body**: a body, with well nested elements in a mode that
fits. -/
theorem settledAfter_ruleOf (h : b.Settled) (hord : token.Ordinary) :
    After Builder.Settled (ruleOf b.mode b token) := by
  obtain ⟨frame, h, hfits⟩ := h
  have hmode : b.mode = frame.mode := h.2.2.1
  rcases hfits with hfits | ⟨hmode', hreturn, hfits⟩
  · have hin : ∀ mode, frame.mode = mode → mode.Fits frame.parts := fun _ heq => heq ▸ hfits
    rw [hmode]
    cases heq : frame.mode with
    | inBody => exact h.settledAfter_inBody heq (hin _ heq) hord
    | inTable => exact h.settledAfter_inTable (heq ▸ by decide) hfits hord
    | inCaption => exact h.settledAfter_inCaption hfits hord
    | inColumnGroup => exact h.settledAfter_inColumnGroup hfits hord
    | inTableBody => exact h.settledAfter_inTableBody heq (hin _ heq) hord
    | inRow => exact h.settledAfter_inRow heq (hin _ heq) hord
    | inCell => exact h.settledAfter_inCell heq (hin _ heq) hord
    | afterBody => exact (h.settledAfter_afterBody (.inl heq) (hin _ heq) hord).1
    | afterAfterBody => exact (h.settledAfter_afterBody (.inr heq) (hin _ heq) hord).2
    | _ => exact absurd (hin _ heq) id
  · rw [hmode, hmode']
    exact h.settledAfter_inTableText hmode' hreturn hfits hord

end

end PostPress.Html
