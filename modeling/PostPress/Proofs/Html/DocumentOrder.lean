import PostPress.Proofs.Html.NormalForm
import PostPress.Proofs.Html.Placement

/-!
# PostPress.Proofs.Html.DocumentOrder

**Nodes in document order.** As long as markup is read from front to back and nothing is moved,
nodes are created in the order in which their marks are read: what is below a node has the
numbers right after it. The tree under construction is then known from the marks that have
been read and from the open elements.

* `Dom.Holds` — siblings whose trees fill a range of numbers, and the marks they stand for;
* `Dom.Opens` — the open elements, each the last child of the one around it, and the marks up
  to the start tag of the innermost one;
* `Dom.HasRead` — all marks that have been read;
* `Markup.Spells` — a finished tree and its marks.

There is one lemma for each operation: `HasRead.openElement`, `HasRead.appendText` and
`HasRead.closeElement`. When all elements are closed the finished tree spells the marks
(`HasRead.spells`).
-/

namespace PostPress.Html

/-- Trees of texts and of HTML elements without attributes, and the marks they stand for. -/
inductive Markup.Spells : List Markup → List Mark → Prop
  | nil : Spells [] []
  | text {chars : List Char} {rest : List Markup} {marks : List Mark} (hrest : Spells rest marks) :
      Spells (.text chars :: rest) (chars.map .char ++ marks)
  | element {name : String} {children rest : List Markup} {below marks : List Mark}
      (hchildren : Spells children below) (hrest : Spells rest marks) :
      Spells (.element .html name [] children :: rest)
        (.startTag name ∅ :: (below ++ .endTag name :: marks))

namespace Dom

/-! ### Finished trees -/

/-- Siblings with all that is below them have the numbers of a range, in document order. -/
inductive Holds (dom : Dom) : (start stop : Nat) → List Nat → List Mark → Prop
  | nil {start : Nat} : Holds dom start start [] []
  | text {id stop : Nat} {chars : List Char} {rest : List Nat} {marks : List Mark}
      (hkind : (dom.node id).kind = .text chars) (hrest : Holds dom (id + 1) stop rest marks) :
      Holds dom id stop (id :: rest) (chars.map .char ++ marks)
  | element {id inner stop : Nat} {name : String} {children rest : List Nat}
      {below marks : List Mark} (hkind : (dom.node id).kind = .element .html name [] none)
      (hchildren : (dom.node id).children = children)
      (hbelow : Holds dom (id + 1) inner children below)
      (hrest : Holds dom inner stop rest marks) :
      Holds dom id stop (id :: rest) (.startTag name ∅ :: (below ++ .endTag name :: marks))

namespace Holds

variable {dom dom' : Dom} {start middle stop : Nat} {ids more : List Nat}
  {marks after : List Mark}

theorem le (h : dom.Holds start stop ids marks) : start ≤ stop := by
  induction h with
  | nil => exact Nat.le_refl _
  | text _ _ ih => omega
  | element _ _ _ _ ihbelow ihrest => omega

/-- What trees stand for is known from the nodes of their range. -/
theorem congr (h : dom.Holds start stop ids marks)
    (hsame : ∀ id, start ≤ id → id < stop → dom'.node id = dom.node id) :
    dom'.Holds start stop ids marks := by
  induction h with
  | nil => exact .nil
  | @text id stop _ _ _ hkind hrest ih =>
      have hle := hrest.le
      have hid := hsame id (Nat.le_refl _) (by omega)
      exact .text (hid ▸ hkind) (ih fun other hge hlt => hsame other (by omega) hlt)
  | @element id inner stop _ _ _ _ _ hkind hchildren hbelow hrest ihbelow ihrest =>
      have hinner := hbelow.le
      have hstop := hrest.le
      have hid := hsame id (Nat.le_refl _) (by omega)
      exact .element (hid ▸ hkind) (hid ▸ hchildren)
        (ihbelow fun other hge hlt => hsame other (by omega) (by omega))
        (ihrest fun other hge hlt => hsame other (by omega) hlt)

theorem append (h : dom.Holds start middle ids marks) (hmore : dom.Holds middle stop more after) :
    dom.Holds start stop (ids ++ more) (marks ++ after) := by
  induction h with
  | nil => exact hmore
  | text hkind _ ih =>
      rw [List.append_assoc]
      exact .text hkind (ih hmore)
  | element hkind hchildren hbelow _ _ ih =>
      rw [List.cons_append, List.cons_append, List.append_assoc, List.cons_append]
      exact .element hkind hchildren hbelow (ih hmore)

/-- A text at the end of siblings is the last node of their range. -/
theorem exists_of_last_text {last : Nat} (h : dom.Holds start stop ids marks)
    (hlast : ids.getLast? = some last) (htext : dom.isText last = true) :
    ∃ before chars earlier, ids = before ++ [last] ∧ marks = earlier ++ chars.map .char ∧
      (dom.node last).kind = .text chars ∧ stop = last + 1 ∧
      dom.Holds start last before earlier := by
  induction h with
  | nil => exact absurd hlast nofun
  | @text id stop chars rest marks hkind hrest ih =>
      cases hrest with
      | nil =>
          obtain rfl : id = last := Option.some.inj hlast
          exact ⟨[], chars, [], rfl, (List.append_nil _).trans (List.nil_append _).symm, hkind, rfl,
            .nil⟩
      | text | element =>
          rw [List.getLast?_cons_cons] at hlast
          obtain ⟨before, lastChars, earlier, hids, hmarks, hend, hstop, hbefore⟩ := ih hlast
          exact ⟨id :: before, lastChars, chars.map .char ++ earlier,
            by rw [hids, List.cons_append], by rw [hmarks, List.append_assoc], hend, hstop,
            .text hkind hbefore⟩
  | @element id inner stop name children rest below marks hkind hchildren hbelow hrest _ ih =>
      cases hrest with
      | nil =>
          obtain rfl : id = last := Option.some.inj hlast
          rw [isText, hkind] at htext
          exact absurd htext Bool.false_ne_true
      | text | element =>
          rw [List.getLast?_cons_cons] at hlast
          obtain ⟨before, chars, earlier, hids, hmarks, hend, hstop, hbefore⟩ := ih hlast
          refine ⟨id :: before, chars, .startTag name ∅ :: (below ++ .endTag name :: earlier),
            by rw [hids, List.cons_append], ?_, hend, hstop,
            .element hkind hchildren hbelow hbefore⟩
          rw [hmarks, List.cons_append, List.append_assoc, List.cons_append]

/-- Finished trees spell the marks they stand for. No path is longer than the range. -/
theorem spells (h : dom.Holds start stop ids marks) {depth : Nat} (hdepth : stop ≤ start + depth) :
    Markup.Spells (ids.flatMap (dom.toMarkup depth)) marks := by
  induction h generalizing depth with
  | nil => exact .nil
  | @text id stop chars rest marks hkind hrest ih =>
      have hle := hrest.le
      obtain ⟨depth, rfl⟩ := Nat.exists_eq_add_one_of_ne_zero (n := depth) (by omega)
      rw [List.flatMap_cons, toMarkup, hkind]
      exact .text (ih (by omega))
  | @element id inner stop name children rest below marks hkind hchildren hbelow hrest ihbelow
      ihrest =>
      have hinner := hbelow.le
      have hstop := hrest.le
      obtain ⟨depth, rfl⟩ := Nat.exists_eq_add_one_of_ne_zero (n := depth) (by omega)
      rw [List.flatMap_cons, toMarkup, hkind, hchildren]
      exact .element (ihbelow (by omega)) (ihrest (by omega))

end Holds

/-! ### Open elements -/

/-- The open elements with their names, innermost first. Each one is the last child of the one
around it; the nodes before the outermost one are those of another tree. -/
inductive Opens (start dom : Dom) : List (Nat × String) → List Mark → Prop
  | outermost {id : Nat} {name : String} (hkind : (dom.node id).kind = .element .html name [] none)
      (hstart : ∀ other < id, dom.node other = start.node other) : Opens start dom [(id, name)] []
  | inside {id outer : Nat} {name outerName : String} {around : List (Nat × String)}
      {ids : List Nat} {marks before : List Mark}
      (h : Opens start dom ((outer, outerName) :: around) marks)
      (hkind : (dom.node id).kind = .element .html name [] none)
      (hchildren : (dom.node outer).children = ids ++ [id])
      (hbefore : dom.Holds (outer + 1) id ids before) :
      Opens start dom ((id, name) :: (outer, outerName) :: around)
        (marks ++ (before ++ [.startTag name ∅]))

/-- The open elements, and the marks that have been read in the outermost one. -/
inductive HasRead (start dom : Dom) : List (Nat × String) → List Mark → Prop
  | intro {id : Nat} {name : String} {around : List (Nat × String)} {ids : List Nat}
      {marks now : List Mark} (hopen : Opens start dom ((id, name) :: around) marks)
      (hchildren : (dom.node id).children = ids)
      (hnow : dom.Holds (id + 1) dom.nodes.size ids now) :
      HasRead start dom ((id, name) :: around) (marks ++ now)

variable {start dom dom' : Dom} {id : Nat} {name : String} {around : List (Nat × String)}
  {marks : List Mark}

/-- Outer elements have smaller numbers. -/
theorem Opens.pairwise {opened : List (Nat × String)} (h : Opens start dom opened marks) :
    opened.Pairwise fun inner outer => outer.1 < inner.1 := by
  induction h with
  | outermost => exact List.pairwise_singleton _ _
  | @inside id outer _ _ around _ _ _ _ _ _ hbefore ih =>
      have hle := hbefore.le
      refine List.pairwise_cons.2 ⟨fun other hother => ?_, ih⟩
      rcases List.mem_cons.1 hother with rfl | hother
      · exact hle
      · exact Nat.lt_trans ((List.pairwise_cons.1 ih).1 other hother) hle

theorem Opens.kind_of_mem {opened : List (Nat × String)} (h : Opens start dom opened marks)
    {entry : Nat × String} (hentry : entry ∈ opened) :
    (dom.node entry.1).kind = .element .html entry.2 [] none := by
  induction h with
  | outermost hkind =>
      obtain rfl := List.mem_singleton.1 hentry
      exact hkind
  | inside _ hkind _ _ ih =>
      rcases List.mem_cons.1 hentry with rfl | hentry
      · exact hkind
      · exact ih hentry

/-- The nodes before the innermost element and its kind say what is open. -/
theorem Opens.congr (h : Opens start dom ((id, name) :: around) marks)
    (hsame : ∀ other < id, dom'.node other = dom.node other)
    (hid : (dom'.node id).kind = (dom.node id).kind) :
    Opens start dom' ((id, name) :: around) marks := by
  generalize hopened : (id, name) :: around = opened at h
  induction h generalizing id name around with
  | outermost hkind hstart =>
      obtain ⟨⟨rfl, rfl⟩, rfl⟩ := List.cons.inj hopened
      exact .outermost (hid.trans hkind) fun other hlt => (hsame other hlt).trans (hstart other hlt)
  | inside _ hkind hchildren hbefore ih =>
      obtain ⟨⟨rfl, rfl⟩, rfl⟩ := List.cons.inj hopened
      have hle := hbefore.le
      have houter := hsame _ hle
      exact .inside (ih (fun other hlt => hsame other (Nat.lt_trans hlt hle)) (by rw [houter]) rfl)
        (hid.trans hkind) (houter ▸ hchildren) (hbefore.congr fun other _ hlt => hsame other hlt)

/-! ### Operations -/

/-- A new node behind the children of another one. -/
theorem node_append_create {parent : Nat} (hparent : parent < dom.nodes.size) (kind : DomKind)
    (other : Nat) :
    ((dom.create kind).2.append parent dom.nodes.size).node other =
      if other = dom.nodes.size then ⟨kind, some parent, []⟩
      else if other = parent then
        { dom.node other with children := (dom.node other).children ++ [dom.nodes.size] }
      else dom.node other := by
  have hsize : (dom.create kind).2.nodes.size = dom.nodes.size + 1 := Array.size_push ..
  have hfree : (dom.create kind).2.parent? dom.nodes.size = none := by
    rw [parent?, node_create, if_pos rfl]
  rw [append, detach, hfree]
  simp only [node_modify, node_create, size_modify, hsize]
  by_cases hnew : other = dom.nodes.size
  · have hother : ¬other = parent := by omega
    simp [hnew, hparent.ne']
  · by_cases hput : other = parent
    · subst hput
      simp [hnew, Nat.lt_succ_of_lt hparent]
    · simp [hnew, hput]

theorem size_append_create {parent : Nat} (kind : DomKind) :
    ((dom.create kind).2.append parent dom.nodes.size).nodes.size = dom.nodes.size + 1 := by
  have hfree : (dom.create kind).2.parent? dom.nodes.size = none := by
    rw [parent?, node_create, if_pos rfl]
  rw [append, detach, hfree, size_modify, size_modify]
  exact Array.size_push ..

/-- A new node behind the children of the innermost element changes nothing before it. -/
theorem Opens.put {now : List Mark} (hopen : Opens start dom ((id, name) :: around) marks)
    (hnow : dom.Holds (id + 1) dom.nodes.size (dom.node id).children now) (kind : DomKind) :
    Opens start ((dom.create kind).2.append id dom.nodes.size) ((id, name) :: around) marks ∧
      ((dom.create kind).2.append id dom.nodes.size).Holds (id + 1) dom.nodes.size
        (dom.node id).children now ∧
      (((dom.create kind).2.append id dom.nodes.size).node id).children =
        (dom.node id).children ++ [dom.nodes.size] ∧
      ((dom.create kind).2.append id dom.nodes.size).node dom.nodes.size =
        ⟨kind, some id, []⟩ := by
  have hsize : id < dom.nodes.size := hnow.le
  have hnode := node_append_create hsize kind
  have hsame : ∀ other < dom.nodes.size, other ≠ id →
      ((dom.create kind).2.append id dom.nodes.size).node other = dom.node other :=
    fun other hlt hne => by rw [hnode, if_neg hlt.ne, if_neg hne]
  have hid := hnode id
  rw [if_neg hsize.ne, if_pos rfl] at hid
  have hnew := hnode dom.nodes.size
  rw [if_pos rfl] at hnew
  refine ⟨hopen.congr (fun other hlt => hsame other (hlt.trans hsize) hlt.ne) (by rw [hid]),
    hnow.congr fun other hge hlt => hsame other hlt (by omega), by rw [hid], hnew⟩

namespace HasRead

theorem kind_of_mem {opened : List (Nat × String)} (h : HasRead start dom opened marks)
    {entry : Nat × String} (hentry : entry ∈ opened) :
    (dom.node entry.1).kind = .element .html entry.2 [] none := by
  obtain ⟨hopen, -, -⟩ := h
  exact hopen.kind_of_mem hentry

theorem pairwise {opened : List (Nat × String)} (h : HasRead start dom opened marks) :
    opened.Pairwise fun inner outer => outer.1 < inner.1 := by
  obtain ⟨hopen, -, -⟩ := h
  exact hopen.pairwise

/-- The nodes before the outermost element are left as they are. -/
theorem node_of_lt (h : HasRead start dom [(id, name)] marks) {other : Nat} (hlt : other < id) :
    dom.node other = start.node other := by
  obtain ⟨hopen, -, -⟩ := h
  cases hopen with
  | outermost _ hstart => exact hstart other hlt

/-- **A start tag** opens an element behind what has been read. -/
theorem openElement (h : HasRead start dom ((id, name) :: around) marks) (inner : String) :
    HasRead start ((dom.create (.element .html inner [] none)).2.append id dom.nodes.size)
      ((dom.nodes.size, inner) :: (id, name) :: around) (marks ++ [.startTag inner ∅]) := by
  obtain ⟨hopen, rfl, hnow⟩ := h
  obtain ⟨hopen', hnow', hchildren, hnew⟩ := hopen.put hnow (.element .html inner [] none)
  have hkind : (((dom.create (.element .html inner [] none)).2.append id dom.nodes.size).node
      dom.nodes.size).kind = .element .html inner [] none := by rw [hnew]
  have hinside := hopen'.inside hkind hchildren hnow'
  have hread := HasRead.intro hinside (by rw [hnew]) (by rw [size_append_create]; exact .nil)
  rwa [List.append_nil, ← List.append_assoc] at hread

theorem createText (h : HasRead start dom ((id, name) :: around) marks) (chars : List Char) :
    HasRead start ((dom.create (.text chars)).2.append id dom.nodes.size) ((id, name) :: around)
      (marks ++ chars.map .char) := by
  obtain ⟨hopen, rfl, hnow⟩ := h
  obtain ⟨hopen', hnow', hchildren, hnew⟩ := hopen.put hnow (.text chars)
  have htext : Holds ((dom.create (.text chars)).2.append id dom.nodes.size) dom.nodes.size
      (dom.nodes.size + 1) [dom.nodes.size] (chars.map .char ++ []) :=
    .text (by rw [hnew]) .nil
  have hread := HasRead.intro hopen' hchildren
    (by rw [size_append_create]; exact hnow'.append htext)
  rwa [List.append_nil, ← List.append_assoc] at hread

theorem extendText {last : Nat} (h : HasRead start dom ((id, name) :: around) marks)
    (hlast : (dom.node id).children.getLast? = some last) (htext : dom.isText last = true)
    (chars : List Char) :
    HasRead start (dom.extendText last chars) ((id, name) :: around)
      (marks ++ chars.map .char) := by
  obtain ⟨hopen, rfl, hnow⟩ := h
  obtain ⟨before, own, earlier, hids, rfl, hkind, hstop, hbefore⟩ :=
    hnow.exists_of_last_text hlast htext
  have hle := hbefore.le
  have hnode : ∀ other, (dom.extendText last chars).node other =
      if other = last then { dom.node last with kind := .text (own ++ chars) }
      else dom.node other := by
    intro other
    rw [Dom.extendText, node_modify]
    by_cases heq : other = last
    · subst heq
      rw [if_pos ⟨rfl, by omega⟩, if_pos rfl, hkind]
    · rw [if_neg fun h => heq h.1, if_neg heq]
  have hsame : ∀ other < last, (dom.extendText last chars).node other = dom.node other :=
    fun other hlt => by rw [hnode, if_neg hlt.ne]
  have hend : Holds (dom.extendText last chars) last (last + 1) [last]
      ((own ++ chars).map .char ++ []) := .text (by rw [hnode, if_pos rfl]) .nil
  have hread := HasRead.intro
    (hopen.congr (fun other hlt => hsame other (hlt.trans hle)) (by rw [hsame id hle]))
    ((congrArg DomNode.children (hsame id hle)).trans hids) (by
      rw [Dom.extendText, size_modify, hstop]
      exact (hbefore.congr fun other _ hlt => hsame other hlt).append hend)
  simpa [List.map_append, List.append_assoc] using hread

/-- **Characters** go behind what has been read, into a text if it ends with one. -/
theorem appendText (h : HasRead start dom ((id, name) :: around) marks) (chars : List Char) :
    HasRead start (dom.appendText id chars) ((id, name) :: around)
      (marks ++ chars.map .char) := by
  unfold Dom.appendText
  cases hlast : (dom.node id).children.getLast? with
  | none => exact h.createText chars
  | some last =>
      by_cases htext : dom.isText last = true
      · simp only [if_pos htext]
        exact h.extendText hlast htext chars
      · simp only [if_neg htext]
        exact h.createText chars

/-- **An end tag** closes the innermost element. -/
theorem closeElement {outer : Nat} {outerName : String}
    (h : HasRead start dom ((id, name) :: (outer, outerName) :: around) marks) :
    HasRead start dom ((outer, outerName) :: around) (marks ++ [.endTag name]) := by
  obtain ⟨hopen, rfl, hnow⟩ := h
  cases hopen with
  | inside hopen hkind hchildren hbefore =>
      have hread := HasRead.intro hopen hchildren
        (hbefore.append (.element hkind rfl hnow .nil))
      simpa [List.append_assoc] using hread

/-- When all elements are closed, the finished tree spells what has been read. -/
theorem spells (h : HasRead start dom [(id, name)] marks) :
    Markup.Spells (dom.childrenToMarkup id) marks := by
  obtain ⟨hopen, rfl, hnow⟩ := h
  cases hopen with
  | outermost => exact hnow.spells (by omega)

end HasRead

end Dom

end PostPress.Html
