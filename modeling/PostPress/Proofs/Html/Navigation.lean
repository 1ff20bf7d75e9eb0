import PostPress.Html.Navigation
import PostPress.Proofs.Html.NormalForm

/-!
# PostPress.Proofs.Html.Navigation

**A navigation block shows its outline, and nothing else.** Links, lists and items can be told
apart in the markup whatever texts and ids the headings have, so the block gives back what it
was made of: the nesting, and for each entry its target, its text and whether it is the active
one (`tocToHtml_eq_iff`).

* `ShownAlike` — two outlines that show the same links at the same places;
* `Html.writeTocLink_cut` — a link ends where it was written to end;
* `Html.writeTocItems_cut` — so does a list of items, by induction on the outline.
-/

namespace PostPress

open Html

/-- Two outlines of the same shape, seen with the headings `x` and `y` active: their entries
have the same targets and texts, and the same ones are marked. -/
inductive ShownAlike (x y : Option String) : List TocEntry → List TocEntry → Prop
  | nil : ShownAlike x y [] []
  | cons {entry other : TocEntry} {rest others : List TocEntry}
      (target : entry.href = other.href) (text : entry.text = other.text)
      (active : x = some entry.id ↔ y = some other.id)
      (below : ShownAlike x y entry.children other.children)
      (after : ShownAlike x y rest others) : ShownAlike x y (entry :: rest) (other :: others)

variable {x y : Option String}

theorem ShownAlike.isEmpty_eq {entries others : List TocEntry} (h : ShownAlike x y entries others) :
    entries.isEmpty = others.isEmpty := by
  cases h <;> rfl

namespace Html

/-! ### Links -/

/-- A text does not end early: no character is escaped to an angle. -/
theorem isCode_escapeTextChar :
    IsCode escapeTextChar (fun _ => True) (fun _ => True) (StartsWith '<') where
  cut _ _ _ _ h := escapeTextChar_cut h
  next _ _ := trivial
  stop _ := trivial
  ends {a r} _ hends := by
    obtain ⟨rest, h⟩ := hends
    exact escapeTextChar_ne_angle a r rest h

theorem escapeText_append_inj {a b : String} {r s : List Char}
    (h : escapeText a ++ '<' :: r = escapeText b ++ '<' :: s) : a = b ∧ r = s := by
  obtain ⟨htext, hrest⟩ := isCode_escapeTextChar.flatMap_inj (fun _ _ => trivial)
    (fun _ _ => trivial) ⟨r, rfl⟩ ⟨s, rfl⟩ h
  exact ⟨String.toList_inj.1 htext, (List.cons.inj hrest).2⟩

/-- The mark of the active heading stands outside of the quotes, before the end of the tag. -/
theorem activeMark_cut {id other : String} {r s : List Char}
    (h : activeMark x id ++ '>' :: r = activeMark y other ++ '>' :: s) :
    (x = some id ↔ y = some other) ∧ r = s := by
  unfold activeMark at h
  split at h <;> split at h
  · next hx hy => exact ⟨iff_of_true hx hy, (List.cons.inj (List.append_cancel_left h)).2⟩
  · exact absurd h (by simp)
  · exact absurd h (by simp)
  · next hx hy => exact ⟨iff_of_false hx hy, (List.cons.inj h).2⟩

theorem writeTocLink_append (active : Option String) (entry : TocEntry) (r : List Char) :
    writeTocLink active entry ++ r = "<a href=\"".toList ++ (escapeAttr entry.href ++ '"' ::
      (activeMark active entry.id ++ '>' :: (escapeText entry.text ++ '<' ::
        ("/a>".toList ++ r)))) := by
  have hend : "</a>".toList = '<' :: "/a>".toList := by simp
  unfold writeTocLink
  simp only [hend, List.append_assoc, List.cons_append]

/-- **A link shows its target, its text and whether it is active**, whatever follows it. -/
theorem writeTocLink_cut {entry other : TocEntry} {r s : List Char}
    (h : writeTocLink x entry ++ r = writeTocLink y other ++ s) :
    (entry.href = other.href ∧ entry.text = other.text ∧ (x = some entry.id ↔ y = some other.id)) ∧
      r = s := by
  rw [writeTocLink_append, writeTocLink_append] at h
  obtain ⟨htarget, htag⟩ := escapeAttr_append_inj (List.append_cancel_left h)
  obtain ⟨hactive, hcontent⟩ := activeMark_cut htag
  obtain ⟨htext, hend⟩ := escapeText_append_inj hcontent
  exact ⟨⟨htarget, htext, hactive⟩, List.append_cancel_left hend⟩

/-! ### Lists -/

/-- The list of the entries below another one, with the end of the item that holds it. -/
def writeTocBelow (active : Option String) (children : List TocEntry) : List Char :=
  (if children.isEmpty then []
   else "\n<ul>\n".toList ++ writeTocItems active children ++ "</ul>\n".toList) ++
    "</li>\n".toList

theorem writeTocItem_eq (active : Option String) (entry : TocEntry) :
    writeTocItem active entry =
      "<li>".toList ++ (writeTocLink active entry ++ writeTocBelow active entry.children) := by
  obtain ⟨text, depth, id, children⟩ := entry
  unfold writeTocItem writeTocBelow writeTocLink TocEntry.href
  simp only [List.append_assoc, List.cons_append]

theorem writeTocBelow_nil (active : Option String) :
    writeTocBelow active [] = "</li>\n".toList := rfl

theorem writeTocBelow_cons (active : Option String) (entry : TocEntry) (rest : List TocEntry)
    (r : List Char) : writeTocBelow active (entry :: rest) ++ r =
      "\n<ul>\n".toList ++ (writeTocItems active (entry :: rest) ++
        ("</ul>\n".toList ++ ("</li>\n".toList ++ r))) := by
  unfold writeTocBelow
  simp only [List.isEmpty_cons, Bool.false_eq_true, if_false, List.append_assoc]

/-- An item without a list ends where one with a list goes on in a new line. -/
theorem writeTocBelow_nil_ne (active : Option String) (entry : TocEntry) (rest : List TocEntry)
    (r s : List Char) : writeTocBelow x [] ++ r ≠ writeTocBelow active (entry :: rest) ++ s := by
  rw [writeTocBelow_nil, writeTocBelow_cons]
  simp

/-- An item begins otherwise than the end of its list. -/
theorem writeTocItem_ne_end (active : Option String) (entry : TocEntry) (r s : List Char) :
    writeTocItem active entry ++ r ≠ "</ul>\n".toList ++ s := by
  rw [writeTocItem_eq]
  simp

mutual

theorem writeTocBelow_cut : ∀ {children others : List TocEntry} {r s : List Char},
    writeTocBelow x children ++ r = writeTocBelow y others ++ s →
      ShownAlike x y children others ∧ r = s
  | [], [], _, _, h => ⟨.nil, List.append_cancel_left h⟩
  | [], other :: others, r, s, h => absurd h (writeTocBelow_nil_ne y other others r s)
  | entry :: rest, [], r, s, h => absurd h.symm (writeTocBelow_nil_ne x entry rest s r)
  | entry :: rest, other :: others, r, s, h => by
      rw [writeTocBelow_cons, writeTocBelow_cons] at h
      obtain ⟨halike, hrest⟩ := writeTocItems_cut (List.append_cancel_left h)
      exact ⟨halike, List.append_cancel_left hrest⟩

/-- **A list of items shows its entries**, up to the end of the list. By induction on the
outline: each item ends where the list of the entries below it does. -/
theorem writeTocItems_cut : ∀ {entries others : List TocEntry} {r s : List Char},
    writeTocItems x entries ++ ("</ul>\n".toList ++ r) =
        writeTocItems y others ++ ("</ul>\n".toList ++ s) →
      ShownAlike x y entries others ∧ r = s
  | [], [], r, s, h => ⟨.nil, List.append_cancel_left h⟩
  | [], other :: others, r, s, h => by
      rw [writeTocItems, writeTocItems, List.nil_append, List.append_assoc] at h
      exact absurd h.symm (writeTocItem_ne_end y other _ _)
  | entry :: rest, [], r, s, h => by
      rw [writeTocItems, writeTocItems, List.nil_append, List.append_assoc] at h
      exact absurd h (writeTocItem_ne_end x entry _ _)
  | ⟨text, depth, id, children⟩ :: rest, other :: others, r, s, h => by
      rw [writeTocItems, writeTocItems, writeTocItem_eq, writeTocItem_eq] at h
      simp only [List.append_assoc] at h
      obtain ⟨⟨htarget, htext, hactive⟩, hbelow⟩ :=
        writeTocLink_cut (List.append_cancel_left h)
      obtain ⟨hchildren, hafter⟩ := writeTocBelow_cut hbelow
      obtain ⟨hrest, hend⟩ := writeTocItems_cut hafter
      exact ⟨.cons htarget htext hactive hchildren hrest, hend⟩

end

theorem writeTocItems_of_shownAlike {entries others : List TocEntry}
    (h : ShownAlike x y entries others) : writeTocItems x entries = writeTocItems y others := by
  induction h with
  | nil => rfl
  | @cons entry other rest others htarget htext hactive hchildren _ hbelow hafter =>
      have hmark : activeMark x entry.id = activeMark y other.id := by
        simp only [activeMark, hactive]
      have hlink : writeTocLink x entry = writeTocLink y other := by
        unfold writeTocLink
        rw [htarget, htext, hmark]
      have hlist : writeTocBelow x entry.children = writeTocBelow y other.children := by
        unfold writeTocBelow
        rw [hbelow, hchildren.isEmpty_eq]
      rw [writeTocItems, writeTocItems, writeTocItem_eq, writeTocItem_eq, hlink, hlist, hafter]

end Html

theorem toList_tocToHtml (entries : List TocEntry) (active : Option String) :
    (tocToHtml entries active).toList = "<nav class=\"toc\">\n".toList ++
      ((if entries.isEmpty then []
        else "<ul>\n".toList ++ writeTocItems active entries ++ "</ul>\n".toList) ++
        "</nav>\n".toList) := by
  unfold tocToHtml
  rw [String.toList_ofList, List.append_assoc]

/-- **A navigation block shows its outline, and nothing else**: two outlines have the same block
exactly if they have the same shape and, entry by entry, the same target, the same text and the
same entries marked as active, whatever the texts and ids of their headings are. -/
theorem tocToHtml_eq_iff (entries others : List TocEntry) (x y : Option String) :
    tocToHtml entries x = tocToHtml others y ↔ ShownAlike x y entries others := by
  rw [← String.toList_inj, toList_tocToHtml, toList_tocToHtml]
  constructor
  · intro h
    have hblock := List.append_cancel_left h
    cases entries with
    | nil =>
        cases others with
        | nil => exact .nil
        | cons other others =>
            -- The end of the block and the beginning of a list differ in their second character.
            exact absurd hblock (by simp)
    | cons entry rest =>
        cases others with
        | nil => exact absurd hblock (by simp)
        | cons other others =>
            simp only [List.isEmpty_cons, Bool.false_eq_true, if_false, List.append_assoc] at hblock
            exact (writeTocItems_cut (List.append_cancel_left hblock)).1
  · intro h
    rw [writeTocItems_of_shownAlike h, h.isEmpty_eq]

end PostPress
