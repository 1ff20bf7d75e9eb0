import PostPress.Proofs.Html.Whole
import PostPress.Proofs.Sanitize.Attribute

/-!
# PostPress.Proofs.Sanitize.Tag

**The elements that a sanitizer lets through.** Cleaned markup has only allowed elements,
but it is read once more, and reading supplies the parts of a table that are left out.

* `wellNamed_readFragment` — the elements of markup that is read are read again when they
  are written;
* `CleanRules.plain_cleanList` — without SVG and MathML, cleaned markup is all HTML;
* `Schema.tags_sanitize` — every element of a sanitized tree is allowed, or supplied;
* `Schema.allowsTag_of_isClosed` — a closed allow-list lets only its own tags through, and
  the default one is closed.
-/

namespace PostPress

open Html Sanitize

/-! ### The first reading -/

/-- An element of HTML with names that are read again when they are written. -/
def Html.IsRereadable (space : Space) (name : String) (attrs : List Attribute) : Prop :=
  space = .html → isTagName name.toList = true ∧ tagName name.toList = name ∧
    ∀ attr ∈ attrs, IsReadAttribute attr

namespace Html

theorem isRereadable_of_name {name : String}
    (h : isTagName name.toList = true ∧ tagName name.toList = name) (space : Space) :
    IsRereadable space name [] :=
  fun _ => ⟨h.1, h.2, fun _ hattr => absurd hattr List.not_mem_nil⟩

theorem born_of_wellNamed {token : Token} (h : token.WellNamed) : token.Born IsRereadable := by
  have hsupplied : ∀ name ∈ ["tbody", "tr", "colgroup", "p", "br"],
      isTagName name.toList = true ∧ tagName name.toList = name := by decide
  unfold Token.Born
  split
  · next name attrs selfClosing =>
    obtain ⟨hname, hsame, hattrs⟩ := h name attrs selfClosing rfl
    refine ⟨fun _ => ⟨hname, hsame, hattrs⟩, fun _ _ => ⟨by decide, by decide, hattrs⟩,
      fun _ => isRereadable_of_name (hsupplied _ (by decide)) _,
      fun _ => isRereadable_of_name (hsupplied _ (by decide)) _,
      fun _ => isRereadable_of_name (hsupplied _ (by decide)) _,
      fun space hspace _ hhtml => absurd hhtml hspace, fun _ space other own hown added hadded => ?_⟩
    intro hhtml
    obtain ⟨hother, hsame', hown⟩ := hown hhtml
    refine ⟨hother, hsame', fun attr hattr => ?_⟩
    rcases List.mem_append.1 hattr with hold | hnew
    · exact hown attr hold
    · exact hattrs attr (hadded hnew)
  · exact isRereadable_of_name (hsupplied _ (by decide)) _
  · exact isRereadable_of_name (hsupplied _ (by decide)) _
  · trivial

/-- **What is read is read again** when it is written: names are names of tags. -/
theorem isRereadable_readFragment (text : List Char) :
    ∀ element ∈ Markup.elementsList (readFragment text),
      IsRereadable element.space element.name element.attrs := by
  have hs : Builder.Supplied IsRereadable := by
    have hnames : ∀ name ∈ Builder.suppliedElements,
        isTagName name.toList = true ∧ tagName name.toList = name := by decide
    exact fun name hname => isRereadable_of_name (hnames name hname) _
  have hfeeds : Builder.Feeds IsRereadable ('\r' ∉ ·) := by
    intro mode allowCharacterData text _ hreturn
    obtain ⟨htoken, hrest⟩ := reads_nextToken mode allowCharacterData hreturn
    exact ⟨fun token h => born_of_wellNamed (htoken token h),
      fun hmem => hreturn (hrest.subset hmem)⟩
  exact elements_readFragment hs hfeeds (notMem_return_normalizeNewlines _)

end Html

/-! ### Cleaning -/

namespace Sanitize.CleanRules

variable (rules : CleanRules)

/-- Whether an element is left of another one: of HTML, with the same name and no other
attributes. -/
def LeftOf (element source : Element) : Prop :=
  element.space = .html ∧ isHtmlName element.name = true ∧ source.space = .html ∧
    source.name = element.name ∧ element.attrs ⊆ source.attrs

theorem space_of_fits {space : Space} {parent name : String}
    (h : fits (.html, parent) (space, name) = true) (hsvg : name ≠ "svg") (hmath : name ≠ "math") :
    space = .html ∧ isHtmlName name = true := by
  cases space with
  | html => exact ⟨rfl, h⟩
  | svg => exact absurd (eq_of_beq h) hsvg
  | mathml => exact absurd (eq_of_beq h) hmath

mutual

theorem leftOf_cleanNode (hsvg : rules.tags.contains "svg" = false)
    (hmath : rules.tags.contains "math" = false) : ∀ (node : Markup) (parent : String),
    ∀ element ∈ Markup.elementsList (rules.cleanNode (.html, parent) node),
      ∃ source ∈ node.elements, LeftOf element source
  | .comment, _ => fun _ h => absurd h List.not_mem_nil
  | .text _, _ => fun _ h => absurd h List.not_mem_nil
  | .element space name attrs children, parent => by
      intro element helement
      rw [cleanNode_element] at helement
      rw [Markup.elements]
      split at helement
      · exact absurd helement List.not_mem_nil
      · next hremoves =>
        split at helement
        · next htag =>
          have hfits : fits (.html, parent) (space, name) = true := by
            simp only [removes, Bool.or_eq_true, Bool.not_eq_true', not_or] at hremoves
            exact eq_true_of_ne_false hremoves.2
          have hne : ∀ tag, rules.tags.contains tag = false → name ≠ tag := by
            rintro tag hcontains rfl
            exact Bool.false_ne_true (hcontains.symm.trans htag)
          obtain ⟨rfl, hname⟩ := space_of_fits hfits (hne _ hsvg) (hne _ hmath)
          rw [Markup.elementsList, Markup.elementsList, List.append_nil, Markup.elements,
            List.mem_cons] at helement
          rcases helement with rfl | hchild
          · exact ⟨_, List.mem_cons_self, rfl, hname, rfl, rfl, List.filter_sublist.subset⟩
          · obtain ⟨source, hsource, hleft⟩ := leftOf_cleanList hsvg hmath children name element hchild
            exact ⟨source, List.mem_cons_of_mem _ hsource, hleft⟩
        · obtain ⟨source, hsource, hleft⟩ := leftOf_cleanList hsvg hmath children parent element helement
          exact ⟨source, List.mem_cons_of_mem _ hsource, hleft⟩

/-- **Without SVG and MathML, cleaned markup is all HTML**, and all of it is left of what was
there. -/
theorem leftOf_cleanList (hsvg : rules.tags.contains "svg" = false)
    (hmath : rules.tags.contains "math" = false) : ∀ (nodes : List Markup) (parent : String),
    ∀ element ∈ Markup.elementsList (rules.cleanList (.html, parent) nodes),
      ∃ source ∈ Markup.elementsList nodes, LeftOf element source
  | [], _ => fun _ h => absurd h List.not_mem_nil
  | node :: rest, parent => by
      intro element helement
      rw [cleanList, Markup.elementsList_append, List.mem_append] at helement
      rw [Markup.elementsList]
      rcases helement with h | h
      · obtain ⟨source, hsource, hleft⟩ := leftOf_cleanNode hsvg hmath node parent element h
        exact ⟨source, List.mem_append_left _ hsource, hleft⟩
      · obtain ⟨source, hsource, hleft⟩ := leftOf_cleanList hsvg hmath rest parent element h
        exact ⟨source, List.mem_append_right _ hsource, hleft⟩

end

end Sanitize.CleanRules

/-! ### The second reading -/

/-- The elements that are supplied around elements of a table. -/
def Implies (Allowed : String → Prop) (tag : String) : Prop :=
  (tag = "tbody" ∧ (Allowed "tr" ∨ Allowed "td" ∨ Allowed "th")) ∨
    (tag = "tr" ∧ (Allowed "td" ∨ Allowed "th")) ∨ (tag = "colgroup" ∧ Allowed "col")

/-- What holds of every element of a document that is read of tidy markup. -/
def IsSupplied (Allowed : String → Prop) (space : Space) (name : String)
    (_attrs : List Attribute) : Prop :=
  space = .html ∧ (Allowed name ∨ Implies Allowed name ∨ name ∈ Builder.suppliedElements)

section

variable {Allowed : String → Prop}

theorem born_of_named (himage : ¬ Allowed "image")
    (hseparate : ∀ tag ∈ separateTags, ¬ Allowed tag) {token : Token}
    (h : token.Named Allowed) : token.Born (IsSupplied Allowed) := by
  unfold Token.Born
  split
  · next name attrs selfClosing =>
    have hname : Allowed name := h name (.inr ⟨attrs, selfClosing, rfl⟩)
    refine ⟨⟨rfl, .inl hname⟩, ?_, ?_, ?_, ?_, ?_, ?_⟩
    · rintro rfl
      exact absurd hname himage
    · rintro (rfl | rfl | rfl)
      · exact ⟨rfl, .inr (.inl (.inl ⟨rfl, .inl hname⟩))⟩
      · exact ⟨rfl, .inr (.inl (.inl ⟨rfl, .inr (.inl hname)⟩))⟩
      · exact ⟨rfl, .inr (.inl (.inl ⟨rfl, .inr (.inr hname)⟩))⟩
    · rintro (rfl | rfl)
      · exact ⟨rfl, .inr (.inl (.inr (.inl ⟨rfl, .inl hname⟩)))⟩
      · exact ⟨rfl, .inr (.inl (.inr (.inl ⟨rfl, .inr hname⟩)))⟩
    · rintro rfl
      exact ⟨rfl, .inr (.inl (.inr (.inr ⟨rfl, hname⟩)))⟩
    · rintro space hspace (rfl | rfl | ⟨other, own, hother⟩)
      · exact absurd hname (hseparate "svg" (by decide))
      · exact absurd hname (hseparate "math" (by decide))
      · exact absurd hother.1 hspace
    · exact fun _ space other own hown added _ => hown
  · exact ⟨rfl, .inl (h "p" (.inl rfl))⟩
  · exact ⟨rfl, .inl (h "br" (.inl rfl))⟩
  · trivial

/-- Where no text is read apart, tags are cut out of markup all the way. -/
theorem eq_data_of_readsTags (hseparate : ∀ tag ∈ separateTags, ¬ Allowed tag)
    {mode : TextMode} (h : Builder.ReadsTags (IsSupplied Allowed) mode) : mode = .data := by
  have hother : ∀ tag ∈ Builder.textElements,
      tag ∉ ["tbody", "tr", "colgroup"] ++ Builder.suppliedElements := by decide
  rcases h with hdata | ⟨name, hname, _, -, hallowed | himplied | hsupplied⟩
  · exact hdata
  · exact absurd hallowed (hseparate name (List.mem_cons_of_mem _ (List.mem_cons_of_mem _ hname)))
  · refine absurd (List.mem_append_left _ ?_) (hother name hname)
    rcases himplied with ⟨rfl, -⟩ | ⟨rfl, -⟩ | ⟨rfl, -⟩ <;> decide
  · exact absurd (List.mem_append_right _ hsupplied) (hother name hname)

theorem feeds_tidy (himage : ¬ Allowed "image")
    (hseparate : ∀ tag ∈ separateTags, ¬ Allowed tag) :
    Builder.Feeds (IsSupplied Allowed) (Tidy Allowed) := by
  intro mode allowCharacterData text hmode htidy
  rw [eq_data_of_readsTags hseparate hmode]
  obtain ⟨htoken, hrest⟩ := htidy.next allowCharacterData
  exact ⟨fun token h => born_of_named himage hseparate (htoken token h), hrest⟩

/-- Without a mark at its beginning, markup stays tidy. -/
theorem tidy_readable {text : List Char} (h : Tidy Allowed text) :
    Tidy Allowed (Builder.readable text) := by
  unfold Builder.readable
  split
  · exact (h.tail (by decide)).normalizeNewlines
  · exact h.normalizeNewlines

/-- **A document of tidy markup** has only elements of its tags, and supplied ones. -/
theorem isSupplied_readDocument (himage : ¬ Allowed "image")
    (hseparate : ∀ tag ∈ separateTags, ¬ Allowed tag) {text : List Char}
    (h : Tidy Allowed text) :
    ∀ element ∈ Markup.elementsList (readDocument text),
      IsSupplied Allowed element.space element.name element.attrs :=
  elements_readDocument (fun _ hname => ⟨rfl, .inr (.inr hname)⟩)
    (feeds_tidy himage hseparate) (tidy_readable h)

/-- Where no tag asks for another way of reading, the elements that every document has are not
in the body. -/
theorem notMem_supplied_of_tidy (himage : ¬ Allowed "image")
    (hunusual : ∀ tag ∈ unusualTags, ¬ Allowed tag) {text : List Char} (h : Tidy Allowed text) :
    ∀ element ∈ Markup.elementsList (readDocument text),
      element.name ∉ Builder.suppliedElements := by
  have hseparate : ∀ tag ∈ separateTags, ¬ Allowed tag := fun tag htag =>
    hunusual tag (List.mem_cons_of_mem _ (List.mem_cons_of_mem _ htag))
  have hordinary : ∀ textMode allowed text,
      Builder.ReadsTags (IsSupplied Allowed) textMode → Tidy Allowed text →
      ∀ token, (nextToken textMode allowed text).1 = some token → token.Ordinary := by
    intro textMode allowed text hmode htidy token htoken name hname hmem
    rw [eq_data_of_readsTags hseparate hmode] at htoken
    exact hunusual name hmem ((htidy.next allowed).1 token htoken name hname)
  exact notMem_supplied_readDocument (fun _ hname => ⟨rfl, .inr (.inr hname)⟩)
    (fun _ _ _ h => h.1) (feeds_tidy himage hseparate) hordinary (tidy_readable h)

end

/-! ### The whole way -/

mutual

theorem isPlainList_nodeOfMarkup : ∀ node : Markup, Node.isPlainList (nodeOfMarkup node) = true
  | .comment | .text _ => rfl
  | .element _ name attrs children => by
      rw [nodeOfMarkup, Node.isPlainList, Node.isPlain, isPlainList_nodesOfMarkup children]
      rfl

theorem isPlainList_nodesOfMarkup : ∀ nodes : List Markup,
    Node.isPlainList (nodesOfMarkup nodes) = true
  | [] => rfl
  | node :: rest => by
      rw [nodesOfMarkup, Node.isPlainList_append, isPlainList_nodeOfMarkup node,
        isPlainList_nodesOfMarkup rest]
      rfl

end

namespace Schema

/-- The tags of the elements that are left of markup. -/
def Leaves (schema : Schema) (tag : String) : Prop :=
  schema.allowsTag tag = true ∧ isHtmlName tag = true

/-- The cleaned markup of an allow-list without separate tags is tidy. -/
theorem tidy_cleanedMarkup {schema : Schema} {rules : CleanRules}
    (hrules : schema.cleanRules = .ok rules)
    (hseparate : ∀ tag ∈ separateTags, schema.allowsTag tag = false) (tree : Node) :
    Tidy schema.Leaves (Markup.writeList false (schema.cleaned .standard rules tree)) := by
  have htags : rules.tags = schema.tagNames := by rw [eq_of_cleanRules hrules]
  have hnot : ∀ tag ∈ separateTags, rules.tags.contains tag = false := by
    rw [htags]
    exact hseparate
  refine Markup.tidy_writeList _ fun element helement => ?_
  obtain ⟨hkept, -⟩ := rules.kept_cleanList _ _ element helement
  obtain ⟨source, hsource, -, hhtml, hspace, hname, hattrs⟩ :=
    rules.leftOf_cleanList (hnot "svg" (by decide)) (hnot "math" (by decide)) _ _ element helement
  obtain ⟨htag, hsame, hread⟩ := isRereadable_readFragment _ source hsource hspace
  rw [hname] at htag hsame
  have hallowed : schema.allowsTag element.name = true := by rwa [allowsTag, ← htags]
  refine ⟨htag, hsame, fun attr hattr => hread attr (hattrs hattr), ⟨hallowed, hhtml⟩, ?_⟩
  -- Elements that are written with their text as it is are among the separate ones.
  have hraw : ∀ tag ∈ rawElements, tag ∈ separateTags := by decide
  refine eq_false_of_ne_true fun hcontains => ?_
  have hcleaned := hnot element.name (hraw _ (List.contains_iff_mem.1 hcontains))
  exact Bool.false_ne_true (hcleaned.symm.trans hkept)

theorem implies_of_leaves {schema : Schema} {tag : String} (h : Implies schema.Leaves tag) :
    Implies (schema.allowsTag · = true) tag := by
  rcases h with ⟨htag, hparts⟩ | ⟨htag, hparts⟩ | ⟨htag, hparts⟩
  · exact .inl ⟨htag, hparts.imp And.left (Or.imp And.left And.left)⟩
  · exact .inr (.inl ⟨htag, hparts.imp And.left And.left⟩)
  · exact .inr (.inr ⟨htag, hparts.1⟩)

theorem standard_document : HtmlReader.standard.document = readDocument := rfl

/-- The elements of a sanitized tree: allowed ones, supplied ones, and those that every
document has where templates or frames are allowed. -/
theorem allowed_or_supplied {schema : Schema} {rules : CleanRules}
    (hrules : schema.cleanRules = .ok rules)
    (hseparate : ∀ tag ∈ separateTags, schema.allowsTag tag = false) (tree : Node) :
    ∀ element ∈ Node.elementsList
        (nodesOfMarkup (readDocument (Markup.writeList false (schema.cleaned .standard rules tree)))),
      schema.allowsTag element.1 = true ∨ Implies (schema.allowsTag · = true) element.1 ∨
        (element.1 ∈ Builder.suppliedElements ∧
          (schema.allowsTag "template" = true ∨ schema.allowsTag "frameset" = true)) := by
  intro element helement
  have htidy := tidy_cleanedMarkup hrules hseparate tree
  have himage : ¬ schema.Leaves "image" := fun h => absurd h.2 (by decide +kernel)
  have hnot : ∀ tag ∈ separateTags, ¬ schema.Leaves tag := fun tag htag h =>
    Bool.false_ne_true ((hseparate tag htag).symm.trans h.1)
  rw [elementsList_nodesOfMarkup] at helement
  obtain ⟨read, hread, rfl⟩ := List.mem_map.1 helement
  obtain ⟨-, hallowed | himplied | hsupplied⟩ :=
    isSupplied_readDocument himage hnot htidy read hread
  · exact .inl hallowed.1
  · exact .inr (.inl (implies_of_leaves himplied))
  · refine .inr (.inr ⟨hsupplied, ?_⟩)
    by_contra hneither
    rw [not_or] at hneither
    refine notMem_supplied_of_tidy himage (fun tag htag hleaves => ?_) htidy read hread hsupplied
    rcases List.mem_cons.1 htag with rfl | htag
    · exact hneither.1 hleaves.1
    · rcases List.mem_cons.1 htag with rfl | htag
      · exact hneither.2 hleaves.1
      · exact hnot tag htag hleaves

/-- Only tables, rows and cells. -/
def tableCells : Schema := Schema.empty.extend ⟨["table", "tr", "td"], ∅, ∅⟩

/-- A table of one cell, with a row but without a group of rows. -/
def exampleCell : Node :=
  .element "table" ∅ [.element "tr" ∅ [.element "td" ∅ [.text "x"]]]

/-- A table of one cell is left with its group of rows. -/
def exampleRows : Node :=
  .element "table" ∅ [.element "tbody" ∅ [.element "tr" ∅ [.element "td" ∅ [.text "x"]]]]

/-- An allow-list that has every tag that is supplied around its elements. -/
def IsClosed (schema : Schema) : Prop :=
  ∀ tag, Implies (schema.allowsTag · = true) tag → schema.allowsTag tag = true

/-- **A closed allow-list** without tags that ask for another way of reading lets only its own
tags through. -/
theorem allowsTag_of_isClosed {schema : Schema} {tree result : Node} (hclosed : schema.IsClosed)
    (hunusual : ∀ tag ∈ unusualTags, schema.allowsTag tag = false)
    (hresult : schema.sanitize tree = .ok result) :
    ∀ element ∈ result.elements, schema.allowsTag element.1 = true := by
  obtain ⟨rules, hrules, rfl⟩ := exists_of_sanitizeWith hresult
  have hseparate : ∀ tag ∈ separateTags, schema.allowsTag tag = false := fun tag htag =>
    hunusual tag (List.mem_cons_of_mem _ (List.mem_cons_of_mem _ htag))
  intro element helement
  rw [Node.elements, standard_document] at helement
  rcases allowed_or_supplied hrules hseparate tree element helement with
    hallowed | himplied | ⟨-, htemplate | hframes⟩
  · exact hallowed
  · exact hclosed element.1 himplied
  · exact absurd (hunusual "template" (by decide)) (by simp [htemplate])
  · exact absurd (hunusual "frameset" (by decide)) (by simp [hframes])

/-- The default allow-list is such a one. -/
theorem isClosed_default :
    Schema.default.IsClosed ∧ ∀ tag ∈ unusualTags, Schema.default.allowsTag tag = false := by
  have hdecided : (Schema.default.allowsTag "tbody" = true ∧ Schema.default.allowsTag "tr" = true ∧
      Schema.default.allowsTag "col" = false) ∧
        ∀ tag ∈ unusualTags, Schema.default.allowsTag tag = false := by decide +kernel
  obtain ⟨⟨hrows, hrow, hcolumn⟩, hunusual⟩ := hdecided
  refine ⟨?_, hunusual⟩
  rintro tag (⟨rfl, -⟩ | ⟨rfl, -⟩ | ⟨rfl, hallowed⟩)
  · exact hrows
  · exact hrow
  · exact absurd hallowed (Bool.eq_false_iff.1 hcolumn)

end Schema

end PostPress
