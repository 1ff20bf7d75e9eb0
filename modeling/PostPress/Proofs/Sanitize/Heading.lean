import PostPress.Proofs.Html.Heading
import PostPress.Proofs.Tree.Heading
import PostPress.Sanitize.Sanitizer

/-!
# PostPress.Proofs.Sanitize.Heading

**Headings that a sanitizer leaves.** A heading is lost below a node that goes
with its content (`Schema.drops`), and its id if the allow-list does not let that
through; otherwise nothing happens to either.

* `CleanRules.reaches` — whether cleaning comes down to a place in markup;
* `headings_cleanList` — cleaning, by the marks of the headings;
* `headings_unwrapForeign` — the same by the nodes that the markup was written
  from;
* `attr?_id_sanitizeWith` — the whole way, for readers that get headings right.
-/

namespace PostPress

open Html Sanitize

namespace Sanitize.CleanRules

variable (rules : CleanRules)

/-! ### Cleaning -/

/-- Whether an element goes with its content. -/
def removes (parent element : Space × String) : Bool :=
  rules.withContent.contains element.2 || !fits parent element

theorem cleanNode_element (parent : Space × String) (space : Space) (name : String)
    (attrs : List Attribute) (children : List Markup) :
    rules.cleanNode parent (.element space name attrs children) =
      if rules.removes parent (space, name) then []
      else if rules.tags.contains name then
        [.element space name (attrs.filter (rules.keepsAttribute name))
          (rules.cleanList (space, name) children)]
      else rules.cleanList parent children := by
  rw [cleanNode, removes]

/-- Whether cleaning comes through elements, the outermost first. -/
def reaches : Space × String → List (Space × String) → Bool
  | _, [] => true
  | parent, element :: rest =>
      !rules.removes parent element &&
        reaches (if rules.tags.contains element.2 then element else parent) rest

/-- Whether a heading is left. -/
def keepsHeading (parent : Space × String) (mark : HeadingMark) : Bool :=
  rules.reaches parent (mark.around ++ [mark.name]) && rules.tags.contains mark.name.2

/-- The ids that a heading is left with. -/
def keptIds (mark : HeadingMark) : List String :=
  mark.ids.filter fun id => rules.keepsAttribute mark.name.2 ⟨.none, "id", id⟩

theorem keepsHeading_within (parent outer : Space × String) (mark : HeadingMark) :
    rules.keepsHeading parent (mark.within outer) =
      (!rules.removes parent outer &&
        rules.keepsHeading (if rules.tags.contains outer.2 then outer else parent) mark) :=
  Bool.and_assoc ..

theorem keepsHeading_nil (parent name : Space × String) (ids : List String) :
    rules.keepsHeading parent ⟨[], name, ids⟩ =
      (!rules.removes parent name && rules.tags.contains name.2) := by
  simp [keepsHeading, reaches]

theorem idsOf_filter (name : String) (attrs : List Attribute) :
    idsOf (attrs.filter (rules.keepsAttribute name)) =
      (idsOf attrs).filter fun id => rules.keepsAttribute name ⟨.none, "id", id⟩ := by
  rw [idsOf, idsOf, List.filter_map, List.filter_filter, List.filter_filter]
  refine congrArg (List.map Attribute.value) (List.filter_congr fun attr _ => ?_)
  by_cases hid : attr.name = "id"
  · simp [hid, keepsAttribute]
  · rw [beq_false_of_ne hid, Bool.false_and, Bool.and_false]

/-- What is left of the headings of some marks. -/
def keptHeadings (parent : Space × String) (marks : List HeadingMark) : List (List String) :=
  (marks.filter (rules.keepsHeading parent)).map rules.keptIds

theorem keptHeadings_within (parent outer : Space × String) (marks : List HeadingMark) :
    rules.keptHeadings parent (marks.map (.within outer)) =
      if rules.removes parent outer then []
      else rules.keptHeadings (if rules.tags.contains outer.2 then outer else parent) marks := by
  have hids : rules.keptIds ∘ HeadingMark.within outer = rules.keptIds := rfl
  have hkeeps : rules.keepsHeading parent ∘ HeadingMark.within outer = fun mark =>
      !rules.removes parent outer &&
        rules.keepsHeading (if rules.tags.contains outer.2 then outer else parent) mark :=
    funext (rules.keepsHeading_within parent outer)
  rw [keptHeadings, List.filter_map, List.map_map, hids, hkeeps]
  cases rules.removes parent outer with
  | true => simp
  | false => rfl

theorem keptHeadings_append (parent : Space × String) (as bs : List HeadingMark) :
    rules.keptHeadings parent (as ++ bs) =
      rules.keptHeadings parent as ++ rules.keptHeadings parent bs := by
  rw [keptHeadings, List.filter_append, List.map_append]
  rfl

theorem keptHeadings_own (parent : Space × String) (space : Space) (name : String)
    (ids : List String) :
    rules.keptHeadings parent
        (if (headingLevel name).isSome then [⟨[], (space, name), ids⟩] else []) =
      if (headingLevel name).isSome && !rules.removes parent (space, name) &&
          rules.tags.contains name
      then [rules.keptIds ⟨[], (space, name), ids⟩] else [] := by
  cases (headingLevel name).isSome with
  | false => rfl
  | true =>
      rw [if_pos rfl, keptHeadings, List.filter_cons, keepsHeading_nil, Bool.true_and]
      split <;> rfl

theorem ids_comp_within (outer : Space × String) :
    HeadingMark.ids ∘ HeadingMark.within outer = HeadingMark.ids := rfl

mutual

/-- **Cleaning keeps the headings that it comes to.** By induction on the markup;
what cleaning has come through so far is in `parent`. -/
theorem headings_cleanNode : ∀ (node : Markup) (parent : Space × String),
    (Markup.headingMarksList (rules.cleanNode parent node)).map HeadingMark.ids =
      rules.keptHeadings parent node.headingMarks
  | .comment, _ => rfl
  | .text _, _ => rfl
  | .element space name attrs children, parent => by
      have hchildren := headings_cleanList children
      have hown : List.map HeadingMark.ids (if (headingLevel name).isSome then
            [⟨[], (space, name), idsOf (attrs.filter (rules.keepsAttribute name))⟩] else []) =
          if (headingLevel name).isSome then [rules.keptIds ⟨[], (space, name), idsOf attrs⟩]
          else [] := by
        rw [idsOf_filter]
        split <;> rfl
      rw [Markup.headingMarks, keptHeadings_append, keptHeadings_own, keptHeadings_within,
        cleanNode_element]
      cases rules.removes parent (space, name) with
      | true => simp [Markup.headingMarksList]
      | false =>
          cases rules.tags.contains name with
          | true =>
              simp [Markup.headingMarksList, Markup.headingMarks, hown, hchildren,
                ids_comp_within]
          | false => simp [hchildren]

theorem headings_cleanList : ∀ (nodes : List Markup) (parent : Space × String),
    (Markup.headingMarksList (rules.cleanList parent nodes)).map HeadingMark.ids =
      rules.keptHeadings parent (Markup.headingMarksList nodes)
  | [], _ => rfl
  | node :: rest, parent => by
      rw [cleanList, Markup.headingMarksList_append, List.map_append, headings_cleanNode node,
        headings_cleanList rest, Markup.headingMarksList, keptHeadings_append]

end

end Sanitize.CleanRules

namespace Schema

/-! ### The nodes that markup was written from -/

/-- Whether nothing is left below an element: it goes with its content, no reader
looks into it, or it is no HTML. -/
def dropsBelow (schema : Schema) (name : String) : Bool :=
  closedElements.contains name || (schema.withContent.contains name || !isHtmlName name)

/-- Whether nothing is left below a node. -/
def drops (schema : Schema) : Node → Bool
  | .text _ | .root _ => false
  | .foreign name _ => schema.strip.contains (Text.asciiLower name)
  | .element tag _ _ => schema.dropsBelow (Text.asciiLower tag)

/-- The id that a heading is left with. -/
def keptId? (schema : Schema) (heading : Node) : Option String :=
  heading.attributes.idText?.filter (schema.keepsAttribute (heading.tag?.getD "") "id")

/-- An allow-list with all headings, and ids on them. -/
structure AllowsHeadings (schema : Schema) : Prop where
  /-- The tags of headings are allowed. -/
  tags : ∀ tag, (headingLevel tag).isSome = true → schema.allowsTag tag = true
  /-- Every element may have an id. -/
  ids : schema.lists anyTag "id" = true

section Rules

variable {schema : Schema} {rules : CleanRules} (hrules : schema.cleanRules = .ok rules)

include hrules

theorem eq_of_cleanRules : rules =
    { tags := schema.tagNames
      withContent := schema.withContent
      genericAttributes := (schema.attributes.get? anyTag).getD ∅
      tagAttributes := schema.tagAttributes
      urlSchemes := schema.protocols.values.flatMap NameSet.toList
      keeps := schema.keepsAttribute } := by
  unfold cleanRules at hrules
  split at hrules
  · exact absurd hrules nofun
  · exact (Except.ok.inj hrules).symm

theorem removes_html {parent : Space × String} (hparent : parent.1 = .html) (tag : String) :
    rules.removes parent (.html, tag) = (schema.withContent.contains tag || !isHtmlName tag) := by
  rw [CleanRules.removes, eq_of_cleanRules hrules, fits, hparent]

section Allowed

variable (hallows : schema.AllowsHeadings)

include hallows

/-- The id of an element is kept if the last look at it lets it through. -/
theorem keepsAttribute_id (tag id : String) :
    rules.keepsAttribute tag ⟨.none, "id", id⟩ = schema.keepsAttribute tag "id" id := by
  have hlists : rules.lists tag "id" = true := by
    have hids := hallows.ids
    rw [lists] at hids
    rw [CleanRules.lists, eq_of_cleanRules hrules]
    cases hnames : schema.attributes.get? anyTag with
    | none => simp [hnames] at hids
    | some names =>
        rw [hnames] at hids
        exact Bool.or_eq_true_iff.2 (.inl hids)
  -- An id is not known to hold a URL, so the schemes of all attributes do not count.
  have hurl : holdsUrl tag "id" = false := by simp [holdsUrl]
  rw [CleanRules.keepsAttribute, hlists, hurl, eq_of_cleanRules hrules]
  simp only [Bool.true_and, Bool.not_false, Bool.true_or]

theorem removes_heading {parent : Space × String} (hparent : parent.1 = .html) {tag : String}
    (htag : (headingLevel tag).isSome = true) : rules.removes parent (.html, tag) = false := by
  have hcontent : schema.withContent.contains tag = false := by
    have hallowed : schema.tagNames.contains tag = true := hallows.tags tag htag
    simp [withContent, hallowed]
  have hname : isHtmlName tag = true := by
    have hall : ∀ tag ∈ ["h1", "h2", "h3", "h4", "h5", "h6"], isHtmlName tag = true := by
      decide +kernel
    exact hall tag (mem_of_headingLevel htag)
  rw [removes_html hrules hparent, hcontent, hname]
  rfl

/-- A heading that cleaning comes to is left, with its id if that is let through. -/
theorem keptHeadings_heading {parent : Space × String} (hparent : parent.1 = .html) (tag : String)
    (attrs : Attributes) (children : List Node) :
    rules.keptHeadings parent
        (if (headingLevel tag).isSome then [⟨[], (.html, tag), attrs.idText?.toList⟩] else []) =
      (if (headingLevel tag).isSome then [Node.element tag attrs children] else []).map
        fun heading => (schema.keptId? heading).toList := by
  rw [CleanRules.keptHeadings_own]
  by_cases htag : (headingLevel tag).isSome = true
  · have hallowed : rules.tags.contains tag = true := by
      rw [eq_of_cleanRules hrules]
      exact hallows.tags tag htag
    rw [htag, removes_heading hrules hallows hparent htag, hallowed]
    simp [CleanRules.keptIds, keepsAttribute_id hrules hallows, keptId?, Option.toList_filter,
      Node.tag?, Node.attributes]
  · rw [if_neg htag, if_neg (by simp [htag])]
    rfl

end Allowed

end Rules

mutual

/-- **What is left of the headings of a node** are those outside of what the
sanitizer drops. By induction on the node: an element either closes all below it,
or hands its children on to the element that they end up in. -/
theorem headings_unwrapNode {schema : Schema} {rules : CleanRules}
    (hrules : schema.cleanRules = .ok rules) (hallows : schema.AllowsHeadings) :
    ∀ (node : Node) {parent : Space × String}, parent.1 = .html →
      rules.keptHeadings parent (Node.headingMarksList (schema.unwrapNode node)) =
        (node.headingsOutside schema.drops).map fun heading => (schema.keptId? heading).toList
  | .text _, _, _ => rfl
  | .root children, parent, hparent => headings_unwrapForeign hrules hallows children hparent
  | .foreign name children, parent, hparent => by
      rw [unwrapNode, Node.headingsOutside, drops]
      split
      · rfl
      · exact headings_unwrapForeign hrules hallows children hparent
  | .element tag attrs children, parent, hparent => by
      have hbelow : rules.keptHeadings parent
            (if closedElements.contains (Text.asciiLower tag) then []
            else (Node.headingMarksList (schema.unwrapForeign children)).map
              (.within (.html, Text.asciiLower tag))) =
          (if schema.drops (.element tag attrs children) then [] else
            Node.headingsOutsideList schema.drops children).map
              fun heading => (schema.keptId? heading).toList := by
        rw [drops, dropsBelow]
        cases closedElements.contains (Text.asciiLower tag) with
        | true => rfl
        | false =>
            rw [if_neg Bool.false_ne_true, CleanRules.keptHeadings_within,
              removes_html hrules hparent, Bool.false_or]
            split
            · rfl
            · -- The children end up in this element, or in the one around it.
              refine headings_unwrapForeign hrules hallows children ?_
              split
              · rfl
              · exact hparent
      rw [unwrapNode, Node.headingMarksList, Node.headingMarksList, List.append_nil,
        Node.headingMarks, CleanRules.keptHeadings_append, Node.headingsOutside, List.map_append,
        keptHeadings_heading hrules hallows hparent tag attrs children, hbelow]

theorem headings_unwrapForeign {schema : Schema} {rules : CleanRules}
    (hrules : schema.cleanRules = .ok rules) (hallows : schema.AllowsHeadings) :
    ∀ (nodes : List Node) {parent : Space × String}, parent.1 = .html →
      rules.keptHeadings parent (Node.headingMarksList (schema.unwrapForeign nodes)) =
        (Node.headingsOutsideList schema.drops nodes).map
          fun heading => (schema.keptId? heading).toList
  | [], _, _ => rfl
  | node :: rest, parent, hparent => by
      rw [unwrapForeign, Node.headingMarksList_append, CleanRules.keptHeadings_append,
        headings_unwrapNode hrules hallows node hparent,
        headings_unwrapForeign hrules hallows rest hparent, Node.headingsOutsideList,
        List.map_append]

end

end Schema

/-! ### The nodes that markup is read into -/

theorem attr?_id_ofMarkup (attrs : List Attribute) :
    (Attributes.ofList (attrs.map attrOfMarkup)).get? "id" >>= AttrValue.plain? =
      (idsOf attrs).getLast? := by
  have hname : (fun entry : String × AttrValue => entry.1 == "id") ∘ attrOfMarkup =
      fun attr => attr.name == "id" := rfl
  rw [Attributes.ofList, NameMap.get?_ofList, List.filter_map, hname, idsOf, List.getLast?_map,
    List.getLast?_map]
  cases hlast : (attrs.filter (·.name == "id")).getLast? with
  | none => rfl
  | some attr =>
      have hid : attr.name = "id" :=
        beq_iff_eq.1 (List.mem_filter.1 (List.mem_of_getLast? hlast)).2
      simp [attrOfMarkup, hid, AttrValue.plain?]

mutual

theorem attr?_id_nodeOfMarkup : ∀ node : Markup,
    (Node.headingsList (nodeOfMarkup node)).map (·.attr? "id") =
      node.headingMarks.map (·.ids.getLast?)
  | .comment | .text _ => rfl
  | .element space name attrs children => by
      have hchildren := attr?_id_nodesOfMarkup children
      have hattr : (Node.element name (.ofList (attrs.map attrOfMarkup))
          (nodesOfMarkup children)).attr? "id" = (idsOf attrs).getLast? :=
        attr?_id_ofMarkup attrs
      rw [nodeOfMarkup, Node.headingsList, Node.headingsList, List.append_nil, Node.headings,
        Markup.headingMarks, List.map_append, List.map_map]
      split
      · rw [List.map_cons, hattr, hchildren]
        rfl
      · exact hchildren

theorem attr?_id_nodesOfMarkup : ∀ nodes : List Markup,
    (Node.headingsList (nodesOfMarkup nodes)).map (·.attr? "id") =
      (Markup.headingMarksList nodes).map (·.ids.getLast?)
  | [] => rfl
  | node :: rest => by
      rw [nodesOfMarkup, Node.headingsList_append, List.map_append, attr?_id_nodeOfMarkup node,
        attr?_id_nodesOfMarkup rest, Markup.headingMarksList, List.map_append]

end

/-! ### The whole way -/

namespace HtmlReader

/-- Reading a part of a document gives its headings back as they were written: in the
same elements, with the same ids. -/
def ReadsNodes (reader : HtmlReader) (nodes : List Node) : Prop :=
  Markup.headingMarksList (reader.fragment (writeNodes false nodes)) = Node.headingMarksList nodes

/-- Reading a whole document gives its headings back as they were written. -/
def ReadsMarkup (reader : HtmlReader) (nodes : List Markup) : Prop :=
  Markup.headingMarksList (reader.document (Markup.writeList false nodes)) =
    Markup.headingMarksList nodes

instance (reader : HtmlReader) (nodes : List Node) : Decidable (reader.ReadsNodes nodes) :=
  inferInstanceAs (Decidable (_ = _))

instance (reader : HtmlReader) (nodes : List Markup) : Decidable (reader.ReadsMarkup nodes) :=
  inferInstanceAs (Decidable (_ = _))

end HtmlReader

namespace Schema

theorem headingsOutsideList_topNodes (schema : Schema) (tree : Node) :
    Node.headingsOutsideList schema.drops tree.topNodes = tree.headingsOutside schema.drops := by
  cases tree with
  | root children => rfl
  | text _ | element _ _ _ | foreign _ _ => exact List.append_nil _

/-- **Sanitizing keeps the headings outside of what it drops**, and their ids as
far as they are let through. -/
theorem attr?_id_sanitizeWith {schema : Schema} {reader : HtmlReader} {tree result : Node}
    (hallows : schema.AllowsHeadings) (hresult : schema.sanitizeWith reader tree = .ok result)
    (hwritten : reader.ReadsNodes (schema.unwrapForeign tree.topNodes))
    (hcleaned : ∀ rules, schema.cleanRules = .ok rules →
      reader.ReadsMarkup (rules.clean
        (reader.fragment (writeNodes false (schema.unwrapForeign tree.topNodes))))) :
    result.headings.map (·.attr? "id") =
      (tree.headingsOutside schema.drops).map schema.keptId? := by
  unfold sanitizeWith at hresult
  cases hrules : schema.cleanRules with
  | error e =>
      rw [hrules] at hresult
      exact absurd hresult nofun
  | ok rules =>
      rw [hrules] at hresult
      obtain rfl := Except.ok.inj hresult
      -- The marks go through cleaning first; the second reading leaves them as they are.
      let read := reader.fragment (writeNodes false (schema.unwrapForeign tree.topNodes))
      have hkept : (Markup.headingMarksList (rules.clean read)).map HeadingMark.ids =
          (tree.headingsOutside schema.drops).map
            fun heading => (schema.keptId? heading).toList := by
        rw [CleanRules.clean, CleanRules.headings_cleanList, hwritten,
          headings_unwrapForeign hrules hallows tree.topNodes rfl, headingsOutsideList_topNodes]
      have hsingle : ∀ id? : Option String, id?.toList.getLast? = id? := by
        intro id?
        cases id? <;> rfl
      calc (Node.root (nodesOfMarkup (reader.document
              (schema.cleanedMarkup reader rules tree)))).headings.map (·.attr? "id")
          = (Markup.headingMarksList (rules.clean read)).map (·.ids.getLast?) := by
            rw [Node.headings, attr?_id_nodesOfMarkup, cleanedMarkup, hcleaned rules hrules]
        _ = ((Markup.headingMarksList (rules.clean read)).map HeadingMark.ids).map
              List.getLast? := by
            rw [List.map_map]
            rfl
        _ = (tree.headingsOutside schema.drops).map schema.keptId? := by
            rw [hkept, List.map_map]
            exact List.map_congr_left fun heading _ => hsingle (schema.keptId? heading)

end Schema

end PostPress
