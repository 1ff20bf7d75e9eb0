import PostPress.Proofs.Html.Reading
import PostPress.Proofs.Pipeline.Refusal
import PostPress.Proofs.Sanitize.Heading

/-!
# PostPress.Proofs.Sanitize.Text

**Text that a sanitizer leaves.** A tree of phrasing content that the allow-list lets through
passes both writers and both readers mark by mark, but for what readers drop at the beginning of
markup: a byte order mark each, and all blanks where a whole document is read.

* `Node.isPhrasing` — trees of texts and of phrasing elements without attributes;
* `Mark.kept` — the marks that are left of some, and `Mark.kept_eq_iff`, when all are left;
* `Schema.exists_sanitize` — the whole way, for every allow-list with the phrasing elements;
* `Schema.sanitize_text_iff` — which text the common allow-list leaves as it is.
-/

namespace PostPress

open Html Sanitize

/-! ### Texts of marks -/

namespace Mark

/-- The character of a text. -/
def char? : Mark → Option Char
  | .char c => some c
  | _ => none

/-- The characters of some marks. -/
def text (marks : List Mark) : List Char := marks.filterMap char?

@[simp] theorem text_nil : text [] = [] := rfl

@[simp] theorem text_append (marks more : List Mark) :
    text (marks ++ more) = text marks ++ text more :=
  List.filterMap_append

@[simp] theorem text_chars (chars : List Char) : text (chars.map .char) = chars := by
  rw [text, List.filterMap_map]
  exact List.filterMap_some

@[simp] theorem text_startTag (tag : String) (attrs : NameMap String) (marks : List Mark) :
    text (.startTag tag attrs :: marks) = text marks := rfl

@[simp] theorem text_endTag (tag : String) (marks : List Mark) :
    text (.endTag tag :: marks) = text marks := rfl

/-- All start tags are of phrasing elements. -/
def AllPhrasing (marks : List Mark) : Prop :=
  ∀ name attrs, .startTag name attrs ∈ marks → name ∈ phrasingTags

theorem AllPhrasing.right {marks more : List Mark} (h : AllPhrasing (marks ++ more)) :
    AllPhrasing more :=
  fun name attrs hmem => h name attrs (List.mem_append_right _ hmem)

theorem AllPhrasing.element {name : String} {below marks : List Mark}
    (h : AllPhrasing (.startTag name ∅ :: (below ++ .endTag name :: marks))) :
    name ∈ phrasingTags ∧ AllPhrasing below ∧ AllPhrasing marks :=
  ⟨h name ∅ List.mem_cons_self,
    fun other attrs hmem => h other attrs (List.mem_cons_of_mem _ (List.mem_append_left _ hmem)),
    fun other attrs hmem => h other attrs
      (List.mem_cons_of_mem _ (List.mem_append_right _ (List.mem_cons_of_mem _ hmem)))⟩

theorem Nested.allPhrasing {names : List String} {marks : List Mark} (h : Nested names marks) :
    AllPhrasing marks := by
  induction h with
  | nil => exact fun _ _ => nofun
  | char _ _ ih | endTag _ _ ih =>
      intro name attrs hmem
      rcases List.mem_cons.1 hmem with heq | hmem
      · exact absurd heq nofun
      · exact ih name attrs hmem
  | startTag hname _ ih =>
      intro name attrs hmem
      rcases List.mem_cons.1 hmem with heq | hmem
      · exact (Mark.startTag.inj heq).1 ▸ hname
      · exact ih name attrs hmem

/-- The marks that are left of some when they are read as a part of a document, and once more as
a whole one. -/
def kept (marks : List Mark) : List Mark :=
  (withoutStart (withoutStart marks)).dropWhile isBlank

/-- Whether a character is lost where it stands first. -/
def isLost (c : Char) : Bool := isTextBlank c || c == '\ufeff'

theorem exists_withoutStart (marks : List Mark) : ∃ lost : List Char,
    marks = lost.map .char ++ withoutStart marks ∧ ∀ c ∈ lost, isLost c = true := by
  by_cases hstart : ∃ rest, marks = .char '\ufeff' :: rest
  · obtain ⟨rest, rfl⟩ := hstart
    exact ⟨['\ufeff'], rfl, List.forall_mem_singleton.2 rfl⟩
  · have hsame := withoutStart_of_ne fun rest heq => hstart ⟨rest, heq⟩
    exact ⟨[], hsame.symm, nofun⟩

theorem length_withoutStart_le (marks : List Mark) :
    (withoutStart marks).length ≤ marks.length := by
  obtain ⟨lost, hmarks, -⟩ := exists_withoutStart marks
  have hlength := congrArg List.length hmarks
  rw [List.length_append] at hlength
  omega

theorem dropWhile_cons_blank {c : Char} (hc : isTextBlank c = true) (rest : List Mark) :
    (Mark.char c :: rest).dropWhile isBlank = rest.dropWhile isBlank :=
  List.dropWhile_cons_of_pos hc

theorem exists_dropWhile_isBlank (marks : List Mark) : ∃ lost : List Char,
    marks = lost.map .char ++ marks.dropWhile isBlank ∧ ∀ c ∈ lost, isLost c = true := by
  induction marks with
  | nil => exact ⟨[], rfl, nofun⟩
  | cons mark marks ih =>
      obtain ⟨lost, hmarks, hlost⟩ := ih
      cases mark with
      | startTag | endTag => exact ⟨[], rfl, nofun⟩
      | char c =>
          by_cases hblank : isTextBlank c = true
          · refine ⟨c :: lost, ?_, List.forall_mem_cons.2 ⟨by simp [isLost, hblank], hlost⟩⟩
            rw [dropWhile_cons_blank hblank, List.map_cons, List.cons_append, ← hmarks]
          · refine ⟨[], ?_, nofun⟩
            rw [List.dropWhile_cons_of_neg (show ¬(Mark.char c).isBlank = true from hblank)]
            rfl

/-- Nothing but characters at the beginning is lost. -/
theorem exists_kept (marks : List Mark) : ∃ lost : List Char,
    marks = lost.map .char ++ kept marks ∧ ∀ c ∈ lost, isLost c = true := by
  obtain ⟨first, hfirst, hlost₁⟩ := exists_withoutStart marks
  obtain ⟨second, hsecond, hlost₂⟩ := exists_withoutStart (withoutStart marks)
  obtain ⟨blanks, hblanks, hlost₃⟩ := exists_dropWhile_isBlank (withoutStart (withoutStart marks))
  refine ⟨first ++ (second ++ blanks), ?_, fun c hc => ?_⟩
  · rw [List.map_append, List.map_append, List.append_assoc, List.append_assoc, kept, ← hblanks,
      ← hsecond, ← hfirst]
  · rcases List.mem_append.1 hc with hc | hc
    · exact hlost₁ c hc
    · rcases List.mem_append.1 hc with hc | hc
      · exact hlost₂ c hc
      · exact hlost₃ c hc

/-- A character that can be lost is lost where it stands first. -/
theorem length_kept_le {c : Char} (hc : isLost c = true) (rest : List Mark) :
    (kept (.char c :: rest)).length ≤ rest.length := by
  by_cases hstart : c = '\ufeff'
  · subst hstart
    calc (kept (.char '\ufeff' :: rest)).length
        ≤ (withoutStart rest).length := (List.dropWhile_sublist _).length_le
      _ ≤ rest.length := length_withoutStart_le rest
  · have hblank : isTextBlank c = true := by
      simpa [isLost, hstart] using hc
    have hsame : withoutStart (.char c :: rest) = .char c :: rest := by
      refine withoutStart_of_ne fun other heq => hstart ?_
      exact Mark.char.inj (List.cons.inj heq).1
    rw [kept, hsame, hsame, dropWhile_cons_blank hblank]
    exact (List.dropWhile_sublist _).length_le

/-- **Nothing is lost** exactly if no character that can be lost comes first. -/
theorem kept_eq_iff (marks : List Mark) :
    kept marks = marks ↔ ∀ c, marks.head? = some (.char c) → isLost c = false := by
  constructor
  · rintro hkept c hhead
    obtain ⟨rest, rfl⟩ := List.head?_eq_some_iff.1 hhead
    by_contra hlost
    have hshort := length_kept_le (Bool.eq_true_of_not_eq_false hlost) rest
    rw [hkept, List.length_cons] at hshort
    omega
  · intro hhead
    have hstart : withoutStart marks = marks := by
      refine withoutStart_of_ne ?_
      rintro rest rfl
      exact absurd (hhead '\ufeff' rfl) (by decide)
    rw [kept, hstart, hstart]
    cases marks with
    | nil => rfl
    | cons mark marks =>
        refine List.dropWhile_cons_of_neg ?_
        cases mark with
        | startTag | endTag => exact Bool.false_ne_true
        | char c =>
            have hc := hhead c rfl
            simp only [isLost, Bool.or_eq_false_iff] at hc
            exact Bool.eq_false_iff.1 hc.1

end Mark

/-! ### Trees of phrasing content -/

namespace Node

mutual

/-- Whether a tree is made of texts of steady characters and of phrasing elements without
attributes. -/
def isPhrasing : Node → Bool
  | .text value => value.toList.all isSteady
  | .element tag attrs children =>
      phrasingTags.contains tag && attrs = ∅ && isPhrasingList children
  | .root _ | .foreign .. => false

/-- Whether all trees are. -/
def isPhrasingList : List Node → Bool
  | [] => true
  | node :: rest => isPhrasing node && isPhrasingList rest

end

theorem isPhrasing_element {tag : String} {attrs : Attributes} {children : List Node}
    (h : (Node.element tag attrs children).isPhrasing = true) :
    tag ∈ phrasingTags ∧ attrs = ∅ ∧ isPhrasingList children = true := by
  simpa [isPhrasing, and_assoc] using h

theorem isPhrasingList_cons {node : Node} {rest : List Node}
    (h : isPhrasingList (node :: rest) = true) :
    node.isPhrasing = true ∧ isPhrasingList rest = true :=
  Bool.and_eq_true_iff.1 h

theorem marks_phrasing {tag : String} (htag : tag ∈ phrasingTags) (children : List Node) :
    (Node.element tag ∅ children).marks =
      .startTag tag ∅ :: (marksList children ++ [.endTag tag]) := by
  have hall : ∀ tag ∈ phrasingTags, voidElements.contains tag = false := by decide
  rw [marks, hall tag htag]
  rfl

mutual

/-- The marks of phrasing content. -/
theorem nested_marks : ∀ (node : Node) {names : List String} {more : List Mark},
    node.isPhrasing = true → Mark.Nested names more → Mark.Nested names (node.marks ++ more)
  | .text value, names, more, h, hmore => by
      have hchars : ∀ c ∈ value.toList, isSteady c = true := List.all_eq_true.1 h
      rw [marks]
      generalize value.toList = chars at hchars
      induction chars with
      | nil => exact hmore
      | cons c chars ih =>
          obtain ⟨hc, hrest⟩ := List.forall_mem_cons.1 hchars
          exact .char hc (ih hrest)
  | .element tag attrs children, names, more, h, hmore => by
      obtain ⟨htag, rfl, hchildren⟩ := isPhrasing_element h
      rw [marks_phrasing htag, List.cons_append, List.append_assoc]
      exact .startTag htag (nested_marksList children hchildren (.endTag htag hmore))

theorem nested_marksList : ∀ (nodes : List Node) {names : List String} {more : List Mark},
    isPhrasingList nodes = true → Mark.Nested names more →
      Mark.Nested names (marksList nodes ++ more)
  | [], _, _, _, hmore => hmore
  | node :: rest, _, _, h, hmore => by
      obtain ⟨hnode, hrest⟩ := isPhrasingList_cons h
      rw [marksList, List.append_assoc]
      exact nested_marks node hnode (nested_marksList rest hrest hmore)

end

mutual

/-- The text of phrasing content. -/
theorem toList_textContent : ∀ {node : Node}, node.isPhrasing = true →
    node.textContent.toList = Mark.text node.marks
  | .text value, _ => (Mark.text_chars value.toList).symm
  | .element tag attrs children, h => by
      obtain ⟨htag, rfl, hchildren⟩ := isPhrasing_element h
      rw [marks_phrasing htag, textContent, toList_textContentList hchildren]
      simp

theorem toList_textContentList : ∀ {nodes : List Node}, isPhrasingList nodes = true →
    (textContentList nodes).toList = Mark.text (marksList nodes)
  | [], _ => rfl
  | node :: rest, h => by
      obtain ⟨hnode, hrest⟩ := isPhrasingList_cons h
      rw [textContentList, marksList, String.toList_append, toList_textContent hnode,
        toList_textContentList hrest, Mark.text_append]

end

mutual

/-- Phrasing content has no foreign nodes and no roots. -/
theorem unwrapNode_phrasing (schema : Schema) : ∀ {node : Node}, node.isPhrasing = true →
    schema.unwrapNode node = [node]
  | .text _, _ => rfl
  | .element tag attrs children, h => by
      obtain ⟨-, -, hchildren⟩ := isPhrasing_element h
      rw [Schema.unwrapNode, unwrapForeign_phrasing schema hchildren]

theorem unwrapForeign_phrasing (schema : Schema) : ∀ {nodes : List Node},
    isPhrasingList nodes = true → schema.unwrapForeign nodes = nodes
  | [], _ => rfl
  | node :: rest, h => by
      obtain ⟨hnode, hrest⟩ := isPhrasingList_cons h
      rw [Schema.unwrapForeign, unwrapNode_phrasing schema hnode,
        unwrapForeign_phrasing schema hrest, List.singleton_append]

end

theorem marksList_topNodes (tree : Node) : marksList tree.topNodes = tree.marks := by
  cases tree with
  | root => rfl
  | text | element | foreign => exact List.append_nil _

theorem textContentList_topNodes (tree : Node) :
    textContentList tree.topNodes = tree.textContent := by
  cases tree with
  | root => rfl
  | text | element | foreign => exact String.append_empty

/-- Phrasing content is written mark by mark. -/
theorem writeNodes_phrasing {nodes : List Node} {names : List String}
    (h : Mark.Nested names (marksList nodes)) :
    writeNodes false nodes = (marksList nodes).flatMap (Mark.spell escapeTextChar) := by
  have hall : ∀ tag ∈ phrasingTags, voidElements.contains tag = false := by decide
  rw [writeNodes_eq]
  generalize marksList nodes = marks at h
  induction h with
  | nil => rfl
  | char _ _ ih | endTag _ _ ih =>
      rw [List.flatMap_cons, List.flatMap_cons, ih]
      rfl
  | @startTag name names marks hname _ ih =>
      have hwrite : (Mark.startTag name ∅).write false =
          (Mark.startTag name ∅).spell escapeTextChar := by
        rw [Mark.write, hall name hname, if_neg Bool.false_ne_true, List.append_nil, Mark.spell]
        exact congrArg (· ++ ['>']) (List.append_nil ('<' :: name.toList))
      rw [List.flatMap_cons, List.flatMap_cons, ih, hwrite]

end Node

/-! ### Markup of phrasing content -/

namespace Html.Markup.Spells

variable {nodes : List Markup} {marks : List Mark}

/-- The text of markup that is made into a document. -/
theorem toList_textContentList (h : Spells nodes marks) :
    (Node.textContentList (nodesOfMarkup nodes)).toList = Mark.text marks := by
  induction h with
  | nil => rfl
  | @text chars rest marks _ ih =>
      rw [nodesOfMarkup, nodeOfMarkup, List.singleton_append, Node.textContentList,
        String.toList_append, ih, Mark.text_append, Mark.text_chars, Node.textContent,
        String.toList_ofList]
  | @element name children rest below marks _ _ ihchildren ihrest =>
      rw [nodesOfMarkup, nodeOfMarkup, List.singleton_append, Node.textContentList,
        String.toList_append, ihrest, Node.textContent, ihchildren, Mark.text_startTag,
        Mark.text_append, Mark.text_endTag]

/-- Markup of phrasing content is written mark by mark. -/
theorem writeList_eq (h : Spells nodes marks) (hphrasing : Mark.AllPhrasing marks) :
    Markup.writeList false nodes = marks.flatMap (Mark.spell (escapeMarkupChar false)) := by
  have hall : ∀ name ∈ phrasingTags, emptyElements.contains name = false ∧
      rawElements.contains name = false := by
    decide
  induction h with
  | nil => rfl
  | text _ ih =>
      rw [Markup.writeList, Markup.write, if_neg Bool.false_ne_true, List.flatMap_append,
        ih hphrasing.right, List.flatMap_map]
      rfl
  | @element name _ _ _ _ _ _ ihchildren ihrest =>
      obtain ⟨hname, hbelow, hrest⟩ := hphrasing.element
      obtain ⟨hempty, hraw⟩ := hall name hname
      rw [Markup.writeList, Markup.write, hempty, hraw, Bool.and_false, if_neg Bool.false_ne_true,
        ihchildren hbelow, ihrest hrest]
      simp [Mark.spell]

/-- The marks of markup that is made into a document. -/
theorem marksList_nodesOfMarkup (h : Spells nodes marks) (hphrasing : Mark.AllPhrasing marks) :
    Node.marksList (nodesOfMarkup nodes) = marks := by
  induction h with
  | nil => rfl
  | text _ ih =>
      rw [nodesOfMarkup, nodeOfMarkup, List.singleton_append, Node.marksList, Node.marks,
        String.toList_ofList, ih hphrasing.right]
  | element _ _ ihchildren ihrest =>
      obtain ⟨hname, hbelow, hrest⟩ := hphrasing.element
      have hempty : Attributes.ofList (([] : List Attribute).map attrOfMarkup) = ∅ := rfl
      rw [nodesOfMarkup, nodeOfMarkup, List.singleton_append, Node.marksList, hempty,
        Node.marks_phrasing hname, ihchildren hbelow, ihrest hrest, List.cons_append,
        List.append_assoc]
      rfl

/-- Rules that let phrasing elements through leave phrasing content as it is. -/
theorem cleanList_eq (h : Spells nodes marks) (hphrasing : Mark.AllPhrasing marks)
    {schema : Schema} {rules : CleanRules} (hrules : schema.cleanRules = .ok rules)
    (hallows : ∀ tag ∈ phrasingTags, schema.allowsTag tag = true) (parent : Space × String)
    (hparent : parent.1 = .html) : rules.cleanList parent nodes = nodes := by
  have hall : ∀ name ∈ phrasingTags, isHtmlName name = true := by decide +kernel
  induction h generalizing parent with
  | nil => rfl
  | text _ ih =>
      rw [CleanRules.cleanList, CleanRules.cleanNode, ih hphrasing.right parent hparent,
        List.singleton_append]
  | @element name _ _ _ _ _ _ ihchildren ihrest =>
      obtain ⟨hname, hbelow, hrest⟩ := hphrasing.element
      have hallowed : schema.tagNames.contains name = true := hallows name hname
      have htags : rules.tags.contains name = true := by
        rw [Schema.eq_of_cleanRules hrules]
        exact hallowed
      have hkept : rules.removes parent (.html, name) = false := by
        rw [Schema.removes_html hrules hparent, hall name hname]
        simp [Schema.withContent, hallowed]
      have hinside := ihchildren hbelow (.html, name) rfl
      rw [CleanRules.cleanList, CleanRules.cleanNode_element, hkept,
        if_neg Bool.false_ne_true, if_pos htags, hinside, ihrest hrest parent hparent]
      rfl

end Html.Markup.Spells

/-! ### The whole way -/

namespace Schema

theorem nested_topNodes {tree : Node} (h : Node.isPhrasingList tree.topNodes = true) :
    Mark.Nested [] tree.marks := by
  have hnested := Node.nested_marksList tree.topNodes h .nil
  rwa [List.append_nil, Node.marksList_topNodes] at hnested

/-- **The whole way** for an allow-list with the phrasing elements: what comes out spells the
marks that are kept. -/
theorem exists_sanitize {schema : Schema} {rules : CleanRules}
    (hrules : schema.cleanRules = .ok rules)
    (hallows : ∀ tag ∈ phrasingTags, schema.allowsTag tag = true) {tree : Node}
    (h : Node.isPhrasingList tree.topNodes = true) : ∃ nodes : List Markup,
      schema.sanitize tree = .ok (.root (nodesOfMarkup nodes)) ∧
        Markup.Spells nodes (Mark.kept tree.marks) := by
  have hmarks := nested_topNodes h
  have hstart := hmarks.withoutStart
  have hwritten : writeNodes false (schema.unwrapForeign tree.topNodes) =
      tree.marks.flatMap (Mark.spell escapeTextChar) := by
    rw [← Node.marksList_topNodes] at hmarks ⊢
    rw [Node.unwrapForeign_phrasing schema h, Node.writeNodes_phrasing hmarks]
  -- What the first reader makes of the tree is left by the rules, and written again.
  have hfragment := spells_readFragment escapes_escapeTextChar hmarks
  have hclean := hfragment.cleanList_eq hstart.allPhrasing hrules hallows (.html, "html") rfl
  have hmarkup : schema.cleanedMarkup .standard rules tree =
      (Mark.withoutStart tree.marks).flatMap (Mark.spell (escapeMarkupChar false)) := by
    unfold cleanedMarkup
    rw [hwritten]
    exact (congrArg (Markup.writeList false) hclean).trans
      (hfragment.writeList_eq hstart.allPhrasing)
  refine ⟨_, ?_, spells_readDocument escapes_escapeMarkupChar hstart⟩
  unfold sanitize sanitizeWith
  rw [hrules, Except.map, hmarkup]
  rfl

theorem exists_cleanRules_default : ∃ rules, Schema.default.cleanRules = .ok rules := by
  refine (cleanRules_isOk_iff Schema.default).2 fun tag hstrip _ hattributes => ?_
  have hlisted : ∀ tag ∈ ["script", "style"], Schema.default.attributes.contains tag = false := by
    decide +kernel
  have htag : tag ∈ ["script", "style"] := (NameSet.contains_ofList ..).1 hstrip
  exact absurd hattributes (by simp [hlisted tag htag])

/-- **Text that is left.** The result has the marks of the tree but for lost characters at the
beginning, so no text is added. None is lost exactly if the tree does not begin with a blank or a
byte order mark. -/
theorem sanitize_text_iff {tree : Node} (h : Node.isPhrasingList tree.topNodes = true) :
    ∃ result, Schema.default.sanitize tree = .ok result ∧ result.marks = Mark.kept tree.marks ∧
      (∃ lost : List Char, tree.textContent.toList = lost ++ result.textContent.toList ∧
        ∀ c ∈ lost, Mark.isLost c = true) ∧
      (result.textContent = tree.textContent ↔
        ∀ c, tree.marks.head? = some (.char c) → Mark.isLost c = false) := by
  obtain ⟨rules, hrules⟩ := exists_cleanRules_default
  have hallows : ∀ tag ∈ phrasingTags, Schema.default.allowsTag tag = true := by decide +kernel
  obtain ⟨nodes, hresult, hspells⟩ := exists_sanitize hrules hallows h
  have hkept := (nested_topNodes h).withoutStart.withoutStart.dropWhile_isBlank
  obtain ⟨lost, hlost, hall⟩ := Mark.exists_kept tree.marks
  have htext : tree.textContent.toList =
      lost ++ (Node.root (nodesOfMarkup nodes)).textContent.toList := by
    calc tree.textContent.toList
        = Mark.text tree.marks := by
          rw [← Node.textContentList_topNodes, Node.toList_textContentList h,
            Node.marksList_topNodes]
      _ = Mark.text (lost.map .char ++ Mark.kept tree.marks) := congrArg Mark.text hlost
      _ = lost ++ Mark.text (Mark.kept tree.marks) := by
          rw [Mark.text_append, Mark.text_chars]
      _ = lost ++ (Node.root (nodesOfMarkup nodes)).textContent.toList :=
          congrArg (lost ++ ·) hspells.toList_textContentList.symm
  have hnone : Mark.kept tree.marks = tree.marks ↔ lost = [] := by
    constructor
    · intro hsame
      rw [hsame] at hlost
      exact List.map_eq_nil_iff.1 (List.self_eq_append_left.1 hlost)
    · rintro rfl
      exact hlost.symm
  refine ⟨_, hresult, hspells.marksList_nodesOfMarkup hkept.allPhrasing, ⟨lost, htext, hall⟩, ?_⟩
  rw [← Mark.kept_eq_iff, hnone, ← String.toList_inj, htext]
  exact List.self_eq_append_left

/-- Blanks inside the tree stay where they are. -/
theorem sanitize_text_iff_emphasis : ∃ result, Schema.default.sanitize
    (.root [.element "em" ∅ [.text " a "], .text " b\n"]) = .ok result ∧
      result.textContent = " a  b\n" := by
  have hphrasing : Node.isPhrasingList
      (Node.root [.element "em" ∅ [.text " a "], .text " b\n"]).topNodes = true := by decide
  obtain ⟨result, hresult, -, -, htext⟩ := sanitize_text_iff hphrasing
  exact ⟨result, hresult, htext.2 nofun⟩

/-- A blank at the beginning of the tree is lost. -/
theorem sanitize_text_of_blank :
    Schema.default.sanitize (.root [.text " a"]) = .ok (.root [.text "a"]) ∧
      Node.isPhrasingList (Node.root [.text " a"]).topNodes = true ∧
      (Node.root [.text "a"]).textContent ≠ (Node.root [.text " a"]).textContent := by
  decide +kernel

end Schema

end PostPress
