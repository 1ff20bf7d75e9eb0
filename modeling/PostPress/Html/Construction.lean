import PostPress.Html.Construction.Table

/-!
# PostPress.Html.Construction

Reading HTML markup into a tree, as a part of a document inside a `div`
(`readFragment`) or as a whole document (`readDocument`).
-/

namespace PostPress.Html

/-- The rule of a mode. -/
def ruleOf : Mode → Rule
  | .initial => ruleInitial
  | .beforeHtml => ruleBeforeHtml
  | .beforeHead => ruleBeforeHead
  | .inHead => ruleInHead
  | .afterHead => ruleAfterHead
  | .inBody => ruleInBody
  | .text => ruleText
  | .inTable => ruleInTable
  | .inTableText => ruleInTableText
  | .inCaption => ruleInCaption
  | .inColumnGroup => ruleInColumnGroup
  | .inTableBody => ruleInTableBody
  | .inRow => ruleInRow
  | .inCell => ruleInCell
  | .inTemplate => ruleInTemplate
  | .afterBody => ruleAfterBody
  | .inFrameset => ruleInFrameset
  | .afterFrameset => ruleAfterFrameset
  | .afterAfterBody => ruleAfterAfterBody
  | .afterAfterFrameset => ruleAfterAfterFrameset

namespace Builder

/-- Before the first token of a document. -/
def forDocument : Builder where
  dom := .empty false
  mode := .initial
  returnMode := .initial
  templateModes := []
  stack := []
  formatting := []
  head := none
  form := none
  framesetOk := true
  fostering := false
  tableText := []
  dropNewline := false
  isFragment := false
  tableInParagraph := false
  annotationsHoldHtml := false
  textMode := .data
  stopped := false

/-- Before the first token of a part of a document. -/
def forFragment : Builder :=
  let (root, dom) := (Dom.empty true).createElement .html "html" []
  { forDocument with
    dom := dom.append Dom.document root
    mode := .inBody
    stack := [root]
    isFragment := true
    annotationsHoldHtml := true }

/-- Apply the rules to one token until it is used, at most `fuel` times. -/
def take : (fuel : Nat) → Builder → Token → Builder
  | 0, b, _ => b
  | fuel + 1, b, token =>
      let rule := ruleOf b.mode
      match if b.isForeign token then ruleForeign rule b token else rule b token with
      | (b, some token) => take fuel b token
      | (b, none) => b

/-- A token without a line feed at its beginning; nothing if nothing is left. -/
def withoutNewline : Token → Option Token
  | .blank ('\n' :: rest) => if rest.isEmpty then none else some (.blank rest)
  | .text ('\n' :: rest) => if rest.isEmpty then none else some (textToken rest)
  | token => some token

/-- Use the next token of the markup. Text that is read in a way of its own ends
with its element. -/
def accept (b : Builder) (token : Token) : Builder :=
  let dropped := b.dropNewline
  let b := { b with dropNewline := false }
  let b :=
    match token with
    | .endTag _ => { b with textMode := .data }
    | _ => b
  -- Every repetition changes the mode for good or closes a template.
  let fuel := 20 + 2 * b.stack.length
  match if dropped then withoutNewline token else some token with
  | some token => take fuel b token
  | none => b

/-- Use the tokens of some markup, at most `fuel` of them. -/
def run : (fuel : Nat) → Builder → List Char → Builder
  | 0, b, _ => b
  | fuel + 1, b, text =>
      if b.stopped then b
      else
        let inForeign :=
          match b.current? with
          | some (space, _) => space ≠ .html
          | none => false
        match nextToken b.textMode inForeign text with
        | (some token, rest) => run fuel (b.accept token) rest
        | (none, rest) => run fuel b rest

/-- Use all of some markup. -/
def readAll (b : Builder) (text : List Char) : Builder :=
  let text :=
    match text with
    | '\ufeff' :: rest => rest
    | text => text
  let text := normalizeNewlines text
  b.run (text.length + 2) text

end Builder

/-- The nodes of markup that is a part of a document, inside a `div`. -/
def readFragment (text : List Char) : List Markup :=
  let b := Builder.forFragment.readAll text
  match (b.dom.node Dom.document).children with
  | root :: _ => b.dom.childrenToMarkup root
  | [] => []

/-- The first child of a node that is an element of a name. -/
def Dom.childNamed? (dom : Dom) (id : Nat) (name : String) : Option Nat :=
  (dom.node id).children.find? fun child =>
    match dom.name? child with
    | some (_, n) => n == name
    | none => false

/-- The nodes in the body of markup that is a whole document; none if it has no
body. -/
def readDocument (text : List Char) : List Markup :=
  let dom := (Builder.forDocument.readAll text).dom
  match (dom.childNamed? Dom.document "html").bind fun html => dom.childNamed? html "body" with
  | some body => dom.childrenToMarkup body
  | none => []

end PostPress.Html
