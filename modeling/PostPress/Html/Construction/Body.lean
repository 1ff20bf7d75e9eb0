import PostPress.Html.Construction.Foreign

/-!
# PostPress.Html.Construction.Body

The rules for tokens in the body of a document: which elements a tag closes
before it opens or closes its own.
-/

namespace PostPress.Html

namespace Builder

/-- Elements that end a paragraph when they begin. -/
def blockTags : List String :=
  ["address", "article", "aside", "blockquote", "center", "details", "dialog", "dir", "div", "dl",
   "fieldset", "figcaption", "figure", "footer", "header", "hgroup", "main", "menu", "nav", "ol",
   "p", "search", "section", "summary", "ul"]

/-- The tags of headings. -/
def headingTags : List String := ["h1", "h2", "h3", "h4", "h5", "h6"]

/-- Formatting elements but for links and `nobr`. -/
def formattingTags : List String :=
  ["b", "big", "code", "em", "font", "i", "s", "small", "strike", "strong", "tt", "u"]

/-- Parts of tables and of documents, which mean nothing in a body. -/
def misplacedTags : List String :=
  ["caption", "col", "colgroup", "frame", "head", "tbody", "td", "tfoot", "th", "thead", "tr"]

/-- The node of the body: the second of the open elements. -/
def bodyNode? (b : Builder) : Option Nat :=
  match b.stack.reverse with
  | _ :: second :: _ => if b.isHtml ["body"] second then some second else none
  | _ => none

/-- Close an open item before another one begins: `names` are the items that it
closes. -/
def endItem (b : Builder) (names : List String) : Builder :=
  let isBarrier (id : Nat) : Bool := b.isSpecial id && !b.isHtml ["address", "div", "p"] id
  match b.stack.find? fun id => b.isHtml names id || isBarrier id with
  | none => b
  | some id =>
      match b.htmlName? id with
      | some name =>
          if names.contains name then (b.closeImplied [name]).popUntil [name] else b
      | none => b

/-- The rule for a set of frames in a body. -/
def startFrameset (b : Builder) (attrs : List Attribute) : Builder :=
  match b.framesetOk, b.bodyNode? with
  | true, some body =>
      let b := { b with dom := b.dom.detach body, stack := b.stack.drop (b.stack.length - 1) }
      (b.insert "frameset" attrs).goTo .inFrameset
  | _, _ => b

/-- The rule for a second `body` tag. -/
def mergeBody (b : Builder) (attrs : List Attribute) : Builder :=
  match b.bodyNode? with
  | some body =>
      if b.isOpen "template" then b
      else { b with dom := b.dom.addMissing body attrs }.noFrameset
  | none => b

/-- The rule for a form. -/
def startForm (b : Builder) (attrs : List Attribute) : Builder :=
  let inTemplate := b.isOpen "template"
  if b.form.isSome && !inTemplate then b
  else
    let (id, b) := b.endParagraph.insertNode "form" attrs
    if inTemplate then b else { b with form := some id }

/-- The rule for a link: one that is still open is closed first. -/
def startLink (b : Builder) (attrs : List Attribute) : Builder :=
  let b :=
    match b.findFormatting "a" with
    | some (node, _) => ((b.closeFormatting "a").removeFormatting node).removeOpen node
    | none => b
  b.reopenFormatting.insertFormatting "a" attrs

/-- The rule for a list of choices: a second one ends the first. -/
def startSelect (b : Builder) (attrs : List Attribute) : Builder :=
  if b.inScope ["select"] then b.popUntil ["select"]
  else (b.reopenFormatting.insert "select" attrs).noFrameset

/-- What a choice or a group of choices closes before it begins. -/
def beforeChoice (b : Builder) (kept : List String) : Builder :=
  if b.inScope ["select"] then b.closeImplied kept
  else if b.currentIs ["option"] then b.pop
  else b

/-- Whether an input field is hidden. -/
def isHidden (attrs : List Attribute) : Bool :=
  match attrs.find? (·.name == "type") with
  | some attr => Text.asciiLower attr.value == "hidden"
  | none => false

/-- The rule for an input field. -/
def startInput (b : Builder) (attrs : List Attribute) : Builder :=
  let b := if b.inScope ["select"] then b.popUntil ["select"] else b
  let b := b.reopenFormatting.insertVoid "input" attrs
  if isHidden attrs then b else b.noFrameset

/-- The rule for a thematic break. -/
def startRule (b : Builder) (attrs : List Attribute) : Builder :=
  let b := b.endParagraph
  let b := if b.inScope ["select"] then b.closeImplied [] else b
  (b.insertVoid "hr" attrs).noFrameset

/-- The rule for a button: one that is still open is closed first. -/
def startButton (b : Builder) (attrs : List Attribute) : Builder :=
  let b := if b.inScope ["button"] then (b.closeImplied []).popUntil ["button"] else b
  (b.reopenFormatting.insert "button" attrs).noFrameset

/-- Open an element whose text is read in a way of its own. -/
def startText (b : Builder) (name : String) (attrs : List Attribute) : Builder :=
  match name with
  | "textarea" =>
      { b.insertTextElement name attrs (.references name) with
        dropNewline := true, framesetOk := false }
  | "xmp" => b.endParagraph.reopenFormatting.noFrameset.insertTextElement name attrs (.raw name)
  | "iframe" => b.noFrameset.insertTextElement name attrs (.raw name)
  | name => b.insertTextElement name attrs (.raw name)

/-- The rule for a start tag in a body. -/
def startInBody (b : Builder) (name : String) (attrs : List Attribute) (selfClosing : Bool) :
    Builder :=
  if headTags.contains name then b.startInHead name attrs
  else if blockTags.contains name then b.endParagraph.insert name attrs
  else if headingTags.contains name then
    let b := b.endParagraph
    (if b.currentIs headingTags then b.pop else b).insert name attrs
  else if formattingTags.contains name then b.reopenFormatting.insertFormatting name attrs
  else if misplacedTags.contains name then b
  else
    match name with
    | "html" => b.mergeHtml attrs
    | "body" => b.mergeBody attrs
    | "frameset" => b.startFrameset attrs
    | "pre" | "listing" =>
        { b.endParagraph.insert name attrs with dropNewline := true, framesetOk := false }
    | "form" => b.startForm attrs
    | "li" => (b.noFrameset.endItem ["li"]).endParagraph.insert name attrs
    | "dd" | "dt" => (b.noFrameset.endItem ["dd", "dt"]).endParagraph.insert name attrs
    | "plaintext" => { b.endParagraph.insert name attrs with textMode := .plaintext }
    | "button" => b.startButton attrs
    | "a" => b.startLink attrs
    | "nobr" =>
        let b := b.reopenFormatting
        let b := if b.inScope ["nobr"] then (b.closeFormatting "nobr").reopenFormatting else b
        b.insertFormatting name attrs
    | "applet" | "marquee" | "object" =>
        (b.reopenFormatting.insert name attrs).pushMarker.noFrameset
    | "table" =>
        let b := if b.tableInParagraph then b else b.endParagraph
        (b.insert name attrs).noFrameset.goTo .inTable
    | "area" | "br" | "embed" | "img" | "keygen" | "wbr" =>
        (b.reopenFormatting.insertVoid name attrs).noFrameset
    | "image" => (b.reopenFormatting.insertVoid "img" attrs).noFrameset
    | "input" => b.startInput attrs
    | "param" | "source" | "track" => b.insertVoid name attrs
    | "hr" => b.startRule attrs
    | "textarea" | "xmp" | "iframe" | "noembed" | "noscript" => b.startText name attrs
    | "select" => b.startSelect attrs
    | "option" => (b.beforeChoice ["optgroup"]).reopenFormatting.insert name attrs
    | "optgroup" => (b.beforeChoice []).reopenFormatting.insert name attrs
    | "rb" | "rtc" => (if b.inScope ["ruby"] then b.closeImplied [] else b).insert name attrs
    | "rp" | "rt" => (if b.inScope ["ruby"] then b.closeImplied ["rtc"] else b).insert name attrs
    | "math" => b.insertForeign .mathml name attrs selfClosing
    | "svg" => b.insertForeign .svg name attrs selfClosing
    | name => b.reopenFormatting.insert name attrs

/-- The rule for the end of a form. -/
def endForm (b : Builder) : Builder :=
  if b.isOpen "template" then
    if b.inScope ["form"] then (b.closeImplied []).popUntil ["form"] else b
  else
    match b.form with
    | none => b
    | some form =>
        let b := { b with form := none }
        if b.nodeInScope form then (b.closeImplied []).removeOpen form else b

/-- Close an element that is in scope; otherwise nothing happens. -/
def endScoped (b : Builder) (names : List String) : Builder :=
  if b.inScope names then (b.closeImplied []).popUntil names else b

/-- Elements whose end tag closes everything in them. -/
def endedBlocks : List String :=
  ["address", "article", "aside", "blockquote", "button", "center", "details", "dialog", "dir",
   "div", "dl", "fieldset", "figcaption", "figure", "footer", "header", "hgroup", "listing",
   "main", "menu", "nav", "ol", "pre", "search", "section", "select", "summary", "ul"]

/-- The rule for an end tag in a body. -/
def endInBody (b : Builder) (name : String) : Builder :=
  if endedBlocks.contains name then b.endScoped [name]
  else if headingTags.contains name then
    if b.inScope headingTags then (b.closeImplied []).popUntil headingTags else b
  else if formattingTags.contains name || name = "a" || name = "nobr" then b.closeFormatting name
  else
    match name with
    | "template" => b.endTemplate
    | "form" => b.endForm
    | "p" => (if b.inButtonScope ["p"] then b else b.insert "p" []).closeParagraph
    | "li" =>
        if b.inListScope ["li"] then (b.closeImplied ["li"]).popUntil ["li"] else b
    | "dd" | "dt" =>
        if b.inScope [name] then (b.closeImplied [name]).popUntil [name] else b
    | "applet" | "marquee" | "object" =>
        if b.inScope [name] then ((b.closeImplied []).popUntil [name]).clearFormatting else b
    | "br" => (b.reopenFormatting.insertVoid "br" []).noFrameset
    | name => b.closeAny name

end Builder

/-- In the body. -/
def ruleInBody : Rule := fun b token =>
  match token with
  | .null | .doctype => done b
  | .blank chars => done (b.reopenFormatting.insertText chars)
  | .text chars => done (b.reopenFormatting.insertText chars).noFrameset
  | .comment => done b.insertComment
  | .startTag name attrs selfClosing => done (b.startInBody name attrs selfClosing)
  | .endTag "body" => done (if b.inScope ["body"] then b.goTo .afterBody else b)
  | .endTag "html" => if b.inScope ["body"] then again (b.goTo .afterBody) token else done b
  | .endTag name => done (b.endInBody name)
  | .eof => if b.templateModes.isEmpty then done { b with stopped := true } else b.endInTemplate

/-- After the body. -/
def ruleAfterBody : Rule := fun b token =>
  match token with
  | .blank _ => ruleInBody b token
  | .comment => done b
  | .doctype => done b
  | .startTag "html" attrs _ => done (b.mergeHtml attrs)
  | .endTag "html" => done (if b.isFragment then b else b.goTo .afterAfterBody)
  | .eof => done { b with stopped := true }
  | token => again (b.goTo .inBody) token

/-- After the document. -/
def ruleAfterAfterBody : Rule := fun b token =>
  match token with
  | .blank _ => ruleInBody b token
  | .comment | .doctype => done b
  | .startTag "html" attrs _ => done (b.mergeHtml attrs)
  | .eof => done { b with stopped := true }
  | token => again (b.goTo .inBody) token

/-- In a set of frames. -/
def ruleInFrameset : Rule := fun b token =>
  match token with
  | .blank chars => done (b.insertText chars)
  | .comment => done b.insertComment
  | .startTag "html" attrs _ => done (b.mergeHtml attrs)
  | .startTag "frameset" attrs _ => done (b.insert "frameset" attrs)
  | .startTag "frame" attrs _ => done (b.insertVoid "frame" attrs)
  | .startTag "noframes" attrs _ => done (b.startInHead "noframes" attrs)
  | .endTag "frameset" =>
      if b.stack.length ≤ 1 then done b
      else
        let b := b.pop
        done (if !b.isFragment && !b.currentIs ["frameset"] then b.goTo .afterFrameset else b)
  | .eof => done { b with stopped := true }
  | _ => done b

/-- After a set of frames. -/
def ruleAfterFrameset : Rule := fun b token =>
  match token with
  | .blank chars => done (b.insertText chars)
  | .comment => done b.insertComment
  | .startTag "html" attrs _ => done (b.mergeHtml attrs)
  | .startTag "noframes" attrs _ => done (b.startInHead "noframes" attrs)
  | .endTag "html" => done (b.goTo .afterAfterFrameset)
  | .eof => done { b with stopped := true }
  | _ => done b

/-- After a document of frames. -/
def ruleAfterAfterFrameset : Rule := fun b token =>
  match token with
  | .blank _ => ruleInBody b token
  | .startTag "html" attrs _ => done (b.mergeHtml attrs)
  | .startTag "noframes" attrs _ => done (b.startInHead "noframes" attrs)
  | .eof => done { b with stopped := true }
  | _ => done b

end PostPress.Html
