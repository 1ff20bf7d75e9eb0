import PostPress.Html.Construction.Formatting

/-!
# PostPress.Html.Construction.Head

The rules for tokens up to the body: the document, its head, and the elements
that belong into a head wherever they stand.

A rule takes the state and a token, and gives the state and the token that is to
be looked at again, if one is: then the mode has changed.
-/

namespace PostPress.Html

/-- A rule of tree construction. -/
abbrev Rule := Builder → Token → Builder × Option Token

/-- The token has been used. -/
def done (b : Builder) : Builder × Option Token := (b, none)

/-- The token is to be looked at again. -/
def again (b : Builder) (token : Token) : Builder × Option Token := (b, some token)

namespace Builder

/-- The attributes of a second `html` tag go to the `html` element, except inside
a template. -/
def mergeHtml (b : Builder) (attrs : List Attribute) : Builder :=
  if b.isOpen "template" then b
  else
    match b.stack.getLast? with
    | some root => { b with dom := b.dom.addMissing root attrs }
    | none => b

/-- Leave a template. -/
def closeTemplate (b : Builder) : Builder :=
  let b := (b.popUntil ["template"]).clearFormatting
  { b with templateModes := b.templateModes.drop 1 }.resetMode

/-- Close the document when its end is met inside a template: one template is
closed, and the end is met again. -/
def endInTemplate (b : Builder) : Builder × Option Token :=
  if b.isOpen "template" then again b.closeTemplate .eof else done { b with stopped := true }

/-- The tags that belong into a head. -/
def headTags : List String :=
  ["base", "basefont", "bgsound", "link", "meta", "noframes", "script", "style", "template",
   "title"]

/-- The rule for a start tag that belongs into a head. -/
def startInHead (b : Builder) (name : String) (attrs : List Attribute) : Builder :=
  match name with
  | "title" => b.insertTextElement name attrs (.references name)
  | "noframes" | "noscript" | "style" => b.insertTextElement name attrs (.raw name)
  | "script" => b.insertTextElement name attrs .script
  | "template" =>
      let b := ((b.insert name attrs).pushMarker).noFrameset
      { b with mode := .inTemplate, templateModes := .inTemplate :: b.templateModes }
  | name => b.insertVoid name attrs

/-- The rule for the end tag of a template. -/
def endTemplate (b : Builder) : Builder :=
  if b.isOpen "template" then b.closeImpliedThoroughly.closeTemplate else b

end Builder

/-- Before anything: a document without a type may hold tables in paragraphs. -/
def ruleInitial : Rule := fun b token =>
  match token with
  | .blank _ | .comment => done b
  | .doctype => done (b.goTo .beforeHtml)
  | token => again ({ b with tableInParagraph := true }.goTo .beforeHtml) token

/-- Make the `html` element. -/
def Builder.createRoot (b : Builder) (attrs : List Attribute) : Builder :=
  let (id, dom) := b.dom.createElement .html "html" attrs
  { b with dom := dom.append Dom.document id, stack := [id] }

/-- Before the `html` element. -/
def ruleBeforeHtml : Rule := fun b token =>
  let fallback := again ((b.createRoot []).goTo .beforeHead) token
  match token with
  | .doctype | .comment | .blank _ => done b
  | .startTag "html" attrs _ => done ((b.createRoot attrs).goTo .beforeHead)
  | .endTag name => if ["head", "body", "html", "br"].contains name then fallback else done b
  | _ => fallback

/-- Open the head. -/
def Builder.openHead (b : Builder) (attrs : List Attribute) : Builder :=
  let (id, b) := b.insertNode "head" attrs
  { b with head := some id, mode := .inHead }

/-- Before the head. -/
def ruleBeforeHead : Rule := fun b token =>
  let fallback := again (b.openHead []) token
  match token with
  | .blank _ | .doctype => done b
  | .comment => done b.insertComment
  | .startTag "html" attrs _ => done (b.mergeHtml attrs)
  | .startTag "head" attrs _ => done (b.openHead attrs)
  | .endTag name => if ["head", "body", "html", "br"].contains name then fallback else done b
  | _ => fallback

/-- In the head. -/
def ruleInHead : Rule := fun b token =>
  let fallback := again (b.pop.goTo .afterHead) token
  match token with
  | .blank chars => done (b.insertText chars)
  | .comment => done b.insertComment
  | .doctype => done b
  | .startTag "html" attrs _ => done (b.mergeHtml attrs)
  | .startTag "head" _ _ => done b
  | .startTag name attrs _ =>
      if Builder.headTags.contains name || name = "noscript" then done (b.startInHead name attrs)
      else fallback
  | .endTag "head" => done (b.pop.goTo .afterHead)
  | .endTag "template" => done b.endTemplate
  | .endTag name => if ["body", "html", "br"].contains name then fallback else done b
  | _ => fallback

/-- Between the head and the body. -/
def ruleAfterHead : Rule := fun b token =>
  let fallback := again ((b.insert "body" []).goTo .inBody) token
  match token with
  | .blank chars => done (b.insertText chars)
  | .comment => done b.insertComment
  | .doctype => done b
  | .startTag "html" attrs _ => done (b.mergeHtml attrs)
  | .startTag "body" attrs _ => done ((b.insert "body" attrs).noFrameset.goTo .inBody)
  | .startTag "frameset" attrs _ => done ((b.insert "frameset" attrs).goTo .inFrameset)
  | .startTag "head" _ _ => done b
  | .startTag name attrs _ =>
      if Builder.headTags.contains name then
        match b.head with
        | some head =>
            let b := (b.pushOpen head).startInHead name attrs
            done (b.removeOpen head)
        | none => done (b.startInHead name attrs)
      else fallback
  | .endTag "template" => done b.endTemplate
  | .endTag name => if ["body", "html", "br"].contains name then fallback else done b
  | _ => fallback

/-- In an element that holds only text. -/
def ruleText : Rule := fun b token =>
  match token with
  | .text chars | .blank chars => done (b.insertText chars)
  | .endTag _ => done (b.pop.goTo b.returnMode)
  | .eof => again (b.pop.goTo b.returnMode) .eof
  | _ => done b

end PostPress.Html
