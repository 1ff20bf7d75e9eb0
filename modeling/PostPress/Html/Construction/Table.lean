import PostPress.Html.Construction.Body

/-!
# PostPress.Html.Construction.Table

The rules for tokens in tables and templates. Parts of a table that are left out
are supplied, and what cannot be in a table is put before it.
-/

namespace PostPress.Html

/-- The rule of the body, for what cannot be in a table. -/
def ruleFostered : Rule := fun b token =>
  let (b, token) := ruleInBody { b with fostering := true } token
  ({ b with fostering := false }, token)

namespace Builder

/-- Close elements up to the table. -/
def clearToTable (b : Builder) : Builder := b.clearTo ["table", "template", "html"]

/-- Close elements up to the group of rows. -/
def clearToRows (b : Builder) : Builder :=
  b.clearTo ["tbody", "tfoot", "thead", "template", "html"]

/-- Close elements up to the row. -/
def clearToRow (b : Builder) : Builder := b.clearTo ["tr", "template", "html"]

/-- The rule for a form in a table: it stays empty. -/
def startTableForm (b : Builder) (attrs : List Attribute) : Builder :=
  if b.isOpen "template" || b.form.isSome then b
  else
    let (id, b) := b.insertClosed .html "form" attrs
    { b with form := some id }

/-- Put the text found in a table: blanks into it, anything else before it. -/
def flushTableText (b : Builder) : Builder :=
  let parts := b.tableText.reverse
  let b := { b with tableText := [], mode := b.returnMode }
  if parts.all (·.all isTextBlank) then parts.foldl insertText b
  else
    parts.foldl (fun b chars =>
      (ruleFostered b (if chars.all isTextBlank then .blank chars else .text chars)).1) b

/-- Leave a caption. -/
def closeCaption (b : Builder) : Builder :=
  (((b.closeImplied []).popUntil ["caption"]).clearFormatting).goTo .inTable

/-- Leave a cell. -/
def closeCell (b : Builder) : Builder :=
  (((b.closeImplied []).popUntil ["td", "th"]).clearFormatting).goTo .inRow

/-- Leave a row. -/
def closeRow (b : Builder) : Builder := b.clearToRow.pop.goTo .inTableBody

/-- Leave a group of rows. -/
def closeRows (b : Builder) : Builder := b.clearToRows.pop.goTo .inTable

end Builder

/-- In a table. -/
def ruleInTable : Rule := fun b token =>
  let inTable := b.currentIs ["table", "tbody", "template", "tfoot", "thead", "tr"]
  match token with
  | .text _ | .blank _ | .null =>
      if inTable then again { b with mode := .inTableText, returnMode := b.mode } token
      else ruleFostered b token
  | .comment => done b.insertComment
  | .doctype => done b
  | .startTag name attrs _ =>
      match name with
      | "caption" => done ((b.clearToTable.pushMarker.insert name attrs).goTo .inCaption)
      | "colgroup" => done ((b.clearToTable.insert name attrs).goTo .inColumnGroup)
      | "col" => again ((b.clearToTable.insert "colgroup" []).goTo .inColumnGroup) token
      | "tbody" | "tfoot" | "thead" => done ((b.clearToTable.insert name attrs).goTo .inTableBody)
      | "td" | "th" | "tr" => again ((b.clearToTable.insert "tbody" []).goTo .inTableBody) token
      | "table" =>
          if b.inTableScope ["table"] then again (b.popUntil ["table"]).resetMode token
          else done b
      | "style" | "script" | "template" => done (b.startInHead name attrs)
      | "input" =>
          if Builder.isHidden attrs then done (b.insertVoid name attrs) else ruleFostered b token
      | "form" => done (b.startTableForm attrs)
      | _ => ruleFostered b token
  | .endTag name =>
      match name with
      | "table" => done (if b.inTableScope ["table"] then (b.popUntil ["table"]).resetMode else b)
      | "body" | "caption" | "col" | "colgroup" | "html" | "tbody" | "td" | "tfoot" | "th"
      | "thead" | "tr" => done b
      | "template" => done b.endTemplate
      | _ => ruleFostered b token
  | .eof => ruleInBody b token

/-- In text directly in a table. -/
def ruleInTableText : Rule := fun b token =>
  match token with
  | .null => done b
  | .text chars | .blank chars => done { b with tableText := chars :: b.tableText }
  | token => again b.flushTableText token

/-- Parts of a table that end a caption or a cell when they begin. -/
def tablePartTags : List String :=
  ["caption", "col", "colgroup", "tbody", "td", "tfoot", "th", "thead", "tr"]

/-- In the caption of a table. -/
def ruleInCaption : Rule := fun b token =>
  let leave := if b.inTableScope ["caption"] then again b.closeCaption token else done b
  match token with
  | .startTag name _ _ => if tablePartTags.contains name then leave else ruleInBody b token
  | .endTag name =>
      match name with
      | "caption" => done (if b.inTableScope ["caption"] then b.closeCaption else b)
      | "table" => leave
      | "body" | "col" | "colgroup" | "html" | "tbody" | "td" | "tfoot" | "th" | "thead" | "tr" =>
          done b
      | _ => ruleInBody b token
  | _ => ruleInBody b token

/-- In a group of columns. -/
def ruleInColumnGroup : Rule := fun b token =>
  let leave := if b.currentIs ["colgroup"] then again (b.pop.goTo .inTable) token else done b
  match token with
  | .blank chars => done (b.insertText chars)
  | .comment => done b.insertComment
  | .doctype => done b
  | .startTag "html" attrs _ => done (b.mergeHtml attrs)
  | .startTag "col" attrs _ => done (b.insertVoid "col" attrs)
  | .startTag "template" attrs _ => done (b.startInHead "template" attrs)
  | .endTag "colgroup" => done (if b.currentIs ["colgroup"] then b.pop.goTo .inTable else b)
  | .endTag "col" => done b
  | .endTag "template" => done b.endTemplate
  | .eof => ruleInBody b token
  | _ => leave

/-- In a group of rows. -/
def ruleInTableBody : Rule := fun b token =>
  let rows := ["tbody", "thead", "tfoot"]
  let leave := if b.inTableScope rows then again b.closeRows token else done b
  match token with
  | .startTag name attrs _ =>
      match name with
      | "tr" => done ((b.clearToRows.insert name attrs).goTo .inRow)
      | "th" | "td" => again ((b.clearToRows.insert "tr" []).goTo .inRow) token
      | "caption" | "col" | "colgroup" | "tbody" | "tfoot" | "thead" => leave
      | _ => ruleInTable b token
  | .endTag name =>
      match name with
      | "tbody" | "tfoot" | "thead" => done (if b.inTableScope [name] then b.closeRows else b)
      | "table" => leave
      | "body" | "caption" | "col" | "colgroup" | "html" | "td" | "th" | "tr" => done b
      | _ => ruleInTable b token
  | _ => ruleInTable b token

/-- In a row. -/
def ruleInRow : Rule := fun b token =>
  let leave := if b.inTableScope ["tr"] then again b.closeRow token else done b
  match token with
  | .startTag name attrs _ =>
      match name with
      | "th" | "td" => done (((b.clearToRow.insert name attrs).goTo .inCell).pushMarker)
      | "caption" | "col" | "colgroup" | "tbody" | "tfoot" | "thead" | "tr" => leave
      | _ => ruleInTable b token
  | .endTag name =>
      match name with
      | "tr" => done (if b.inTableScope ["tr"] then b.closeRow else b)
      | "table" => leave
      | "tbody" | "tfoot" | "thead" => if b.inTableScope [name] then leave else done b
      | "body" | "caption" | "col" | "colgroup" | "html" | "td" | "th" => done b
      | _ => ruleInTable b token
  | _ => ruleInTable b token

/-- In a cell. -/
def ruleInCell : Rule := fun b token =>
  match token with
  | .startTag name _ _ =>
      if tablePartTags.contains name then
        if b.inTableScope ["td", "th"] then again b.closeCell token else done b
      else ruleInBody b token
  | .endTag name =>
      match name with
      | "td" | "th" =>
          done (if b.inTableScope [name] then
            (((b.closeImplied []).popUntil [name]).clearFormatting).goTo .inRow else b)
      | "body" | "caption" | "col" | "colgroup" | "html" => done b
      | "table" | "tbody" | "tfoot" | "thead" | "tr" =>
          if b.inTableScope [name] then again b.closeCell token else done b
      | _ => ruleInBody b token
  | _ => ruleInBody b token

/-- Go on in a template as the first start tag in it asks. -/
def Builder.templateAs (b : Builder) (mode : Mode) : Builder :=
  { b with templateModes := mode :: b.templateModes.drop 1, mode }

/-- In a template. -/
def ruleInTemplate : Rule := fun b token =>
  match token with
  | .text _ | .blank _ | .null | .comment | .doctype => ruleInBody b token
  | .startTag name attrs _ =>
      if Builder.headTags.contains name then done (b.startInHead name attrs)
      else
        match name with
        | "caption" | "colgroup" | "tbody" | "tfoot" | "thead" =>
            again (b.templateAs .inTable) token
        | "col" => again (b.templateAs .inColumnGroup) token
        | "tr" => again (b.templateAs .inTableBody) token
        | "td" | "th" => again (b.templateAs .inRow) token
        | _ => again (b.templateAs .inBody) token
  | .endTag "template" => done b.endTemplate
  | .endTag _ => done b
  | .eof => b.endInTemplate

end PostPress.Html
