/-!
# PostPress.Markdown.Error

Why a source cannot be read. Most text is valid; only the tags of components and
the braces of expressions can be wrong.
-/

namespace PostPress.Markdown

/-- A reason why a source cannot be read. -/
inductive SourceError
  /-- A tag holds a character that cannot stand there. -/
  | malformedTag
  /-- A brace or a quotation mark of a tag is never closed. -/
  | unclosedExpression
  /-- A component is not closed where it was opened. -/
  | unclosedTag (name : String)
  /-- A tag closes a component that is not open. -/
  | unexpectedClosingTag (name : String)
  /-- A tag or an expression goes on in a line outside its container. -/
  | lazyLine
deriving DecidableEq, Repr

/-- The reason as text. -/
def SourceError.message : SourceError → String
  | .malformedTag => "unexpected character in a tag"
  | .unclosedExpression => "expected a closing brace or quotation mark"
  | .unclosedTag name => "expected a closing tag for <" ++ name ++ ">"
  | .unexpectedClosingTag name => "unexpected closing tag </" ++ name ++ ">"
  | .lazyLine => "unexpected line outside its container"

end PostPress.Markdown
