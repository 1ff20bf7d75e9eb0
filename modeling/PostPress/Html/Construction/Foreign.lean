import PostPress.Html.Construction.Head
import PostPress.Text.Blank

/-!
# PostPress.Html.Construction.Foreign

SVG and MathML inside HTML: the spelling of their names, which tags lead out of
them, and the rules for tokens inside them.
-/

namespace PostPress.Html

/-- The SVG elements whose names have capitals. -/
def svgElementNames : List String :=
  ["altGlyph", "altGlyphDef", "altGlyphItem", "animateColor", "animateMotion", "animateTransform",
   "clipPath", "feBlend", "feColorMatrix", "feComponentTransfer", "feComposite",
   "feConvolveMatrix", "feDiffuseLighting", "feDisplacementMap", "feDistantLight", "feDropShadow",
   "feFlood", "feFuncA", "feFuncB", "feFuncG", "feFuncR", "feGaussianBlur", "feImage", "feMerge",
   "feMergeNode", "feMorphology", "feOffset", "fePointLight", "feSpecularLighting", "feSpotLight",
   "feTile", "feTurbulence", "foreignObject", "glyphRef", "linearGradient", "radialGradient",
   "textPath"]

/-- The SVG attributes whose names have capitals. -/
def svgAttributeNames : List String :=
  ["attributeName", "attributeType", "baseFrequency", "baseProfile", "calcMode", "clipPathUnits",
   "diffuseConstant", "edgeMode", "filterUnits", "glyphRef", "gradientTransform", "gradientUnits",
   "kernelMatrix", "kernelUnitLength", "keyPoints", "keySplines", "keyTimes", "lengthAdjust",
   "limitingConeAngle", "markerHeight", "markerUnits", "markerWidth", "maskContentUnits",
   "maskUnits", "numOctaves", "pathLength", "patternContentUnits", "patternTransform",
   "patternUnits", "pointsAtX", "pointsAtY", "pointsAtZ", "preserveAlpha", "preserveAspectRatio",
   "primitiveUnits", "refX", "refY", "repeatCount", "repeatDur", "requiredExtensions",
   "requiredFeatures", "specularConstant", "specularExponent", "spreadMethod", "startOffset",
   "stdDeviation", "stitchTiles", "surfaceScale", "systemLanguage", "tableValues", "targetX",
   "targetY", "textLength", "viewBox", "viewTarget", "xChannelSelector", "yChannelSelector",
   "zoomAndPan"]

/-- A name in its spelling with capitals, if the list has it. -/
def withCapitals (names : List String) (name : String) : String :=
  (names.find? fun n => Text.asciiLower n == name).getD name

/-- Attributes of other vocabularies: the vocabulary and the name in it. -/
def foreignAttribute? (name : String) : Option (AttrSpace × String) :=
  match name with
  | "xlink:actuate" => some (.xlink, "actuate")
  | "xlink:arcrole" => some (.xlink, "arcrole")
  | "xlink:href" => some (.xlink, "href")
  | "xlink:role" => some (.xlink, "role")
  | "xlink:show" => some (.xlink, "show")
  | "xlink:title" => some (.xlink, "title")
  | "xlink:type" => some (.xlink, "type")
  | "xml:lang" => some (.xml, "lang")
  | "xml:space" => some (.xml, "space")
  | "xmlns" => some (.xmlns, "xmlns")
  | "xmlns:xlink" => some (.xmlns, "xlink")
  | _ => none

/-- An attribute as an element of a vocabulary has it. -/
def adjustAttribute (space : Space) (attr : Attribute) : Attribute :=
  let name :=
    match space with
    | .html => attr.name
    | .svg => withCapitals svgAttributeNames attr.name
    | .mathml => if attr.name = "definitionurl" then "definitionURL" else attr.name
  match foreignAttribute? name with
  | some (space, name) => ⟨space, name, attr.value⟩
  | none => { attr with name }

namespace Builder

/-- Put an element of another vocabulary into the tree, and open it unless it
closes itself. -/
def insertForeign (b : Builder) (space : Space) (name : String) (attrs : List Attribute)
    (selfClosing : Bool) : Builder :=
  let name := if space = .svg then withCapitals svgElementNames name else name
  let (id, b) := b.insertClosed space name (attrs.map (adjustAttribute space))
  if selfClosing then b else b.pushOpen id

/-- Whether a MathML annotation holds HTML. -/
def annotationHoldsHtml (b : Builder) (id : Nat) : Bool :=
  b.annotationsHoldHtml && (b.dom.attributes id).any fun attr =>
    attr.space == .none && attr.name == "encoding" &&
      ["text/html", "application/xhtml+xml"].contains (Text.asciiLower attr.value)

/-- Whether a token falls under the rules for other vocabularies. -/
def isForeign (b : Builder) (token : Token) : Bool :=
  match b.stack with
  | [] => false
  | id :: _ =>
      match b.dom.name? id, token with
      | none, _ | some (.html, _), _ | _, .eof => false
      | some (.mathml, name), .startTag tag _ _ =>
          if isMathText (.mathml, name) then ["mglyph", "malignmark"].contains tag
          else !(name = "annotation-xml" && (tag = "svg" || b.annotationHoldsHtml id))
      | some (.svg, name), .startTag .. => !isSvgHtml (.svg, name)
      | some (.mathml, name), .text _
      | some (.mathml, name), .blank _
      | some (.mathml, name), .null =>
          !isMathText (.mathml, name) && !(name = "annotation-xml" && b.annotationHoldsHtml id)
      | some (.svg, name), .text _ | some (.svg, name), .blank _ | some (.svg, name), .null =>
          !isSvgHtml (.svg, name)
      | _, _ => true

/-- HTML tags that lead out of other vocabularies. -/
def breakoutTags : List String :=
  ["b", "big", "blockquote", "body", "br", "center", "code", "dd", "div", "dl", "dt", "em",
   "embed", "h1", "h2", "h3", "h4", "h5", "h6", "head", "hr", "i", "img", "li", "listing", "menu",
   "meta", "nobr", "ol", "p", "pre", "ruby", "s", "small", "span", "strong", "strike", "sub",
   "sup", "table", "tt", "u", "ul", "var"]

/-- Close the elements of other vocabularies, up to one that holds HTML. -/
def leaveForeign (b : Builder) : Builder :=
  let stays (id : Nat) : Bool :=
    match b.dom.name? id with
    | some (.html, _) => true
    | some name => isMathText name || isSvgHtml name
    | none => true
  { b with stack := b.stack.dropWhile (!stays ·) }

/-- The innermost element that an end tag closes, if elements of other
vocabularies reach so far; nothing if an HTML element comes first. -/
def foreignToClose (b : Builder) (name : String) : List Nat → Option Nat
  | [] | [_] => none
  | id :: rest =>
      match b.dom.name? id with
      | some (.html, _) | none => none
      | some (_, n) => if Text.asciiLower n = name then some id else b.foreignToClose name rest

end Builder

/-- The rules inside other vocabularies; `html` is the rule of the present mode. -/
def ruleForeign (html : Rule) : Rule := fun b token =>
  match token with
  | .null => done (b.insertText [replacement])
  | .blank chars => done (b.insertText chars)
  | .text chars => done (b.insertText chars).noFrameset
  | .comment => done b.insertComment
  | .doctype => done b
  | .startTag name attrs selfClosing =>
      let leaves :=
        Builder.breakoutTags.contains name ||
          (name = "font" && attrs.any fun attr => ["color", "face", "size"].contains attr.name)
      if leaves then html b.leaveForeign token
      else
        match b.current? with
        | some (space, _) => done (b.insertForeign space name attrs selfClosing)
        | none => done b
  | .endTag name =>
      if name = "br" || name = "p" then html b.leaveForeign token
      else
        match b.foreignToClose name b.stack with
        | some id => done (b.popThrough id)
        | none =>
            let stack := b.stack.dropWhile fun id =>
              match b.dom.name? id with
              | some (.html, _) | none => false
              | _ => true
            -- Only the outermost element is left: the tag closes nothing.
            if stack.length ≤ 1 then done b else html b token
  | .eof => html b token

end PostPress.Html
