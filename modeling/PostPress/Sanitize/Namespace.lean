import PostPress.Html.Construction.State

/-!
# PostPress.Sanitize.Namespace

Which element may stand in which, as far as vocabularies go. Markup that changes
its vocabulary when it is read again could turn text into elements, so elements
in an unexpected vocabulary are removed.
-/

namespace PostPress.Sanitize

open Html

/-- The elements of SVG. -/
def svgElements : List String :=
  ["a", "animate", "animateMotion", "animateTransform", "circle", "clipPath", "defs", "desc",
   "discard", "ellipse", "feBlend", "feColorMatrix", "feComponentTransfer", "feComposite",
   "feConvolveMatrix", "feDiffuseLighting", "feDisplacementMap", "feDistantLight",
   "feDropShadow", "feFlood", "feFuncA", "feFuncB", "feFuncG", "feFuncR", "feGaussianBlur",
   "feImage", "feMerge", "feMergeNode", "feMorphology", "feOffset", "fePointLight",
   "feSpecularLighting", "feSpotLight", "feTile", "feTurbulence", "filter", "foreignObject", "g",
   "image", "line", "linearGradient", "marker", "mask", "metadata", "mpath", "path", "pattern",
   "polygon", "polyline", "radialGradient", "rect", "script", "set", "stop", "style", "svg",
   "switch", "symbol", "text", "textPath", "title", "tspan", "use", "view"]

/-- The elements of MathML, for presentation and for content. -/
def mathmlElements : List String :=
  ["abs", "and", "annotation", "annotation-xml", "apply", "approx", "arccos", "arccosh", "arccot",
   "arccoth", "arccsc", "arccsch", "arcsec", "arcsech", "arcsin", "arcsinh", "arctan", "arctanh",
   "arg", "bind", "bvar", "card", "cartesianproduct", "cbytes", "ceiling", "cerror", "ci", "cn",
   "codomain", "complexes", "compose", "condition", "conjugate", "cos", "cosh", "cot", "coth",
   "cs", "csc", "csch", "csymbol", "curl", "declare", "degree", "determinant", "diff",
   "divergence", "divide", "domain", "domainofapplication", "emptyset", "eq", "equivalent",
   "eulergamma", "exists", "exp", "exponentiale", "factorial", "factorof", "false", "floor", "fn",
   "forall", "gcd", "geq", "grad", "gt", "ident", "image", "imaginary", "imaginaryi", "implies",
   "in", "infinity", "int", "integers", "intersect", "interval", "inverse", "lambda", "laplacian",
   "lcm", "leq", "limit", "list", "ln", "log", "logbase", "lowlimit", "lt", "maction",
   "maligngroup", "malignmark", "math", "matrix", "matrixrow", "max", "mean", "median", "menclose",
   "merror", "mfenced", "mfrac", "mglyph", "mi", "min", "minus", "mlabeledtr", "mlongdiv",
   "mmultiscripts", "mn", "mo", "mode", "moment", "momentabout", "mover", "mpadded", "mphantom",
   "mprescripts", "mroot", "mrow", "ms", "mscarries", "mscarry", "msgroup", "msline", "mspace",
   "msqrt", "msrow", "mstack", "mstyle", "msub", "msubsup", "msup", "mtable", "mtd", "mtext",
   "mtr", "munder", "munderover", "naturalnumbers", "neq", "none", "not", "notanumber", "notin",
   "notprsubset", "notsubset", "or", "otherwise", "outerproduct", "partialdiff", "pi", "piece",
   "piecewise", "plus", "power", "primes", "product", "prsubset", "quotient", "rationals", "real",
   "reals", "reln", "rem", "root", "scalarproduct", "sdev", "sec", "sech", "selector", "semantics",
   "sep", "set", "setdiff", "share", "sin", "sinh", "subset", "sum", "tan", "tanh", "tendsto",
   "times", "transpose", "true", "union", "uplimit", "variance", "vector", "vectorproduct", "xor"]

/-- Names that HTML shares with the other vocabularies. -/
def sharedElements : List String := ["title", "style", "font", "a", "script", "span"]

/-- The elements of MathML that hold other vocabularies. -/
def openMathmlElements : List String := ["mi", "mo", "mn", "ms", "mtext", "annotation-xml"]

/-- Whether a name is one of HTML: no other vocabulary has it, or HTML shares it. -/
def isHtmlName (name : String) : Bool :=
  (!svgElements.contains name && !mathmlElements.contains name) || sharedElements.contains name

/-- Whether an element may stand in another. -/
def fits (parent child : Space × String) : Bool :=
  match parent.1, child.1 with
  | .html, .svg => child.2 == "svg"
  | .html, .mathml => child.2 == "math"
  | .mathml, .html => openMathmlElements.contains parent.2 && isHtmlName child.2
  | .mathml, .svg => openMathmlElements.contains parent.2
  | .svg, .html => parent.2 == "foreignObject" && isHtmlName child.2
  | .svg, .mathml => parent.2 == "foreignObject"
  | .svg, .svg => svgElements.contains child.2
  | .mathml, .mathml => mathmlElements.contains child.2
  | .html, .html => isHtmlName child.2

end PostPress.Sanitize
