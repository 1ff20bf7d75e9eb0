import PostPress.Config
import PostPress.Embed.Placement
import PostPress.Heading.Extract
import PostPress.Markdown.Document
import PostPress.Markdown.Tree
import PostPress.Normalize
import PostPress.Sanitize.Sanitizer

/-!
# PostPress.Pipeline

The way of a document from its source, or its tree, to what is shown: foreign
nodes become elements, links become players, headings get ids and the outline is
taken, and the sanitizer comes last, with an allow-list that was extended for
what the stages before it put in.

* `Pipeline.ofConfig`, `Pipeline.withSanitizer` — the stages of a configuration;
* `Pipeline.process` — from a tree;
* `Pipeline.render` — from a source.
-/

namespace PostPress

/-- A document ready to be shown. -/
structure Rendered where
  /-- The tree. -/
  tree : Node
  /-- The outline. -/
  toc : List TocEntry

/-- Why a source cannot be shown. -/
inductive RenderError
  /-- The source cannot be read. -/
  | source (error : Markdown.SourceError)
  /-- The tree cannot be sanitized. -/
  | sanitizer (error : SanitizeError)
deriving DecidableEq, Repr

/-- What comes last: a function on trees that may fail. -/
abbrev Sanitizer := Node → Except SanitizeError Node

/-- A fixed sequence of stages. -/
structure Pipeline where
  /-- Whether links become players. -/
  embeds : Bool
  /-- The last stage. -/
  sanitizer : Sanitizer

namespace Pipeline

/-- What the allow-list is extended by for the stages before the sanitizer. -/
def stageExtension (embeds : Bool) : SchemaExtension :=
  let base := SchemaExtension.formatting.merge .footnotes
  if embeds then base.merge .embeds else base

/-- The allow-list of a configuration. -/
def schema (config : Config) : Schema :=
  (Schema.default.extend (stageExtension config.embeds)).extend config.sanitize

/-- The pipeline of a configuration, with another sanitizer. -/
def withSanitizer (config : Config) (sanitizer : Sanitizer) : Pipeline :=
  ⟨config.embeds, sanitizer⟩

/-- The pipeline of a configuration. -/
def ofConfig (config : Config) : Pipeline := withSanitizer config (schema config).sanitize

/-- The names of the stages, in order. -/
def stageNames (p : Pipeline) : List String :=
  "normalize" :: (if p.embeds then ["embed"] else []) ++ ["toc", "sanitize"]

/-- A pipeline as its name and the names of its stages. -/
def describe (p : Pipeline) : String :=
  "Pipeline \x7b stages: [" ++
    ", ".intercalate (p.stageNames.map fun name => "\"" ++ name ++ "\"") ++ "] \x7d"

/-- What reaches the sanitizer, and the outline. -/
def prepare (p : Pipeline) (tree : Node) : List TocEntry × Node :=
  let tree := normalize tree
  extractToc (if p.embeds then (placeEmbeds tree).2 else tree)

/-- Run every stage on a tree. -/
def process (p : Pipeline) (tree : Node) : Except SanitizeError Rendered :=
  let (toc, tree) := p.prepare tree
  (p.sanitizer tree).map fun tree => ⟨tree, toc⟩

/-- Read a source and run every stage on its tree. -/
def render (p : Pipeline) (source : String) : Except RenderError Rendered :=
  match Markdown.read source with
  | .error e => .error (.source e)
  | .ok document => (p.process document.toTree).mapError .sanitizer

end Pipeline

end PostPress
