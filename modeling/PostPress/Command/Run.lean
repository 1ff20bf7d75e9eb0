import PostPress.Command.Arguments
import PostPress.Command.Storage
import PostPress.Html.Navigation
import PostPress.Json.Writer
import PostPress.Pipeline

/-!
# PostPress.Command.Run

What a command does.

* `Failure` — why a job fails, its text and its exit status;
* `Job.page` — what a job writes, as a function of a source and a configuration;
* `Job.perform` — a job, over any `Storage`;
* `run` — a command line, and the `Response` to it.

The configuration is read before the source. Nothing is written before everything
else has succeeded.
-/

namespace PostPress.Command

/-! ### Failures -/

/-- Why a job fails. -/
inductive Failure
  /-- A file cannot be read as text, or standard input cannot. -/
  | unreadable (path : String)
  /-- A file cannot be written. -/
  | unwritable (path : String)
  /-- The configuration is not one. -/
  | configuration (path : String)
  /-- The document cannot be shown. -/
  | rendering (error : RenderError)
deriving DecidableEq, Repr

namespace Failure

/-- The reason as text. -/
def message : Failure → String
  | .unreadable path => "I/O error: cannot read text from " ++ path
  | .unwritable path => "I/O error: cannot write " ++ path
  | .configuration path => "invalid configuration: " ++ path
  | .rendering (.source e) => "content unavailable: " ++ e.message
  | .rendering (.sanitizer (.attributesOfStrippedTag tag)) =>
      "invalid sanitizer: attributes of <" ++ tag ++ ">, which goes with its content"

/-- The exit status. A sanitizer that contradicts itself is a fault of its own
kind. -/
def status : Failure → Nat
  | .rendering (.sanitizer _) => 101
  | _ => 1

end Failure

/-! ### Jobs -/

namespace Job

/-- A document in the form that the job asks for. -/
def format (job : Job) (rendered : Rendered) : String :=
  if job.asJson then tocToJson rendered.toc ++ "\n"
  else if job.outlineOnly then tocToHtml rendered.toc none
  else toHtml rendered.tree

/-- A configuration with what the job says of it. -/
def adjust (job : Job) (config : Config) : Config :=
  if job.plainLinks then { config with embeds := false } else config

/-- What is written for a source, and the number of its headings. -/
def page (job : Job) (config : Config) (source : String) : Except Failure (String × Nat) :=
  match (Pipeline.ofConfig (job.adjust config)).render source with
  | .error e => .error (.rendering e)
  | .ok rendered => .ok (job.format rendered, (flattenIds rendered.toc).length)

/-- The message of a job that has written a file. -/
def notice (job : Job) (path : String) (headings : Nat) : String :=
  if job.quiet then ""
  else "Rendered " ++ job.input ++ " -> " ++ path ++ " (" ++ headings.repr ++ " headings)\n"

variable {m : Type → Type} [Monad m] [Storage m]

/-- The configuration of a job. -/
def readConfig (job : Job) : ExceptT Failure m Config :=
  match job.config with
  | none => pure .default
  | some path => do
      match ← Storage.read (m := m) path with
      | none => throw (.unreadable path)
      | some text =>
          match Config.ofText? text with
          | none => throw (.configuration path)
          | some config => pure config

/-- The source of a job. -/
def readSource (job : Job) : ExceptT Failure m String := do
  let source? : Option String ←
    if job.input = "-" then Storage.readInput (m := m) else Storage.read (m := m) job.input
  match source? with
  | none => throw (.unreadable job.input)
  | some source => pure source

/-- Do a job: what goes to standard output, and the message. -/
def perform (job : Job) : ExceptT Failure m (String × String) := do
  let config ← job.readConfig
  let source ← job.readSource
  let (text, headings) ← ExceptT.mk (pure (job.page config source))
  match job.output with
  | none => pure (text, "")
  | some path =>
      if ← Storage.write (m := m) path text then pure ("", job.notice path headings)
      else throw (.unwritable path)

end Job

/-! ### Command lines -/

/-- What a command leaves behind. -/
structure Response where
  /-- The exit status. -/
  status : Nat
  /-- What goes to standard output. -/
  output : String
  /-- What goes to standard error. -/
  messages : String
deriving DecidableEq, Repr

/-- The line that tells the version. -/
def versionLine : String := "folio 0.1.0\n"

/-- How the program is used. -/
def usageLines : List String :=
  ["Render Markdown/MDX posts to sanitized HTML",
    "",
    "Usage: folio [OPTIONS] <INPUT> [OUTPUT]",
    "",
    "Arguments:",
    "  <INPUT>   Input file, or - for stdin",
    "  [OUTPUT]  Output file (stdout if omitted)",
    "",
    "Options:",
    "      --toc            Print the table of contents instead of the body",
    "      --json           With --toc, print JSON instead of HTML",
    "      --no-embeds      Leave Drive and YouTube links as plain links",
    "  -c, --config <FILE>  JSON configuration file",
    "  -q, --quiet          Suppress output messages",
    "  -h, --help           Print help",
    "  -V, --version        Print version"]

/-- How the program is used, as text. -/
def usage : String := "\n".intercalate usageLines ++ "\n"

/-- Do what a command line asks for. -/
def run {m : Type → Type} [Monad m] [Storage m] (words : List String) : m Response :=
  match Request.ofWords words with
  | .error e => pure ⟨2, "", "error: " ++ e.message ++ "\n\n" ++ usage⟩
  | .ok .version => pure ⟨0, versionLine, ""⟩
  | .ok .help => pure ⟨0, usage, ""⟩
  | .ok (.render job) => do
      match ← job.perform.run with
      | .error e => pure ⟨e.status, "", "error: " ++ e.message ++ "\n"⟩
      | .ok (output, messages) => pure ⟨0, output, messages⟩

end PostPress.Command
