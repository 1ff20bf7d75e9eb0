/-!
# PostPress.Command.Arguments

The words of a command line: `INPUT [OUTPUT]` and options.

* `Request` — what a command line asks for: a `Job`, the version or the help;
* `UsageError` — why it asks for nothing;
* `Draft` — a job in the making, word by word: `Draft.read`;
* `Request.ofWords` — the whole command line.

Options may stand anywhere before a word `--`. Long ones take their value behind
`=` or from the next word. Short ones stand together behind one hyphen, and a
value is what follows in the word, or else the next word. No option stands twice.
A lone hyphen is no option.
-/

namespace PostPress.Command

/-- What to render, and how. -/
structure Job where
  /-- The file to read, or a hyphen for standard input. -/
  input : String
  /-- The file to write; standard output if there is none. -/
  output : Option String
  /-- The file with the configuration. -/
  config : Option String
  /-- Whether to write the outline in place of the document. -/
  outlineOnly : Bool
  /-- Whether to write the outline as JSON. -/
  asJson : Bool
  /-- Whether links stay links. -/
  plainLinks : Bool
  /-- Whether to write no message on success. -/
  quiet : Bool
deriving DecidableEq, Repr

/-- Why a command line asks for nothing. -/
inductive UsageError
  /-- There is no such option. -/
  | unknownOption (name : String)
  /-- The option stands twice. -/
  | repeatedOption (name : String)
  /-- The option needs a value. -/
  | missingValue (name : String)
  /-- The option takes no value. -/
  | unexpectedValue (name : String)
  /-- A word is left over. -/
  | unexpectedWord (word : String)
  /-- There is nothing to read. -/
  | missingInput
  /-- Only the outline can be written as JSON. -/
  | jsonWithoutOutline
deriving DecidableEq, Repr

/-- The reason as text. -/
def UsageError.message : UsageError → String
  | .unknownOption name => "unexpected argument '" ++ name ++ "' found"
  | .repeatedOption name => "the argument '" ++ name ++ "' cannot be used multiple times"
  | .missingValue name => "a value is required for '" ++ name ++ "' but none was supplied"
  | .unexpectedValue name => "unexpected value for '" ++ name ++ "' found; no more were expected"
  | .unexpectedWord word => "unexpected argument '" ++ word ++ "' found"
  | .missingInput => "the following required arguments were not provided: <INPUT>"
  | .jsonWithoutOutline => "the following required arguments were not provided: --toc"

/-- What a command line asks for. -/
inductive Request
  /-- Render a document. -/
  | render (job : Job)
  /-- Tell the version. -/
  | version
  /-- Tell how the program is used. -/
  | help
deriving DecidableEq, Repr

/-- What ends the reading of a command line early. -/
inductive Stop
  /-- A word that is wrong. -/
  | refused (error : UsageError)
  /-- A request that needs no other word. -/
  | answered (request : Request)
deriving DecidableEq, Repr

/-- An option without a value. -/
inductive Switch
  /-- Write the outline. -/
  | outlineOnly
  /-- Write it as JSON. -/
  | asJson
  /-- Leave links as they are. -/
  | plainLinks
  /-- Write no message. -/
  | quiet
deriving DecidableEq, Repr

/-- An option. -/
inductive Choice
  /-- One without a value. -/
  | switch (switch : Switch)
  /-- The file with the configuration. -/
  | config
  /-- One that asks for something else than rendering. -/
  | request (request : Request)
deriving DecidableEq, Repr

/-- The option of a long name. -/
def Choice.ofName : List Char → Option Choice
  | ['t', 'o', 'c'] => some (.switch .outlineOnly)
  | ['j', 's', 'o', 'n'] => some (.switch .asJson)
  | ['n', 'o', '-', 'e', 'm', 'b', 'e', 'd', 's'] => some (.switch .plainLinks)
  | ['q', 'u', 'i', 'e', 't'] => some (.switch .quiet)
  | ['c', 'o', 'n', 'f', 'i', 'g'] => some .config
  | ['v', 'e', 'r', 's', 'i', 'o', 'n'] => some (.request .version)
  | ['h', 'e', 'l', 'p'] => some (.request .help)
  | _ => none

/-- The option of a letter. -/
def Choice.ofLetter : Char → Option Choice
  | 'q' => some (.switch .quiet)
  | 'c' => some .config
  | 'V' => some (.request .version)
  | 'h' => some (.request .help)
  | _ => none

/-- A job in the making. -/
structure Draft where
  /-- The words that are no options, in order. -/
  files : List String
  /-- The switches that were set. -/
  switches : List Switch
  /-- The file with the configuration. -/
  config : Option String
deriving DecidableEq, Repr

namespace Draft

/-- Nothing said yet. -/
def empty : Draft := ⟨[], [], none⟩

/-- Take a word that is no option. There are two at most. -/
def addFile (d : Draft) (word : String) : Except Stop Draft :=
  if d.files.length < 2 then .ok { d with files := d.files ++ [word] }
  else .error (.refused (.unexpectedWord word))

/-- Set a switch. -/
def addSwitch (d : Draft) (switch : Switch) (name : String) : Except Stop Draft :=
  if switch ∈ d.switches then .error (.refused (.repeatedOption name))
  else .ok { d with switches := switch :: d.switches }

/-- Take the file with the configuration. -/
def setConfig (d : Draft) (file : String) : Except Stop Draft :=
  match d.config with
  | some _ => .error (.refused (.repeatedOption "--config"))
  | none => .ok { d with config := some file }

/-- What reading an option leads to. -/
inductive Progress
  /-- The option is complete. -/
  | done (draft : Draft)
  /-- The next word is the file with the configuration. -/
  | awaitsConfig (draft : Draft)

/-- Take the letters behind one hyphen. -/
def readLetters (d : Draft) : List Char → Except Stop Progress
  | [] => .ok (.done d)
  | letter :: rest =>
      let name := String.ofList ['-', letter]
      match Choice.ofLetter letter with
      | none => .error (.refused (.unknownOption name))
      | some (.request request) => .error (.answered request)
      | some (.switch switch) => do (← d.addSwitch switch name).readLetters rest
      | some .config =>
          match rest with
          | [] => .ok (.awaitsConfig d)
          | '=' :: file => (d.setConfig (String.ofList file)).map .done
          | file => (d.setConfig (String.ofList file)).map .done

/-- Take what follows two hyphens. -/
def readLong (d : Draft) (word : List Char) : Except Stop Progress :=
  let name := word.takeWhile (· ≠ '=')
  let shown := String.ofList ('-' :: '-' :: name)
  let value? := (word.drop name.length).tail?
  match Choice.ofName name, value? with
  | none, _ => .error (.refused (.unknownOption shown))
  | some .config, none => .ok (.awaitsConfig d)
  | some .config, some file => (d.setConfig (String.ofList file)).map .done
  | some _, some _ => .error (.refused (.unexpectedValue shown))
  | some (.request request), none => .error (.answered request)
  | some (.switch switch), none => (d.addSwitch switch shown).map .done

/-- Whether a word is an option, or marks the end of options. -/
def isOption (word : String) : Bool :=
  match word.toList with
  | '-' :: _ :: _ => true
  | _ => false

/-- Take the words of a command line. `awaiting` says whether the first one is the
file with the configuration. -/
def read (d : Draft) (awaiting : Bool) : List String → Except Stop Draft
  | [] => if awaiting then .error (.refused (.missingValue "--config")) else .ok d
  | word :: rest =>
      if awaiting then
        if isOption word then .error (.refused (.missingValue "--config"))
        else do (← d.setConfig word).read false rest
      else
        match word.toList with
        | ['-', '-'] => rest.foldlM addFile d
        | '-' :: '-' :: long => do
            match ← d.readLong long with
            | .done d => d.read false rest
            | .awaitsConfig d => d.read true rest
        | '-' :: letter :: letters => do
            match ← d.readLetters (letter :: letters) with
            | .done d => d.read false rest
            | .awaitsConfig d => d.read true rest
        | _ => do (← d.addFile word).read false rest

/-- The job, if enough was said. -/
def finish (d : Draft) : Except UsageError Job :=
  match d.files with
  | [] => .error .missingInput
  | input :: rest =>
      if .asJson ∈ d.switches ∧ .outlineOnly ∉ d.switches then .error .jsonWithoutOutline
      else .ok {
        input
        output := rest.head?
        config := d.config
        outlineOnly := decide (.outlineOnly ∈ d.switches)
        asJson := decide (.asJson ∈ d.switches)
        plainLinks := decide (.plainLinks ∈ d.switches)
        quiet := decide (.quiet ∈ d.switches) }

end Draft

/-- What a command line asks for. -/
def Request.ofWords (words : List String) : Except UsageError Request :=
  match Draft.empty.read false words with
  | .error (.refused e) => .error e
  | .error (.answered request) => .ok request
  | .ok draft => draft.finish.map .render

end PostPress.Command
