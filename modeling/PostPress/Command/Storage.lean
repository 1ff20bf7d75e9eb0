import PostPress.Collections.NameMap

/-!
# PostPress.Command.Storage

Where a command reads and writes.

* `Storage` — the services a command needs of its surroundings;
* `Workspace` — a directory with files, and a standard input, as a value.

Names of files are paths with `/` between their parts, relative to the directory.
-/

namespace PostPress.Command

/-- Reading and writing whole texts. -/
class Storage (m : Type → Type) where
  /-- The text in a file, if the file can be read and holds text. -/
  read : String → m (Option String)
  /-- The text on standard input, if it is text. -/
  readInput : m (Option String)
  /-- Put a text into a file; whether that is possible. -/
  write : String → String → m Bool

/-- What a file or a stream holds. -/
inductive Content
  /-- Text. -/
  | text (value : String)
  /-- Bytes that are not the encoding of a text. -/
  | bytes
deriving DecidableEq, Repr

/-- The text that there is. -/
def Content.text? : Content → Option String
  | .text value => some value
  | .bytes => none

/-- A directory with files, and a standard input. A file is kept under its parts
joined by `/`; the directories are those that files are in. -/
structure Workspace where
  /-- The files. -/
  files : NameMap Content
  /-- The standard input. -/
  input : Content
deriving DecidableEq

namespace Workspace

/-- The parts of a path. -/
def parts (path : String) : List String :=
  (path.toList.splitOn '/').map String.ofList

/-- The name that a file with these parts is kept under. -/
def fileName (parts : List String) : String := "/".intercalate parts

/-- Whether there is a directory with these parts. -/
def isDirectory (w : Workspace) (directory : List String) : Bool :=
  directory.isEmpty ||
    w.files.names.any fun name => (fileName directory ++ "/").toList.isPrefixOf name.toList

/-- Follow the parts of a path from a directory. Everything on the way has to be a
directory, and nothing outside the workspace can be reached. -/
def follow (w : Workspace) (directory : List String) : List String → Option (List String)
  | [] => some directory
  | part :: rest =>
      if !w.isDirectory directory then none
      else if part = "" ∨ part = "." then w.follow directory rest
      else if part = ".." then
        if directory.isEmpty then none else w.follow directory.dropLast rest
      else w.follow (directory ++ [part]) rest

/-- The name of the file that a path leads to, whether or not the file exists. A
directory is no file. -/
def locate (w : Workspace) (path : String) : Option String :=
  match path.toList with
  | [] | '/' :: _ => none
  | _ :: _ =>
      (w.follow [] (parts path)).bind fun file =>
        if w.isDirectory file then none else some (fileName file)

/-- What the file at a path holds. -/
def content? (w : Workspace) (path : String) : Option Content :=
  (w.locate path).bind w.files.get?

/-- The text in the file at a path. -/
def read? (w : Workspace) (path : String) : Option String := (w.content? path).bind Content.text?

/-- Put a text into the file at a path, if there can be one. -/
def write? (w : Workspace) (path text : String) : Option Workspace :=
  (w.locate path).map fun name => { w with files := w.files.insert name (.text text) }

/-- Put a file at a path, with the directories on the way. -/
def place (w : Workspace) (path : String) (content : Content) : Workspace :=
  let name := fileName ((parts path).filter fun part => part ≠ "" ∧ part ≠ ".")
  { w with files := w.files.insert name content }

end Workspace

instance : Storage (StateM Workspace) where
  read path := fun w => (w.read? path, w)
  readInput := fun w => (w.input.text?, w)
  write path text := fun w =>
    match w.write? path text with
    | some after => (true, after)
    | none => (false, w)

end PostPress.Command
