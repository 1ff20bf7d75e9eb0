import PostPress.Command.Run

/-!
# PostPress.Main

The command line, over the files and streams of the system.
-/

open PostPress.Command

instance : Storage IO where
  read path := do
    try return String.fromUTF8? (← IO.FS.readBinFile path)
    catch _ => return none
  readInput := do
    try return String.fromUTF8? (← (← IO.getStdin).readBinToEnd)
    catch _ => return none
  write path text := do
    try
      IO.FS.writeFile path text
      return true
    catch _ => return false

/-- Run one command. -/
def main (words : List String) : IO UInt32 := do
  let response : Response ← run words
  IO.print response.output
  IO.eprint response.messages
  return response.status.toUInt32
