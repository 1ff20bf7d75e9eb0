import PostPress.Text.NamedReference

/-!
# PostPress.Text.Reference

What named character references stand for.
-/

namespace PostPress.Text

/-- The characters that a name stands for, when a semicolon follows it. -/
def namedReference? (name : List Char) : Option (List Char) :=
  match name with
  | [] => none
  | letter :: _ =>
      ((NamedReference.startingWith letter).lookup (String.ofList name)).map fun (first, second) =>
        if second = 0 then [Char.ofNat first] else [Char.ofNat first, Char.ofNat second]

/-- The longest beginning of a run of letters and digits that is a name without a
semicolon: its length, and the characters it stands for. -/
def legacyReference? (run : List Char) : Option (Nat × List Char) :=
  ((List.range' 1 (min run.length 6)).reverse).findSome? fun n =>
    let name := run.take n
    if NamedReference.withoutSemicolon.contains (String.ofList name) then
      (namedReference? name).map fun chars => (n, chars)
    else none

end PostPress.Text
