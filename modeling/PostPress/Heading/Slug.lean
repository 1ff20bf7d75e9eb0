import PostPress.Text.Alphanumeric
import PostPress.Text.Blank
import PostPress.Text.Lowercase

/-!
# PostPress.Heading.Slug

Slugs, the readable ids of headings.

* `slugify` — letters and digits of any script in lower case, words joined by
  single hyphens, everything else dropped;
* `Slugger` — hands out ids that are unique within one document, numbering the
  repeats.
-/

namespace PostPress

/-- A character that ends a word of a slug. -/
def isSlugSeparator (c : Char) : Bool := Text.isBlank c || c == '-' || c == '_'

/-- What a character of the heading's text contributes to the slug. -/
def slugChars (c : Char) : List Char :=
  if Text.isAlphanumeric c then Text.lowercase c
  else if isSlugSeparator c then ['-']
  else []

/-- The slug of a text, as characters. -/
def slugifyChars (text : List Char) : List Char :=
  ['-'].intercalate (Text.pieces (· == '-') (text.flatMap slugChars))

/-- The slug of a text; empty if no character of it can be used. -/
def slugify (text : String) : String := String.ofList (slugifyChars text.toList)

/-- The ids of one document that are taken, handed out or reserved. -/
structure Slugger where
  /-- The ids, latest first. -/
  taken : List String
deriving DecidableEq, Repr

namespace Slugger

/-- No id is taken. -/
def empty : Slugger := ⟨[]⟩

instance : Inhabited Slugger := ⟨empty⟩

/-- Whether an id is free. -/
def isFree (s : Slugger) (id : String) : Bool := !s.taken.contains id

/-- Take an id. -/
def take (s : Slugger) (id : String) : Slugger := ⟨id :: s.taken⟩

/-- The `n`-th numbered form of an id. -/
def numbered (base : String) (n : Nat) : String := base ++ "-" ++ n.repr

/-- The least `n ≥ 1` for which the numbered id is free. There is one among the
first as many numbers as ids are taken, if `base` itself is taken. -/
def firstFree (s : Slugger) (base : String) : Nat :=
  ((List.range' 1 s.taken.length).find? fun n => s.isFree (numbered base n)).getD
    (s.taken.length + 1)

/-- Take `base` as it is, or its first free numbered form. -/
def unique (s : Slugger) (base : String) : String × Slugger :=
  let id := if s.isFree base then base else numbered base (s.firstFree base)
  (id, s.take id)

/-- What stands in for the slug of a text without usable characters. -/
def emptySlug : String := "heading"

/-- Take a unique id made from a text. -/
def slug (s : Slugger) (text : String) : String × Slugger :=
  s.unique (if slugify text = "" then emptySlug else slugify text)

/-- Take an id chosen elsewhere; false if it was taken already. -/
def reserve (s : Slugger) (id : String) : Bool × Slugger :=
  if s.isFree id then (true, s.take id) else (false, s)

end Slugger

end PostPress
