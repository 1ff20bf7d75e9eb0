import PostPress.Markdown.Inline.Token

/-!
# PostPress.Markdown.Inline.Emphasis

Matching the delimiters of emphasised, strong and struck text.

* `DelimiterRun.between` — what a run may do, told from its neighbours;
* `DelimiterRun.opens` — which runs belong together;
* `resolve` — tokens with the emphasised parts as constructs.

Runs that can close are matched from left to right, each with the nearest run
before it. What stands between a pair cannot open anything any more.
-/

namespace PostPress.Markdown

/-- The kind of a character that decides what a run next to it may do. -/
inductive CharacterKind
  /-- A blank, or no character. -/
  | blank
  /-- Punctuation. -/
  | punctuation
  /-- Any other character. -/
  | word
deriving DecidableEq, Repr

/-- The kind of a character next to a run. -/
def CharacterKind.of : Option Char → CharacterKind
  | none => .blank
  | some c =>
      if Text.isBlank c then .blank else if Text.isPunctuation c then .punctuation else .word

namespace DelimiterRun

/-- Whether the character next to a run is another mark of emphasis. -/
def isMark : Option Char → Bool
  | some c => c == '*' || c == '_' || c == '~'
  | none => false

/-- A run between two characters. Next to another mark, a run may do what it may do
next to a word, unless it strikes text. A run of underscores inside a word does
nothing. -/
def between (mark : Char) (size : Nat) (before after : Option Char) : DelimiterRun :=
  let left := CharacterKind.of before
  let right := CharacterKind.of after
  let leftFlanking :=
    right == .word || (right == .punctuation && left != .word) || (mark != '~' && isMark after)
  let rightFlanking :=
    left == .word || (left == .punctuation && right != .word) || (mark != '~' && isMark before)
  if mark = '_' then
    ⟨mark, size, leftFlanking && (left != .word || !rightFlanking),
      rightFlanking && (right != .word || !leftFlanking)⟩
  else ⟨mark, size, leftFlanking, rightFlanking⟩

/-- Whether a run may open the text that a later one closes. If one of them may
do both, their sizes must not add up to a multiple of three, unless both are
multiples themselves. Tildes must be as many on both sides, one or two. -/
def opens (opener closer : DelimiterRun) : Bool :=
  opener.canOpen && opener.mark == closer.mark &&
    !((opener.canClose || closer.canOpen) && closer.size % 3 != 0 &&
      (opener.size + closer.size) % 3 == 0) &&
    (closer.mark != '~' || (opener.size == closer.size && closer.size ≤ 2))

/-- How many marks a pair uses up. -/
def used (opener closer : DelimiterRun) : Nat :=
  if 1 < opener.size && 1 < closer.size then 2 else 1

/-- A run without some of its marks, if any are left. -/
def drop (run : DelimiterRun) (count : Nat) : List Token :=
  if run.size ≤ count then [] else [.delimiters ⟨run.mark, run.size - count, run.canOpen,
    run.canClose⟩]

/-- The construct of a pair that uses up so many marks. -/
def wrap (mark : Char) (count : Nat) (children : List Construct) : Construct :=
  if mark = '~' then .strikethrough children
  else if count = 1 then .emphasis children
  else .strong children

end DelimiterRun

/-- The nearest run that opens what a run closes, among tokens before it, last
one first: the tokens in between in order, the run, and the tokens before it,
last one first. -/
def findOpener (closer : DelimiterRun) (between : List Token) :
    List Token → Option (List Token × DelimiterRun × List Token)
  | [] => none
  | .delimiters run :: rest =>
      if run.opens closer then some (between, run, rest)
      else findOpener closer (.delimiters run :: between) rest
  | token :: rest => findOpener closer (token :: between) rest

/-- Tokens with their emphasised parts as constructs. `before` holds the tokens
that are done, last one first. Every step uses up a mark or passes a token,
which bounds their number. -/
def resolveFrom (inLink : Bool) : Nat → List Token → List Token →
    Except SourceError (List Token)
  | 0, before, after => .ok (before.reverse ++ after)
  | _ + 1, before, [] => .ok before.reverse
  | fuel + 1, before, .delimiters run :: after =>
      match if run.canClose then findOpener run [] before else none with
      | some (between, opener, outer) => do
          let count := opener.used run
          let children ← assemble .none inLink between
          let construct := .construct (DelimiterRun.wrap run.mark count children)
          resolveFrom inLink fuel (construct :: opener.drop count ++ outer)
            (run.drop count ++ after)
      | none => resolveFrom inLink fuel (.delimiters run :: before) after
  | fuel + 1, before, token :: after => resolveFrom inLink fuel (token :: before) after

/-- The number of steps that resolving tokens takes at most. -/
def resolveSteps : List Token → Nat
  | [] => 1
  | .delimiters run :: rest => run.size + 1 + resolveSteps rest
  | _ :: rest => 1 + resolveSteps rest

/-- Tokens with their emphasised parts as constructs. -/
def resolve (inLink : Bool) (tokens : List Token) : Except SourceError (List Token) :=
  resolveFrom inLink (resolveSteps tokens) [] tokens

/-- Tokens with delimiters as constructs. -/
def finish (ends : Ends) (inLink : Bool) (tokens : List Token) :
    Except SourceError (List Construct) :=
  resolve inLink tokens >>= assemble ends inLink

end PostPress.Markdown
