import PostPress.Html.Construction.State

/-!
# PostPress.Html.Construction.Formatting

Formatting elements. They go on behind the end of the block in which they were
left open, and their end tags may be out of order.

* `Builder.reopenFormatting` — opens again what was left open;
* `Builder.pushFormatting`, `Builder.clearFormatting` — the list of formatting
  elements;
* `Builder.closeFormatting` — closes one whose content may reach over the end of
  blocks.
-/

namespace PostPress.Html

namespace Builder

/-- Whether an entry needs no opening: a marker, or an element that is open. -/
def isReady (b : Builder) : Formatting → Bool
  | .marker => true
  | .element id _ _ => b.stack.contains id

/-- Open elements again, oldest first: the new entries, latest first. -/
def reopenAll : List Formatting → List Formatting → Builder → List Formatting × Builder
  | [], opened, b => (opened, b)
  | .marker :: rest, opened, b => reopenAll rest opened b
  | .element _ name attrs :: rest, opened, b =>
      let (id, b) := b.insertNode name attrs
      reopenAll rest (.element id name attrs :: opened) b

/-- Open again the formatting elements that were left open. -/
def reopenFormatting (b : Builder) : Builder :=
  let closed := b.formatting.takeWhile (!b.isReady ·)
  let ready := b.formatting.dropWhile (!b.isReady ·)
  let (opened, b) := reopenAll closed.reverse [] b
  { b with formatting := opened ++ ready }

/-- Whether two lists hold the same attributes. -/
def sameAttributes (a b : List Attribute) : Bool :=
  a.length == b.length && a.all fun x => b.contains x

/-- A list without its last element that has a property. -/
def dropLastWhere (p : Formatting → Bool) (entries : List Formatting) : List Formatting :=
  (entries.reverse.eraseP p).reverse

/-- Put an element on the list; of four equal ones since the last marker the
oldest goes. -/
def pushFormatting (b : Builder) (id : Nat) (name : String) (attrs : List Attribute) : Builder :=
  let isEqual : Formatting → Bool
    | .marker => false
    | .element _ n as => n == name && sameAttributes as attrs
  let recent := b.formatting.takeWhile (· ≠ .marker)
  let older := b.formatting.dropWhile (· ≠ .marker)
  let recent := if 3 ≤ recent.countP isEqual then dropLastWhere isEqual recent else recent
  { b with formatting := .element id name attrs :: recent ++ older }

/-- Open a formatting element. -/
def insertFormatting (b : Builder) (name : String) (attrs : List Attribute) : Builder :=
  let (id, b) := b.insertNode name attrs
  b.pushFormatting id name attrs

/-- Put a marker on the list. -/
def pushMarker (b : Builder) : Builder := { b with formatting := .marker :: b.formatting }

/-- Drop the entries of the list up to the last marker. -/
def clearFormatting (b : Builder) : Builder :=
  { b with formatting := (b.formatting.dropWhile (· ≠ .marker)).drop 1 }

/-- Whether an entry is that of a node. -/
def isEntryOf (node : Nat) : Formatting → Bool
  | .marker => false
  | .element id _ _ => id == node

/-- Drop the entry of a node. -/
def removeFormatting (b : Builder) (node : Nat) : Builder :=
  { b with formatting := b.formatting.eraseP (isEntryOf node) }

/-- The latest element of a name since the last marker. -/
def findFormatting (b : Builder) (name : String) : Option (Nat × List Attribute) :=
  (b.formatting.takeWhile (· ≠ .marker)).findSome? fun
    | .marker => none
    | .element id n attrs => if n = name then some (id, attrs) else none

/-- Elements that are neither formatting nor of no meaning. -/
def specialElements : List String :=
  ["address", "applet", "area", "article", "aside", "base", "basefont", "bgsound", "blockquote",
   "body", "br", "button", "caption", "center", "col", "colgroup", "dd", "details", "dir", "div",
   "dl", "dt", "embed", "fieldset", "figcaption", "figure", "footer", "form", "frame", "frameset",
   "h1", "h2", "h3", "h4", "h5", "h6", "head", "header", "hgroup", "hr", "html", "iframe", "img",
   "input", "isindex", "keygen", "li", "link", "listing", "main", "marquee", "menu", "meta", "nav",
   "noembed", "noframes", "noscript", "object", "ol", "p", "param", "plaintext", "pre", "script",
   "section", "select", "source", "style", "summary", "table", "tbody", "td", "template",
   "textarea", "tfoot", "th", "thead", "title", "tr", "track", "ul", "wbr", "xmp"]

/-- Whether an element is special. Those of other vocabularies are not. -/
def isSpecial (b : Builder) (id : Nat) : Bool := b.isHtml specialElements id

/-- Close the innermost element of a name unless a special one stands between. -/
def closeAny (b : Builder) (name : String) : Builder :=
  match b.stack.find? fun id => b.isHtml [name] id || b.isSpecial id with
  | none => b
  | some id =>
      if b.isHtml [name] id then (b.closeImplied [name]).popThrough id else b

/-- Where a new entry goes: in the place of that of a node, or right after it. -/
inductive Bookmark
  /-- In its place. -/
  | replace (node : Nat)
  /-- After it. -/
  | after (node : Nat)

/-- The list with the entry of a node replaced. -/
def replaceEntry (node : Nat) (entry : Formatting) (entries : List Formatting) :
    List Formatting :=
  entries.map fun e => if isEntryOf node e then entry else e

/-- The list with an entry put right after that of a node; later entries stand
first. -/
def insertAfterEntry (node : Nat) (entry : Formatting) : List Formatting → List Formatting
  | [] => []
  | e :: rest =>
      if isEntryOf node e then entry :: e :: rest else e :: insertAfterEntry node entry rest

/-- What closing a formatting element makes of the elements between it and the
block that reaches over its end. -/
structure Adoption where
  /-- The tree and the list of formatting elements. -/
  builder : Builder
  /-- The node that holds the block so far. -/
  last : Nat
  /-- Where the entry of the new formatting element goes. -/
  bookmark : Bookmark
  /-- The elements that stay open between, innermost first. -/
  kept : List Nat

/-- Wrap the block into copies of the formatting elements between, of which at
most three are copied; `count` is the number of those looked at. -/
def adoptBetween (block : Nat) : (count : Nat) → List Nat → Adoption → Adoption
  | _, [], a => a
  | count, node :: rest, a =>
      let b := a.builder
      match b.formatting.find? (isEntryOf node) with
      | some (.element _ name attrs) =>
          if 3 ≤ count then
            adoptBetween block (count + 1) rest { a with builder := b.removeFormatting node }
          else
            let (copy, dom) := b.dom.createElement .html name attrs
            let b := { b with
              dom := dom.append copy a.last
              formatting := replaceEntry node (.element copy name attrs) b.formatting }
            adoptBetween block (count + 1) rest
              { builder := b
                last := copy
                bookmark := if a.last = block then .after copy else a.bookmark
                kept := a.kept ++ [copy] }
      | _ => adoptBetween block (count + 1) rest a

/-- Split the open elements at a node: those inside it, and those around it. -/
def splitStack (node : Nat) (stack : List Nat) : List Nat × List Nat :=
  (stack.takeWhile (· ≠ node), (stack.dropWhile (· ≠ node)).drop 1)

/-- Move the block out of the formatting element, and open a copy of that inside
the block. -/
def adopt (b : Builder) (node : Nat) (name : String) (attrs : List Attribute)
    (inside around : List Nat) (block : Nat) : Builder :=
  let (upper, fromBlock) := (inside.takeWhile (· ≠ block), inside.dropWhile (· ≠ block))
  let a := adoptBetween block 0 (fromBlock.drop 1) ⟨b, block, .replace node, []⟩
  let b := a.builder
  let common := around.head?.getD Dom.document
  let b := { b with dom := b.dom.detach a.last }
  let b := { b with stack := upper ++ block :: a.kept ++ node :: around }
  let b := b.putAt (b.placeIn common) a.last
  let (copy, dom) := b.dom.createElement .html name attrs
  let dom := (dom.moveChildren block copy).append block copy
  let entry := Formatting.element copy name attrs
  let formatting :=
    match a.bookmark with
    | .replace node => replaceEntry node entry b.formatting
    | .after previous =>
        (insertAfterEntry previous entry b.formatting).eraseP (isEntryOf node)
  { b with dom, formatting, stack := upper ++ copy :: block :: a.kept ++ around }

/-- One round of closing a formatting element: the state, and whether another
round follows. -/
def closeFormattingOnce (b : Builder) (name : String) : Builder × Bool :=
  match b.findFormatting name with
  | none => (b.closeAny name, false)
  | some (node, attrs) =>
      if !b.stack.contains node then (b.removeFormatting node, false)
      else if !b.nodeInScope node then (b, false)
      else
        let (inside, around) := splitStack node b.stack
        match inside.reverse.find? fun id => b.isSpecial id with
        | none => ({ b with stack := around }.removeFormatting node, false)
        | some block => (b.adopt node name attrs inside around block, true)

/-- Rounds of closing a formatting element. -/
def closeFormattingRounds (name : String) : (rounds : Nat) → Builder → Builder
  | 0, b => b
  | rounds + 1, b =>
      match b.closeFormattingOnce name with
      | (b, true) => closeFormattingRounds name rounds b
      | (b, false) => b

/-- Close a formatting element, in at most eight rounds. -/
def closeFormatting (b : Builder) (name : String) : Builder :=
  match b.stack with
  | [] => b
  | id :: rest =>
      if b.isHtml [name] id && !b.formatting.any (isEntryOf id) then { b with stack := rest }
      else closeFormattingRounds name 8 b

end Builder

end PostPress.Html
