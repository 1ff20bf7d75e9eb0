import PostPress.Markdown.Block.Opening
import PostPress.Markdown.Block.Table
import PostPress.Markdown.Target

/-!
# PostPress.Markdown.Block.Frame

The blocks of a document before their texts are read, and the containers that
are open while its lines are.

* `Block` — a block with its text as it is written;
* `Container`, `Frame` — a container that is open, with the blocks it holds so
  far;
* `Frame.push`, `Frame.pushItem`, `Frame.noteBlank` — a block, an item of a list
  and a blank line more.

Items with the same marker that stand next to each other are one list. An item
that cuts off the code of the one before it does not end that one, and is a list
inside it. A blank line counts for what it stands directly in: an item, or the
list between two items.
-/

namespace PostPress.Markdown

/-- A block whose text is still to be read. -/
inductive Block
  /-- A paragraph. -/
  | paragraph (text : Passage)
  /-- A heading. -/
  | heading (depth : Nat) (text : Passage)
  /-- A line across the page. -/
  | thematicBreak
  /-- A block of code. -/
  | code (language : Option String) (value : String)
  /-- A quotation. -/
  | quote (children : List Block)
  /-- A list. -/
  | list (start : Option Nat) (spread : Bool) (items : List Block)
  /-- An item of a list. -/
  | item (spread : Bool) (children : List Block)
  /-- A target for a label. -/
  | definition (definition : Definition)
  /-- A footnote. -/
  | footnote (label : List Char) (children : List Block)
  /-- A table, with the alignments of its columns and the cells of its rows. -/
  | table (columns : List (Option Alignment)) (rows : List (List Passage))
  /-- A tag or an expression on lines of its own. -/
  | flow (part : FlowPart)
deriving Repr, Inhabited

/-- The marker of a list item. -/
structure Marker where
  /-- The character that items of one list share. -/
  sign : Char
  /-- The number, in an ordered list. -/
  number : Option Nat
deriving DecidableEq, Repr

/-- A container for blocks. -/
inductive Container
  /-- The document. -/
  | document
  /-- A quotation. -/
  | quote
  /-- An item of a list: its marker, the columns that its lines are indented by,
  and whether it is empty so far. -/
  | item (marker : Marker) (width : Nat) (empty : Bool)
  /-- A footnote. -/
  | footnote (label : List Char)
deriving DecidableEq, Repr

/-- A list whose last item is complete. -/
structure Listing where
  /-- The marker of the first item. -/
  marker : Marker
  /-- The signs that the next item may have. -/
  signs : List Char
  /-- Whether the next item is part of the last one. -/
  joined : Bool
  /-- Whether a blank line stands between two of the items. -/
  spread : Bool
  /-- The items, last one first. -/
  items : List Block
  /-- Whether a blank line follows that spreads the list if another item comes. -/
  gapInList : Bool
  /-- Whether a blank line follows at all. -/
  gapAfter : Bool
deriving Repr

/-- A list of one item. -/
def Listing.single (marker : Marker) (item : Block) : Listing :=
  ⟨marker, [marker.sign], false, false, [item], false, false⟩

/-- The list with another item, if it may have this marker. An item that is part of
the last one is a list of its own there. -/
def Listing.push? (listing : Listing) (marker : Marker) (item : Block) : Option Listing :=
  let next (signs : List Char) (item : Block) : Listing :=
    ⟨listing.marker, signs, false, listing.spread || listing.gapInList, item :: listing.items,
      false, false⟩
  if listing.joined then
    some (next (marker.sign :: listing.signs) (.list marker.number false [item]))
  else if listing.signs.contains marker.sign then some (next [marker.sign] item)
  else none

/-- A container that is open. -/
structure Frame where
  /-- The container. -/
  container : Container
  /-- The blocks that are complete, last one first. -/
  blocks : List Block
  /-- The list that may still go on. -/
  listing : Option Listing
  /-- Whether a blank line stands directly in the container. -/
  spread : Bool
deriving Repr

namespace Frame

/-- A container with nothing in it. -/
def new (container : Container) : Frame := ⟨container, [], none, false⟩

/-- The frame with its list complete. -/
def endList (frame : Frame) : Frame :=
  match frame.listing with
  | none => frame
  | some listing =>
      { frame with
        blocks := .list listing.marker.number listing.spread listing.items.reverse ::
          frame.blocks
        listing := none
        spread := frame.spread || listing.gapAfter }

/-- The frame with another block. -/
def push (frame : Frame) (block : Block) : Frame :=
  let frame := frame.endList
  { frame with blocks := block :: frame.blocks }

/-- The frame with another item, in the list before it if the markers agree. -/
def pushItem (frame : Frame) (marker : Marker) (item : Block) : Frame :=
  match frame.listing.bind fun listing => listing.push? marker item with
  | some listing => { frame with listing := some listing }
  | none => { frame.endList with listing := some (.single marker item) }

/-- The frame whose next item is part of the last one. -/
def joinItems (frame : Frame) : Frame :=
  { frame with listing := frame.listing.map fun listing => { listing with joined := true } }

/-- The frame after a blank line. `counts` says whether the line could spread a
list. -/
def noteBlank (frame : Frame) (counts : Bool) : Frame :=
  match frame.listing with
  | some listing =>
      let listing := { listing with gapInList := listing.gapInList || counts, gapAfter := true }
      { frame with listing := some listing }
  | none => { frame with spread := true }

/-- The frame with a container in it that is complete. -/
def pushFrame (frame inner : Frame) : Frame :=
  let inner := inner.endList
  let children := inner.blocks.reverse
  match inner.container with
  | .document => frame
  | .quote => frame.push (.quote children)
  | .item marker _ _ => frame.pushItem marker (.item inner.spread children)
  | .footnote label => frame.push (.footnote label children)

end Frame

end PostPress.Markdown
