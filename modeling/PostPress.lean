import PostPress.Main
import PostPress.Scroll.Tracker
import PostPress.Tree.Editing
import PostPress.Proofs.Heading.Nesting
import PostPress.Proofs.Heading.Slugger
import PostPress.Proofs.Tree.Heading
import PostPress.Proofs.Heading.Ids
import PostPress.Proofs.Markdown.Heading
import PostPress.Proofs.Pipeline.Heading
import PostPress.Proofs.Sanitize.Schema
import PostPress.Proofs.Html.Heading
import PostPress.Proofs.Sanitize.Heading
import PostPress.Proofs.Pipeline.Outline
import PostPress.Proofs.Collections.NameMap
import PostPress.Proofs.Pipeline.Refusal
import PostPress.Proofs.Scroll.Following
import PostPress.Proofs.Html.Element
import PostPress.Proofs.Sanitize.Attribute
import PostPress.Proofs.Html.Construction
import PostPress.Proofs.Html.Tidy
import PostPress.Proofs.Sanitize.Tag
import PostPress.Proofs.Sanitize.Text
import PostPress.Proofs.Html.Placement
import PostPress.Proofs.Html.Stack
import PostPress.Proofs.Html.Body
import PostPress.Proofs.Html.Table
import PostPress.Proofs.Html.Whole
import PostPress.Proofs.Scroll.Outcome
import PostPress.Proofs.Scroll.Subscription
import PostPress.Proofs.Scroll.Active
import PostPress.Proofs.Scroll.Journal
import PostPress.Proofs.Tree.Everywhere
import PostPress.Proofs.Pipeline.Settled
import PostPress.Proofs.Pipeline.Idempotent
import PostPress.Proofs.Html.NormalForm
import PostPress.Proofs.Tree.Nodes
import PostPress.Proofs.Collections.EraseDups
import PostPress.Proofs.Markdown.Shown
import PostPress.Proofs.Markdown.Spelling
import PostPress.Proofs.Markdown.Footnote
import PostPress.Proofs.Markdown.Reading
import PostPress.Proofs.Heading.Target
import PostPress.Proofs.Sanitize.Merge
import PostPress.Proofs.Normalize
import PostPress.Proofs.Embed.Placement
import PostPress.Proofs.Embed.Replacement
import PostPress.Proofs.Tree.Path
import PostPress.Proofs.Tree.Callback
import PostPress.Proofs.Tree.Visit
import PostPress.Proofs.Tree.Replacement
import PostPress.Proofs.Heading.Calls
import PostPress.Proofs.Text.Pieces
import PostPress.Proofs.Text.Lowercase
import PostPress.Proofs.Heading.Slug
import PostPress.Proofs.Heading.Words
import PostPress.Proofs.Embed.File
import PostPress.Proofs.Sanitize.Extension
import PostPress.Proofs.Html.Navigation
import PostPress.Proofs.Heading.Link
import PostPress.Proofs.Pipeline.Order
import PostPress.Proofs.Html.DocumentOrder
import PostPress.Proofs.Html.Phrasing
import PostPress.Proofs.Html.Reading
import PostPress.Proofs.Sanitize.Unwrapping
import PostPress.Proofs.Scroll.Band
import PostPress.Proofs.Collections.Except
import PostPress.Proofs.Command.Storage
import PostPress.Proofs.Command.Arguments
import PostPress.Proofs.Command.Run
