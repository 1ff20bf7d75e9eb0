import PostPress.Tree.Basic

/-!
# PostPress.Embed.Link

Links to hosted videos and files.

* `classify` — the provider and the resource that a URL names, if it names one:
  the URL holds a host of the provider, and somewhere one of the provider's
  markers followed by an id;
* `Embed.frameSrc`, `Embed.toNode` — the player for it.
-/

namespace PostPress

/-- A provider whose resources can be embedded. -/
inductive EmbedKind
  /-- Files on Google Drive and Google Docs. -/
  | googleDrive
  /-- Videos on YouTube. -/
  | youTube
deriving DecidableEq, Repr

/-- A resource of a provider. -/
structure Embed where
  /-- The provider. -/
  kind : EmbedKind
  /-- The id of the resource with the provider. -/
  resourceId : String
deriving DecidableEq, Repr

namespace EmbedKind

/-- The class of the block that holds the player. -/
def className : EmbedKind → String
  | .googleDrive => "google-drive-embed"
  | .youTube => "youtube-embed"

/-- The hosts of a provider: a URL of the provider holds one of them. -/
def hosts : EmbedKind → List String
  | .googleDrive => ["drive.google.com", "docs.google.com"]
  | .youTube => ["youtube.com", "youtu.be"]

/-- What stands before the id in URLs of a provider, the most telling first. -/
def markers : EmbedKind → List String
  | .googleDrive => ["/file/d/", "id=", "/d/"]
  | .youTube =>
      ["youtube.com/watch?v=", "youtube.com/embed/", "youtu.be/", "youtube.com/v/"]

/-- What precedes and follows the id in the URL of the player. -/
def frame : EmbedKind → String × String
  | .googleDrive => ("https://drive.google.com/file/d/", "/preview")
  | .youTube => ("https://www.youtube.com/embed/", "")

end EmbedKind

namespace Embed

/-- A character of an id. -/
def isIdChar (c : Char) : Bool := c.isAlphanum || c == '_' || c == '-'

/-- The id right after the first place where `marker` is followed by one: as many
id characters as there are. -/
def idAfter (marker : List Char) : List Char → Option (List Char)
  | [] => none
  | c :: rest =>
      let id := ((c :: rest).drop marker.length).takeWhile isIdChar
      if marker.isPrefixOf (c :: rest) && !id.isEmpty then some id else idAfter marker rest

/-- The id that the first marker with one gives. -/
def resource (kind : EmbedKind) (url : List Char) : Option (List Char) :=
  if kind.hosts.any fun host => Text.occursIn host.toList url then
    kind.markers.findSome? fun marker => idAfter marker.toList url
  else none

/-- The URL that the player loads. -/
def frameSrc (embed : Embed) : String :=
  embed.kind.frame.1 ++ embed.resourceId ++ embed.kind.frame.2

/-- The player in its block. -/
def toNode (embed : Embed) : Node :=
  .element "div" (.ofList [("class", .tokens [embed.kind.className, "my-4"])])
    [.element "iframe"
      (.ofList
        [("allow", .text "autoplay; encrypted-media"), ("allowfullscreen", .text ""),
         ("class", .tokens ["rounded-lg", "w-full", "aspect-video"]),
         ("frameborder", .text "0"), ("height", .text "480"), ("src", .text embed.frameSrc),
         ("style", .text "max-width: 100%;"), ("width", .text "100%")]) []]

end Embed

/-- The resource that a URL names. Drive is asked before YouTube. -/
def classify (url : String) : Option Embed :=
  [EmbedKind.googleDrive, .youTube].findSome? fun kind =>
    (Embed.resource kind url.toList).map fun id => ⟨kind, String.ofList id⟩

end PostPress
