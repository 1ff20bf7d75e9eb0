import PostPress.Json.Reader
import PostPress.Sanitize.Schema
import PostPress.Scroll.Tracker

/-!
# PostPress.Config

The settings of the program, and reading them from JSON.

Every setting has a default. A structure is written as an object with any of its
fields, each at most once, or as a list of its first fields in order; a field
that is not known is an error at the top level and ignored further down.
-/

namespace PostPress

/-- The settings of the program. -/
structure Config where
  /-- Whether links to hosted videos and files become players. -/
  embeds : Bool
  /-- Additions to the allow-list. -/
  sanitize : SchemaExtension
  /-- The settings of the tracker. -/
  tracker : TrackerConfig Binary64
deriving DecidableEq

namespace Config

/-- Players are put, nothing is added to the allow-list, and the tracker has its
defaults. -/
def default : Config := ⟨true, .empty, .default⟩

instance : Inhabited Config := ⟨default⟩

/-- The names and the values of fields, if every field has a name. -/
def named? (fields : List (Option String × Json)) : Option (List (String × Json)) :=
  fields.mapM fun (name, value) => name.map fun name => (name, value)

/-- The values of the known fields of a structure, in the order of `names`. -/
def fields? (strict : Bool) (names : List String) : Json → Option (List (Option Json))
  | .object fields => do
      let fields ← named? fields
      let known := fields.filter fun field => names.contains field.1
      if strict && known.length != fields.length then none
      else if (known.map (·.1)).Nodup then some (names.map fun name => known.lookup name)
      else none
  | .array items =>
      if items.length ≤ names.length then
        some (items.map some ++ List.replicate (names.length - items.length) none)
      else none
  | _ => none

/-- Read a value if there is one. -/
def optional {α : Type} (fallback : α) (read : Json → Option α) : Option Json → Option α
  | none => some fallback
  | some json => read json

/-- Read a truth value. -/
def bool? : Json → Option Bool
  | .bool value => some value
  | _ => none

/-- Read a number. -/
def number? : Json → Option Binary64
  | .number value => value.toBinary64?
  | _ => none

/-- Read a list. -/
def list? {α : Type} (read : Json → Option α) : Json → Option (List α)
  | .array items => items.mapM read
  | _ => none

/-- Read a map; of two fields of one name the later counts. -/
def map? {α : Type} (read : Json → Option α) : Json → Option (NameMap α)
  | .object fields => do
      let fields ← named? fields
      let pairs ← fields.mapM fun (name, value) => (read value).map fun value => (name, value)
      return .ofList pairs
  | _ => none

/-- Read additions to the allow-list. -/
def extension? (json : Json) : Option SchemaExtension := do
  match ← fields? false ["tagNames", "attributes", "protocols"] json with
  | [tagNames, attributes, protocols] =>
      let tagNames ← optional [] (list? Json.string?) tagNames
      let attributes ← optional ∅ (map? (list? Json.string?)) attributes
      let protocols ← optional ∅ (map? (list? Json.string?)) protocols
      return ⟨tagNames, attributes, protocols⟩
  | _ => none

/-- Read a band. -/
def band? (json : Json) : Option (ObservationBand Binary64) := do
  let fallback : ObservationBand Binary64 := .default
  match ← fields? false ["topInset", "bottomInsetRatio", "thresholds"] json with
  | [topInset, bottomInsetRatio, thresholds] =>
      let topInset ← optional fallback.topInset number? topInset
      let bottomInsetRatio ← optional fallback.bottomInsetRatio number? bottomInsetRatio
      let thresholds ← optional fallback.thresholds (list? number?) thresholds
      return ⟨topInset, bottomInsetRatio, thresholds⟩
  | _ => none

/-- Read the settings of the tracker. -/
def tracker? (json : Json) : Option (TrackerConfig Binary64) := do
  let fallback : TrackerConfig Binary64 := .default
  match ← fields? false ["band", "activationOffset", "anchorOffset"] json with
  | [band, activationOffset, anchorOffset] =>
      let band ← optional fallback.band band? band
      let activationOffset ← optional fallback.activationOffset number? activationOffset
      let anchorOffset ← optional fallback.anchorOffset number? anchorOffset
      return ⟨band, activationOffset, anchorOffset⟩
  | _ => none

/-- Read the settings. -/
def ofJson? (json : Json) : Option Config := do
  match ← fields? true ["embeds", "sanitize", "tracker"] json with
  | [embeds, sanitize, tracker] =>
      let embeds ← optional default.embeds bool? embeds
      let sanitize ← optional default.sanitize extension? sanitize
      let tracker ← optional default.tracker tracker? tracker
      return ⟨embeds, sanitize, tracker⟩
  | _ => none

/-- Read the settings from text. -/
def ofText? (text : String) : Option Config := Json.read? text >>= ofJson?

/-- Equality of settings, numbers compared as numbers. -/
def same (a b : Config) : Bool :=
  a.embeds == b.embeds && a.sanitize == b.sanitize &&
    a.tracker.band.topInset.beq b.tracker.band.topInset &&
    a.tracker.band.bottomInsetRatio.beq b.tracker.band.bottomInsetRatio &&
    a.tracker.band.thresholds.length == b.tracker.band.thresholds.length &&
    (a.tracker.band.thresholds.zip b.tracker.band.thresholds).all (fun (s, t) => s.beq t) &&
    a.tracker.activationOffset.beq b.tracker.activationOffset &&
    a.tracker.anchorOffset.beq b.tracker.anchorOffset

end Config

end PostPress
