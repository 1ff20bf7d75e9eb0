import PostPress.Pipeline
import PostPress.Proofs.Collections.NameMap

/-!
# PostPress.Proofs.Sanitize.Schema

**What an extension adds.** An extended allow-list has the tags and attributes of both, up
to the letter case of the extension (`allowsTag_extend_iff`, `lists_extend_iff`). So what an
allow-list lets through, each of its extensions does, and the allow-list of a pipeline has
all of the common one, whatever the configuration adds. The schemes of a key are replaced,
by the last entry of the extension for it (`get?_protocols_extend`).
-/

namespace PostPress

namespace Schema

/-! ### Tags -/

theorem allowsTag_extend_iff (schema : Schema) (extension : SchemaExtension) (tag : String) :
    (schema.extend extension).allowsTag tag = true ↔
      tag ∈ extension.tagNames.map Text.asciiLower ∨ schema.allowsTag tag = true :=
  NameSet.contains_insertMany ..

theorem allowsTag_extend {schema : Schema} {tag : String} (h : schema.allowsTag tag = true)
    (extension : SchemaExtension) : (schema.extend extension).allowsTag tag = true :=
  (allowsTag_extend_iff ..).2 (.inr h)

/-! ### Attributes -/

theorem contains_attributes_extend (schema : Schema) (extension : SchemaExtension)
    (key : String) :
    (schema.extend extension).attributes.contains key = true ↔
      key ∈ extension.attributes.names.map Text.asciiLower ∨
        schema.attributes.contains key = true := by
  have hfold := foldl_iff_exists_or (f := extendAttributes) (P := (·.contains key = true))
    (fun _ _ => NameMap.contains_insert ..) extension.attributes.entries schema.attributes
  simp only [extend, hfold, NameMap.names, List.map_map, List.mem_map, Function.comp_apply,
    eq_comm]

/-- Whether an attribute is listed under a key of a map. -/
def listedIn (attributes : NameMap NameSet) (key name : String) : Bool :=
  ((attributes.get? key).getD ∅).contains name

theorem lists_eq_listedIn (schema : Schema) (key name : String) :
    schema.lists key name = listedIn schema.attributes key name := by
  unfold lists listedIn
  cases schema.attributes.get? key <;> rfl

theorem listedIn_extendAttributes (attributes : NameMap NameSet) (entry : String × List String)
    (key name : String) :
    listedIn (extendAttributes attributes entry) key name = true ↔
      (Text.asciiLower entry.1 = key ∧ name ∈ entry.2.map Text.asciiLower) ∨
        listedIn attributes key name = true := by
  unfold listedIn extendAttributes
  rw [NameMap.get?_insert]
  split
  · next hkey =>
      rw [Option.getD_some, NameSet.contains_insertMany, hkey, and_iff_right rfl]
  · next hkey => rw [or_iff_right fun h => hkey h.1.symm]

end Schema

/-- An extension adds an attribute for a key, both in lower case. -/
def SchemaExtension.Adds (extension : SchemaExtension) (key name : String) : Prop :=
  ∃ entry ∈ extension.attributes.entries,
    Text.asciiLower entry.1 = key ∧ name ∈ entry.2.map Text.asciiLower

namespace Schema

theorem lists_extend_iff (schema : Schema) (extension : SchemaExtension) (key name : String) :
    (schema.extend extension).lists key name = true ↔
      extension.Adds key name ∨ schema.lists key name = true := by
  rw [lists_eq_listedIn, lists_eq_listedIn]
  exact foldl_iff_exists_or (P := (listedIn · key name = true))
    (fun attributes entry => listedIn_extendAttributes attributes entry key name) ..

theorem lists_extend {schema : Schema} {key name : String} (h : schema.lists key name = true)
    (extension : SchemaExtension) : (schema.extend extension).lists key name = true :=
  (lists_extend_iff ..).2 (.inr h)

/-! ### Protocols -/

/-- The schemes that some names stand for. -/
def schemes (names : List String) : NameSet := .ofList (names.map Text.asciiLower)

end Schema

/-- The entry of an extension that counts for a key: of those whose keys are that key in
lower case the last one. -/
def SchemaExtension.protocolAt? (extension : SchemaExtension) (key : String) :
    Option (String × List String) :=
  (extension.protocols.entries.filter (Text.asciiLower ·.1 == key)).getLast?

namespace Schema

theorem get?_protocols_extend (schema : Schema) (extension : SchemaExtension) (key : String) :
    (schema.extend extension).protocols.get? key =
      ((extension.protocolAt? key).map (schemes ·.2)).or (schema.protocols.get? key) := by
  let pair (entry : String × List String) := (Text.asciiLower entry.1, schemes entry.2)
  have hfold : (schema.extend extension).protocols =
      (extension.protocols.entries.map pair).foldl (fun m p => m.insert p.1 p.2)
        schema.protocols := by
    rw [List.foldl_map]
    rfl
  rw [hfold, NameMap.get?_foldl_insert, List.filter_map, List.getLast?_map, Option.map_map]
  rfl

end Schema

namespace Pipeline

/-! ### The allow-list of a pipeline -/

theorem allowsTag_schema {tag : String} (h : tag ∈ Schema.defaultTags) (config : Config) :
    (schema config).allowsTag tag = true := by
  have hdefault : Schema.default.allowsTag tag = true := (NameSet.contains_ofList ..).2 h
  exact Schema.allowsTag_extend (Schema.allowsTag_extend hdefault _) _

theorem lists_schema {key name : String} (h : Schema.default.lists key name = true)
    (config : Config) : (schema config).lists key name = true :=
  Schema.lists_extend (Schema.lists_extend h _) _

end Pipeline

end PostPress
