import PostPress.Proofs.Sanitize.Merge

/-!
# PostPress.Proofs.Sanitize.Extension

**Extending an allow-list.** An allow-list is determined by what it answers for each tag, attribute
and key (`Schema.ext_answers`), and the answers of an extended one are those of the allow-list and
of the extension. So an extension counts once, however often it is made, and two extensions may be
made in either order if no key has schemes in both (`Schema.extend_laws`).
-/

namespace PostPress

namespace SchemaExtension

/-- The keys, in lower case, that an extension sets schemes for. -/
def protocolKeys (extension : SchemaExtension) : List String :=
  extension.protocols.names.map Text.asciiLower

theorem protocolAt?_eq_none_iff_notMem {extension : SchemaExtension} {key : String} :
    extension.protocolAt? key = none ↔ key ∉ extension.protocolKeys := by
  rw [protocolAt?_eq_none_iff, protocolKeys, List.mem_map]
  simp only [Spells, NameMap.contains_iff_mem_names, not_exists]

end SchemaExtension

namespace Schema

/-! ### Answers -/

/-- Allow-lists with the same answers are equal. -/
theorem ext_answers {schema other : Schema}
    (htags : ∀ tag, schema.allowsTag tag = true ↔ other.allowsTag tag = true)
    (hkeys : ∀ key, schema.attributes.contains key = true ↔ other.attributes.contains key = true)
    (hlists : ∀ key name, schema.lists key name = true ↔ other.lists key name = true)
    (hprotocols : ∀ key, schema.protocols.get? key = other.protocols.get? key)
    (hstrip : schema.strip = other.strip) : schema = other := by
  have htagNames : schema.tagNames = other.tagNames :=
    NameSet.ext_contains fun tag => Bool.eq_iff_iff.2 (htags tag)
  have hattributes : schema.attributes = other.attributes := by
    refine attributes_ext (fun key => Bool.eq_iff_iff.2 (hkeys key)) fun key name => ?_
    rw [← lists_eq_listedIn, ← lists_eq_listedIn]
    exact Bool.eq_iff_iff.2 (hlists key name)
  exact (Schema.mk.injEq ..).mpr
    ⟨htagNames, hattributes, NameMap.ext_get? hprotocols, hstrip⟩

variable (schema : Schema) (extension : SchemaExtension)

theorem allowsAttribute_extend_iff (tag name : String) :
    (schema.extend extension).allowsAttribute tag name = true ↔
      (extension.Adds tag name ∨ extension.Adds anyTag name) ∨
        schema.allowsAttribute tag name = true := by
  simp only [allowsAttribute, Bool.or_eq_true, lists_extend_iff]
  exact or_or_or_comm

theorem get?_protocols_extend_of_notMem {key : String} (h : key ∉ extension.protocolKeys) :
    (schema.extend extension).protocols.get? key = schema.protocols.get? key := by
  rw [get?_protocols_extend, SchemaExtension.protocolAt?_eq_none_iff_notMem.2 h]
  rfl

/-! ### Extensions in turn -/

/-- An extension makes no difference to what it has extended. -/
theorem extend_extend_self :
    (schema.extend extension).extend extension = schema.extend extension := by
  apply ext_answers
  · intro tag
    simp only [allowsTag_extend_iff, or_self_left]
  · intro key
    simp only [contains_attributes_extend, or_self_left]
  · intro key name
    simp only [lists_extend_iff, or_self_left]
  · intro key
    simp only [get?_protocols_extend]
    cases extension.protocolAt? key <;> rfl
  · rfl

variable {extension} in
/-- For tags and attributes the order of two extensions makes no difference, and for schemes
only one of them counts. -/
theorem extend_comm {other : SchemaExtension}
    (h : ∀ key ∈ extension.protocolKeys, key ∉ other.protocolKeys) :
    (schema.extend extension).extend other = (schema.extend other).extend extension := by
  apply ext_answers
  · intro tag
    simp only [allowsTag_extend_iff]
    exact or_left_comm
  · intro key
    simp only [contains_attributes_extend]
    exact or_left_comm
  · intro key name
    simp only [lists_extend_iff]
    exact or_left_comm
  · intro key
    simp only [get?_protocols_extend]
    by_cases hkey : key ∈ extension.protocolKeys
    · rw [SchemaExtension.protocolAt?_eq_none_iff_notMem.2 (h key hkey)]
      rfl
    · rw [SchemaExtension.protocolAt?_eq_none_iff_notMem.2 hkey]
      rfl
  · rfl

/-- **The laws of extensions.** An extended allow-list has the tags and attributes of both, the
schemes that it had for all keys that the extension does not set, and what is stripped stays. An
extension made twice counts once, and two that set no key in common may be made in either order. -/
theorem extend_laws :
    (∀ tag, (schema.extend extension).allowsTag tag = true ↔
      schema.allowsTag tag = true ∨ ∃ added ∈ extension.tagNames, Text.asciiLower added = tag) ∧
    (∀ tag name, (schema.extend extension).allowsAttribute tag name = true ↔
      schema.allowsAttribute tag name = true ∨
        extension.Adds tag name ∨ extension.Adds anyTag name) ∧
    (∀ key, key ∉ extension.protocolKeys →
      (schema.extend extension).protocols.get? key = schema.protocols.get? key) ∧
    (schema.extend extension).strip = schema.strip ∧
    (schema.extend extension).extend extension = schema.extend extension ∧
    ∀ other : SchemaExtension, (∀ key ∈ extension.protocolKeys, key ∉ other.protocolKeys) →
      (schema.extend extension).extend other = (schema.extend other).extend extension := by
  refine ⟨fun tag => ?_, fun tag name => ?_, fun key => ?_, rfl, ?_, fun other => ?_⟩
  · rw [allowsTag_extend_iff, List.mem_map, or_comm]
  · rw [allowsAttribute_extend_iff, or_comm]
  · exact get?_protocols_extend_of_notMem schema extension
  · exact extend_extend_self schema extension
  · exact extend_comm schema

/-- Classes on every tag, and links of one scheme only, in upper case. -/
def upperCaseAdditions : SchemaExtension :=
  ⟨["U"], .ofList [("*", ["CLASS"])], .ofList [("HREF", ["HTTPS"])]⟩

/-- Keys are compared in lower case: images keep their schemes, and players may be added before
or after. -/
theorem extend_laws_upperCase :
    ("src" ∉ upperCaseAdditions.protocolKeys ∧
      (default.extend upperCaseAdditions).protocols.get? "src" = some (.ofList ["http", "https"])) ∧
    (∀ key ∈ upperCaseAdditions.protocolKeys, key ∉ SchemaExtension.embeds.protocolKeys) ∧
      (default.extend upperCaseAdditions).extend .embeds =
        (default.extend .embeds).extend upperCaseAdditions := by
  obtain ⟨-, -, hkept, -, -, hcomm⟩ := extend_laws default upperCaseAdditions
  have hsrc : "src" ∉ upperCaseAdditions.protocolKeys := by decide
  have hapart : ∀ key ∈ upperCaseAdditions.protocolKeys,
      key ∉ SchemaExtension.embeds.protocolKeys := by
    decide
  refine ⟨⟨hsrc, ?_⟩, hapart, hcomm _ hapart⟩
  rw [hkept "src" hsrc]
  decide

end Schema

end PostPress
