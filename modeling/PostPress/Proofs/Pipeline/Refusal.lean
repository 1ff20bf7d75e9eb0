import PostPress.Proofs.Sanitize.Schema

/-!
# PostPress.Proofs.Pipeline.Refusal

**When a pipeline has no answer.** The sanitizer refuses an allow-list in which a
tag that goes with its content has a list of attributes. The common allow-list has
no such tag, but a configuration may add attributes for one: then the pipeline
answers for no tree (`process_returns_iff`).
-/

namespace PostPress

namespace Schema

/-! ### The lists that contradict each other -/

theorem contains_tagAttributes (schema : Schema) (tag : String) :
    schema.tagAttributes.contains tag = true ↔
      tag ≠ anyTag ∧ schema.attributes.contains tag = true := by
  rw [tagAttributes, NameMap.contains_ofList, NameMap.contains_iff_mem_names, NameMap.names]
  simp only [List.mem_map, List.mem_filter, decide_eq_true_eq]
  constructor
  · rintro ⟨entry, ⟨hentry, hany⟩, rfl⟩
    exact ⟨hany, entry, hentry, rfl⟩
  · rintro ⟨hany, entry, hentry, rfl⟩
    exact ⟨entry, ⟨hentry, hany⟩, rfl⟩

theorem mem_withContent (schema : Schema) (tag : String) :
    tag ∈ schema.withContent ↔
      schema.strip.contains tag = true ∧ schema.allowsTag tag = false := by
  simp [withContent, allowsTag, NameSet.contains]

/-- An allow-list is refused exactly if a tag that goes with its content has a list
of attributes. -/
theorem cleanRules_isOk_iff (schema : Schema) :
    (∃ rules, schema.cleanRules = .ok rules) ↔
      ∀ tag, schema.strip.contains tag = true → tag ≠ anyTag →
        schema.attributes.contains tag = true → schema.allowsTag tag = true := by
  unfold cleanRules
  cases hfind : schema.withContent.find? schema.tagAttributes.contains with
  | some tag =>
      have hlisted := (schema.contains_tagAttributes tag).1 (List.find?_some hfind)
      have hcontent := (schema.mem_withContent tag).1 (List.mem_of_find?_eq_some hfind)
      refine iff_of_false (by simp) fun hall => ?_
      exact absurd (hall tag hcontent.1 hlisted.1 hlisted.2) (by simp [hcontent.2])
  | none =>
      refine iff_of_true ⟨_, rfl⟩ fun tag hstrip hany hattributes => ?_
      by_contra hallowed
      have hcontent : tag ∈ schema.withContent :=
        (schema.mem_withContent tag).2 ⟨hstrip, by simpa using hallowed⟩
      have hlisted : schema.tagAttributes.contains tag = true :=
        (schema.contains_tagAttributes tag).2 ⟨hany, hattributes⟩
      exact List.find?_eq_none.1 hfind tag hcontent hlisted

end Schema

namespace Pipeline

/-- The tags that go with their content are those of the common allow-list. -/
theorem mem_strip_schema (config : Config) (tag : String) :
    (schema config).strip.contains tag = true ↔ tag ∈ ["script", "style"] :=
  NameSet.contains_ofList ..

/-- No stage asks for a tag that goes with its content, or for attributes of one. -/
theorem stages_leave_stripped (embeds : Bool) {tag : String} (htag : tag ∈ ["script", "style"]) :
    tag ≠ anyTag ∧
      (Schema.default.extend (stageExtension embeds)).attributes.contains tag = false ∧
      (Schema.default.extend (stageExtension embeds)).allowsTag tag = false := by
  revert embeds tag
  decide +kernel

/-- All that can fail is making the rules, and these do not depend on the tree. -/
theorem map_process (config : Config) (tree : Node) :
    ((ofConfig config).process tree).map (fun _ => ()) =
      (schema config).cleanRules.map fun _ => () := by
  have hprocess : (ofConfig config).process tree =
      ((schema config).sanitize ((ofConfig config).prepare tree).2).map
        fun result => ⟨result, ((ofConfig config).prepare tree).1⟩ := rfl
  rw [hprocess, Schema.sanitize, Schema.sanitizeWith]
  cases (schema config).cleanRules <;> rfl

theorem process_isOk_iff_cleanRules (config : Config) (tree : Node) :
    (∃ rendered, (ofConfig config).process tree = .ok rendered) ↔
      ∃ rules, (schema config).cleanRules = .ok rules := by
  have hmap := map_process config tree
  cases hprocess : (ofConfig config).process tree <;> cases hrules : (schema config).cleanRules <;>
    simp_all [Except.map]

/-- **A pipeline answers exactly if** its configuration adds no attributes to a tag
that goes with its content, or allows that tag as well; the tree does not matter. -/
theorem process_returns_iff (config : Config) (tree : Node) :
    (∃ rendered, (ofConfig config).process tree = .ok rendered) ↔
      ∀ tag ∈ ["script", "style"],
        tag ∈ config.sanitize.attributes.names.map Text.asciiLower →
          tag ∈ config.sanitize.tagNames.map Text.asciiLower := by
  rw [process_isOk_iff_cleanRules, Schema.cleanRules_isOk_iff]
  constructor
  · intro hall tag htag hadded
    obtain ⟨hany, -, hstages⟩ := stages_leave_stripped config.embeds htag
    have hlisted : (schema config).attributes.contains tag = true :=
      (Schema.contains_attributes_extend ..).2 (.inl hadded)
    have hallowed := hall tag ((mem_strip_schema config tag).2 htag) hany hlisted
    rcases (Schema.allowsTag_extend_iff ..).1 hallowed with h | h
    · exact h
    · exact absurd (hstages.symm.trans h) Bool.false_ne_true
  · intro hall tag hstrip _ hlisted
    have htag := (mem_strip_schema config tag).1 hstrip
    obtain ⟨-, hstages, -⟩ := stages_leave_stripped config.embeds htag
    rcases (Schema.contains_attributes_extend ..).1 hlisted with h | h
    · exact (Schema.allowsTag_extend_iff ..).2 (.inl (hall tag htag h))
    · exact absurd (hstages.symm.trans h) Bool.false_ne_true

/-- A configuration that is read without an error, and with which no tree is
answered: it adds attributes to `script`. -/
theorem process_refuses_script_attributes :
    ∃ config, Config.ofText? "\x7b\"sanitize\":\x7b\"attributes\":\x7b\"script\":[\"src\"]\x7d\x7d\x7d" =
        some config ∧
      ∀ tree, (ofConfig config).process tree =
        .error (.attributesOfStrippedTag "script") := by
  let config : Config := ⟨true, ⟨[], .ofList [("script", ["src"])], ∅⟩, .default⟩
  have hread : Config.ofText?
      "\x7b\"sanitize\":\x7b\"attributes\":\x7b\"script\":[\"src\"]\x7d\x7d\x7d" =
        some config := by
    decide +kernel
  have hrules : ((schema config).cleanRules.map fun _ => ()) =
      .error (.attributesOfStrippedTag "script") := by
    decide +kernel
  refine ⟨config, hread, fun tree => ?_⟩
  have hmap := (map_process config tree).trans hrules
  cases hprocess : (ofConfig config).process tree with
  | error e =>
      rw [hprocess] at hmap
      exact congrArg Except.error (Except.error.inj hmap)
  | ok rendered =>
      rw [hprocess] at hmap
      exact absurd hmap nofun

end Pipeline

end PostPress
