import PostPress.Proofs.Sanitize.Schema

/-!
# PostPress.Proofs.Sanitize.Merge

**Two extensions in one.** An allow-list that is extended by two merged extensions has the
tags and attributes that it has when it is extended by one after the other, whatever the
letter case of their keys (`attributes_extend_merge`). For the schemes of a key letter case
matters: extensions are merged by keys as they are written, so entries of both may be left
for one key in lower case, and of these the one with the last key counts, be it of the first
extension or of the second (`protocolAt?_merge`). The results are equal exactly if both
extensions have the same schemes for each key where it is that of the first one
(`extend_merge_iff`).
-/

namespace PostPress

namespace SchemaExtension

/-! ### Attributes -/

/-- Add the attributes of an entry to those that its key has. -/
def addNames (attributes : NameMap (List String)) (entry : String × List String) :
    NameMap (List String) :=
  attributes.insert entry.1 ((attributes.get? entry.1).getD [] ++ entry.2)

theorem attributes_merge (first second : SchemaExtension) :
    (first.merge second).attributes =
      second.attributes.entries.foldl addNames first.attributes := rfl

/-- The attributes that are listed for a key as it is written. -/
def named (attributes : NameMap (List String)) (key : String) : List String :=
  (attributes.get? key).getD []

theorem mem_named_iff {attributes : NameMap (List String)} {key name : String} :
    name ∈ named attributes key ↔ ∃ entry ∈ attributes.entries, entry.1 = key ∧ name ∈ entry.2 := by
  unfold named
  constructor
  · intro h
    cases hget : attributes.get? key with
    | none => simp [hget] at h
    | some names =>
        rw [hget] at h
        exact ⟨(key, names), NameMap.mem_entries_iff.2 hget, rfl, h⟩
  · rintro ⟨⟨_, names⟩, hentry, rfl, hname⟩
    rwa [NameMap.mem_entries_iff.1 hentry]

theorem mem_named_addNames (attributes : NameMap (List String)) (entry : String × List String)
    (key name : String) :
    name ∈ named (addNames attributes entry) key ↔
      (entry.1 = key ∧ name ∈ entry.2) ∨ name ∈ named attributes key := by
  unfold named addNames
  rw [NameMap.get?_insert]
  split
  · next hkey => rw [Option.getD_some, List.mem_append, or_comm, hkey, and_iff_right rfl]
  · next hkey => rw [or_iff_right fun h => hkey h.1.symm]

/-- Merged extensions list the attributes of both. -/
theorem mem_named_merge {first second : SchemaExtension} {key name : String} :
    name ∈ named (first.merge second).attributes key ↔
      name ∈ named second.attributes key ∨ name ∈ named first.attributes key := by
  rw [attributes_merge, @mem_named_iff second.attributes]
  exact foldl_iff_exists_or (P := (name ∈ named · key))
    (fun attributes entry => mem_named_addNames attributes entry key name) ..

theorem adds_iff {extension : SchemaExtension} {key name : String} :
    extension.Adds key name ↔ ∃ writtenKey writtenName,
      writtenName ∈ named extension.attributes writtenKey ∧
        Text.asciiLower writtenKey = key ∧ Text.asciiLower writtenName = name := by
  simp only [Adds, mem_named_iff, List.mem_map]
  constructor
  · rintro ⟨entry, hentry, hkey, written, hwritten, hname⟩
    exact ⟨entry.1, written, ⟨entry, hentry, rfl, hwritten⟩, hkey, hname⟩
  · rintro ⟨_, written, ⟨entry, hentry, rfl, hwritten⟩, hkey, hname⟩
    exact ⟨entry, hentry, hkey, written, hwritten, hname⟩

/-- Merged extensions add what both add. -/
theorem adds_merge {first second : SchemaExtension} {key name : String} :
    (first.merge second).Adds key name ↔ second.Adds key name ∨ first.Adds key name := by
  simp only [adds_iff, mem_named_merge, or_and_right, exists_or]

/-- Merged extensions have the keys of both. -/
theorem mem_names_merge {first second : SchemaExtension} {key : String} :
    key ∈ (first.merge second).attributes.names ↔
      key ∈ second.attributes.names ∨ key ∈ first.attributes.names := by
  have hfold := foldl_iff_exists_or (f := addNames) (P := (·.contains key = true))
    (fun _ _ => NameMap.contains_insert ..) second.attributes.entries first.attributes
  rw [← NameMap.contains_iff_mem_names, attributes_merge, hfold, NameMap.contains_iff_mem_names]
  simp only [NameMap.names, List.mem_map, eq_comm]

/-! ### Schemes -/

theorem get?_protocols_merge (first second : SchemaExtension) (key : String) :
    (first.merge second).protocols.get? key =
      (second.protocols.get? key).or (first.protocols.get? key) :=
  NameMap.get?_union ..

/-- An extension has an entry for a key that is written in this way. -/
def Spells (extension : SchemaExtension) (key written : String) : Prop :=
  extension.protocols.contains written = true ∧ Text.asciiLower written = key

theorem spells_merge {first second : SchemaExtension} {key written : String} :
    (first.merge second).Spells key written ↔
      second.Spells key written ∨ first.Spells key written := by
  unfold Spells
  rw [NameMap.contains, get?_protocols_merge, Option.isSome_or, Bool.or_eq_true, or_and_right]
  rfl

theorem spells_of_get? {extension : SchemaExtension} {key written : String} {names : List String}
    (hget : extension.protocols.get? written = some names)
    (hkey : Text.asciiLower written = key) : extension.Spells key written :=
  ⟨Option.isSome_iff_exists.2 ⟨names, hget⟩, hkey⟩

theorem protocolAt?_eq_some_iff {extension : SchemaExtension} {key : String}
    {entry : String × List String} :
    extension.protocolAt? key = some entry ↔
      extension.protocols.get? entry.1 = some entry.2 ∧ Text.asciiLower entry.1 = key ∧
        ∀ written, extension.Spells key written → ¬entry.1 < written := by
  rw [protocolAt?, NameMap.getLast?_filter_eq_some_iff, NameMap.mem_entries_iff, beq_iff_eq]
  refine and_congr_right fun _ => and_congr_right fun _ => ⟨?_, ?_⟩
  · rintro hgreatest written ⟨hcontains, hkey⟩
    obtain ⟨names, hget⟩ := Option.isSome_iff_exists.1 hcontains
    exact hgreatest (written, names) (NameMap.mem_entries_iff.2 hget) (beq_iff_eq.2 hkey)
  · rintro hgreatest other hother hkey
    exact hgreatest other.1 (spells_of_get? (NameMap.mem_entries_iff.1 hother) (beq_iff_eq.1 hkey))

theorem spells_of_protocolAt? {extension : SchemaExtension} {key : String}
    {entry : String × List String} (h : extension.protocolAt? key = some entry) :
    extension.Spells key entry.1 :=
  have ⟨hget, hkey, _⟩ := protocolAt?_eq_some_iff.1 h
  spells_of_get? hget hkey

theorem protocolAt?_eq_none_iff {extension : SchemaExtension} {key : String} :
    extension.protocolAt? key = none ↔ ∀ written, ¬extension.Spells key written := by
  rw [protocolAt?, List.getLast?_eq_none_iff, List.filter_eq_nil_iff]
  constructor
  · rintro hnone written ⟨hcontains, hkey⟩
    obtain ⟨names, hget⟩ := Option.isSome_iff_exists.1 hcontains
    exact hnone (written, names) (NameMap.mem_entries_iff.2 hget) (beq_iff_eq.2 hkey)
  · intro hnone entry hentry hkey
    exact hnone entry.1 (spells_of_get? (NameMap.mem_entries_iff.1 hentry) (beq_iff_eq.1 hkey))

section

variable {first second : SchemaExtension} {key : String} {former latter : String × List String}

/-- An entry of the first extension is left if the second one spells its key before it only. -/
theorem protocolAt?_merge_of_former (hformer : first.protocolAt? key = some former)
    (hsecond : ∀ written, second.Spells key written → written < former.1) :
    (first.merge second).protocolAt? key = some former := by
  obtain ⟨hget, hkey, hgreatest⟩ := protocolAt?_eq_some_iff.1 hformer
  refine protocolAt?_eq_some_iff.2 ⟨?_, hkey, fun written hwritten => ?_⟩
  · -- The union prefers the second extension, which must not have the same spelling.
    have hnone : second.protocols.get? former.1 = none :=
      Option.eq_none_iff_forall_not_mem.2 fun names hnames =>
        String.lt_irrefl _ (hsecond _ (spells_of_get? hnames hkey))
    rw [get?_protocols_merge, hnone, Option.none_or, hget]
  · rcases spells_merge.1 hwritten with hwritten | hwritten
    · exact String.lt_asymm (hsecond written hwritten)
    · exact hgreatest written hwritten

/-- An entry of the second extension is left if the first one spells its key nowhere after it. -/
theorem protocolAt?_merge_of_latter (hlatter : second.protocolAt? key = some latter)
    (hfirst : ∀ written, first.Spells key written → ¬latter.1 < written) :
    (first.merge second).protocolAt? key = some latter := by
  obtain ⟨hget, hkey, hgreatest⟩ := protocolAt?_eq_some_iff.1 hlatter
  refine protocolAt?_eq_some_iff.2 ⟨?_, hkey, fun written hwritten => ?_⟩
  · rw [get?_protocols_merge, hget, Option.some_or]
  · rcases spells_merge.1 hwritten with hwritten | hwritten
    · exact hgreatest written hwritten
    · exact hfirst written hwritten

end

/-- The entry of two that has the later key, the second one if the keys are equal. -/
def later : Option (String × List String) → Option (String × List String) →
    Option (String × List String)
  | some former, some latter => if latter.1 < former.1 then some former else some latter
  | former, none => former
  | none, latter => latter

/-- Of the entries of both extensions for a key the one with the later key counts. -/
theorem protocolAt?_merge (first second : SchemaExtension) (key : String) :
    (first.merge second).protocolAt? key =
      later (first.protocolAt? key) (second.protocolAt? key) := by
  cases hformer : first.protocolAt? key with
  | none =>
      have hfirst := protocolAt?_eq_none_iff.1 hformer
      cases hlatter : second.protocolAt? key with
      | none =>
          refine protocolAt?_eq_none_iff.2 fun written hwritten => ?_
          exact (spells_merge.1 hwritten).elim (protocolAt?_eq_none_iff.1 hlatter written)
            (hfirst written)
      | some latter =>
          exact protocolAt?_merge_of_latter hlatter fun written h => absurd h (hfirst written)
  | some former =>
      have hformerGreatest := (protocolAt?_eq_some_iff.1 hformer).2.2
      cases hlatter : second.protocolAt? key with
      | none =>
          have hsecond := protocolAt?_eq_none_iff.1 hlatter
          exact protocolAt?_merge_of_former hformer fun written h => absurd h (hsecond written)
      | some latter =>
          have hlatterGreatest := (protocolAt?_eq_some_iff.1 hlatter).2.2
          rw [later]
          split
          · next hlt =>
              refine protocolAt?_merge_of_former hformer fun written hwritten => ?_
              exact Std.lt_of_le_of_lt (String.not_lt.1 (hlatterGreatest written hwritten)) hlt
          · next hle =>
              refine protocolAt?_merge_of_latter hlatter fun written hwritten hlt => ?_
              exact hformerGreatest written hwritten
                (Std.lt_of_le_of_lt (String.not_lt.1 hle) hlt)

end SchemaExtension

namespace Schema

/-- Lists of attributes are equal if they have the same keys and attributes. -/
theorem attributes_ext {attributes attributes' : NameMap NameSet}
    (hkeys : ∀ key, attributes.contains key = attributes'.contains key)
    (hnames : ∀ key name, listedIn attributes key name = listedIn attributes' key name) :
    attributes = attributes' := by
  refine NameMap.ext_get? fun key => ?_
  have hkey := hkeys key
  have hname := hnames key
  unfold NameMap.contains at hkey
  unfold listedIn at hname
  cases hget : attributes.get? key <;> cases hget' : attributes'.get? key <;>
    simp only [hget, hget', Option.isSome_none, Option.isSome_some, Bool.true_eq_false,
      Bool.false_eq_true, Option.getD_some] at hkey hname
  · rfl
  · exact congrArg some (NameSet.ext_contains hname)

section

variable (schema : Schema) (first second : SchemaExtension)

theorem tagNames_extend_merge :
    (schema.extend (first.merge second)).tagNames =
      ((schema.extend first).extend second).tagNames := by
  simp only [extend, SchemaExtension.merge, NameSet.insertMany, List.map_append, List.foldl_append]

theorem attributes_extend_merge :
    (schema.extend (first.merge second)).attributes =
      ((schema.extend first).extend second).attributes := by
  -- An entry without attributes counts too, so keys are compared apart from attributes.
  refine attributes_ext (fun key => ?_) fun key name => ?_
  · rw [Bool.eq_iff_iff, contains_attributes_extend, contains_attributes_extend,
      contains_attributes_extend, ← or_assoc]
    refine or_congr_left ?_
    simp only [List.mem_map, SchemaExtension.mem_names_merge, or_and_right, exists_or]
  · rw [Bool.eq_iff_iff, ← lists_eq_listedIn, ← lists_eq_listedIn, lists_extend_iff,
      lists_extend_iff, lists_extend_iff, SchemaExtension.adds_merge, or_assoc]

/-- The schemes of the entry that is left and those of the second extension, or else of the
first one, are the same, unless the first one has other schemes and the later key. -/
theorem schemes_later_iff (former latter : Option (String × List String))
    (schemes? : Option NameSet) :
    ((SchemaExtension.later former latter).map (schemes ·.2)).or schemes? =
        (latter.map (schemes ·.2)).or ((former.map (schemes ·.2)).or schemes?) ↔
      ∀ entry ∈ former, ∀ entry' ∈ latter, entry'.1 < entry.1 →
        schemes entry.2 = schemes entry'.2 := by
  cases former with
  | none => cases latter <;> simp [SchemaExtension.later]
  | some former =>
      cases latter with
      | none => simp [SchemaExtension.later]
      | some latter =>
          simp only [SchemaExtension.later, Option.mem_some_iff, forall_eq']
          split
          · next hlt =>
              rw [imp_iff_right hlt]
              exact Option.some_inj
          · next hle => exact iff_of_true rfl fun hlt => absurd hlt hle

theorem protocols_extend_merge_iff :
    (schema.extend (first.merge second)).protocols =
        ((schema.extend first).extend second).protocols ↔
      ∀ key, ∀ former ∈ first.protocolAt? key, ∀ latter ∈ second.protocolAt? key,
        latter.1 < former.1 → schemes former.2 = schemes latter.2 := by
  have hget : ∀ key, (schema.extend (first.merge second)).protocols.get? key =
      ((schema.extend first).extend second).protocols.get? key ↔
        ∀ former ∈ first.protocolAt? key, ∀ latter ∈ second.protocolAt? key,
          latter.1 < former.1 → schemes former.2 = schemes latter.2 := by
    intro key
    rw [get?_protocols_extend, get?_protocols_extend, get?_protocols_extend,
      SchemaExtension.protocolAt?_merge]
    exact schemes_later_iff ..
  exact ⟨fun h key => (hget key).1 (congrArg (NameMap.get? · key) h),
    fun h => NameMap.ext_get? fun key => (hget key).2 (h key)⟩

/-- As an extension has no part in what is stripped, its schemes decide. -/
theorem extend_merge_eq_iff :
    schema.extend (first.merge second) = (schema.extend first).extend second ↔
      ∀ key, ∀ former ∈ first.protocolAt? key, ∀ latter ∈ second.protocolAt? key,
        latter.1 < former.1 → schemes former.2 = schemes latter.2 := by
  rw [← protocols_extend_merge_iff schema]
  refine ⟨congrArg Schema.protocols, fun hprotocols => ?_⟩
  exact (Schema.mk.injEq ..).mpr
    ⟨tagNames_extend_merge .., attributes_extend_merge .., hprotocols, rfl⟩

variable {first second} in
/-- Merging comes to the same if the first extension spells no key with later letters than
the second one. -/
theorem extend_merge_of_not_lt
    (h : ∀ key written written', first.Spells key written → second.Spells key written' →
      ¬written' < written) :
    schema.extend (first.merge second) = (schema.extend first).extend second :=
  (extend_merge_eq_iff schema first second).2 fun key _ hformer _ hlatter hlt =>
    absurd hlt (h key _ _ (SchemaExtension.spells_of_protocolAt? hformer)
      (SchemaExtension.spells_of_protocolAt? hlatter))

end

/-- **Merged and in turn.** Two merged extensions add the same tags and attributes as one
after the other, and leave alone what is stripped. The whole allow-lists are equal exactly if
the schemes of the second extension for a key are those of the first one wherever the first
one spells that key with later letters (upper case letters come before lower case). -/
theorem extend_merge_iff (schema : Schema) (first second : SchemaExtension) :
    let merged := schema.extend (first.merge second)
    let inTurn := (schema.extend first).extend second
    merged.tagNames = inTurn.tagNames ∧ merged.attributes = inTurn.attributes ∧
      merged.strip = inTurn.strip ∧
        (merged = inTurn ↔
          ∀ key, ∀ former ∈ first.protocolAt? key, ∀ latter ∈ second.protocolAt? key,
            latter.1 < former.1 → schemes former.2 = schemes latter.2) :=
  ⟨tagNames_extend_merge .., attributes_extend_merge .., rfl, extend_merge_eq_iff ..⟩

/-- The two differ if the first extension spells a key in lower case and the second one in
upper case: merged the first one counts, in turn the second one. -/
theorem extend_merge_upper_case :
    let first : SchemaExtension := ⟨[], ∅, .ofList [("href", ["https"])]⟩
    let second : SchemaExtension := ⟨[], ∅, .ofList [("HREF", ["http"])]⟩
    (empty.extend (first.merge second)).protocols = .ofList [("href", .ofList ["https"])] ∧
      ((empty.extend first).extend second).protocols = .ofList [("href", .ofList ["http"])] ∧
        empty.extend (first.merge second) ≠ (empty.extend first).extend second := by
  decide +kernel

end Schema

namespace Pipeline

/-- The extensions of a configuration, in the order in which they count. -/
def extensions (config : Config) : List SchemaExtension :=
  [.formatting, .footnotes] ++ (if config.embeds then [.embeds] else []) ++ [config.sanitize]

/-- The extensions of the stages are merged, but could be made in turn: those before the last
one have no schemes. -/
theorem schema_eq_foldl_extend (config : Config) :
    schema config = (extensions config).foldl Schema.extend .default := by
  have hbase : Schema.default.extend (SchemaExtension.formatting.merge .footnotes) =
      (Schema.default.extend .formatting).extend .footnotes :=
    Schema.extend_merge_of_not_lt _ fun _ _ _ ⟨hcontains, _⟩ => absurd hcontains nofun
  unfold schema stageExtension extensions
  split
  · rw [Schema.extend_merge_of_not_lt _ fun _ _ _ ⟨hcontains, _⟩ => absurd hcontains nofun, hbase]
    rfl
  · rw [hbase]
    rfl

end Pipeline

end PostPress
