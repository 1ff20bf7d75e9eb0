/-!
# PostPress.Collections.NameMap

Finite maps and sets keyed by names (strings). The entries are kept in
ascending order of their names, by code point, and no name occurs twice, so a
map has one representation: two maps are equal exactly when they hold the same
entries.

* `NameMap α`: `get?`, `contains`, `insert`, `union`, `map`;
* `NameSet`: the same for bare names.
-/

namespace PostPress

universe u v

/-- A finite map from names to values, entries in ascending order of names. -/
structure NameMap (α : Type u) where
  /-- The pairs of the map. -/
  entries : List (String × α)
  /-- Names ascend strictly, so none is repeated. -/
  ascending : entries.Pairwise (·.1 < ·.1)
deriving DecidableEq, Repr

namespace NameMap

variable {α : Type u} {β : Type v}

/-- Put `value` under `name` into an ascending list, replacing an entry of that
name. -/
def insertEntry (name : String) (value : α) : List (String × α) → List (String × α)
  | [] => [(name, value)]
  | (n, v) :: rest =>
      if name < n then (name, value) :: (n, v) :: rest
      else if name = n then (name, value) :: rest
      else (n, v) :: insertEntry name value rest

theorem mem_insertEntry {name : String} {value : α} {entry : String × α}
    {entries : List (String × α)} (h : entry ∈ insertEntry name value entries) :
    entry = (name, value) ∨ entry ∈ entries := by
  induction entries with
  | nil => simpa [insertEntry] using h
  | cons head rest ih =>
    unfold insertEntry at h
    split at h
    · simpa using h
    · split at h
      · simp only [List.mem_cons] at h ⊢
        exact h.imp id .inr
      · simp only [List.mem_cons] at h ⊢
        exact h.elim (fun e => .inr (.inl e)) fun m => (ih m).imp id .inr

theorem ascending_insertEntry (name : String) (value : α) {entries : List (String × α)}
    (h : entries.Pairwise (·.1 < ·.1)) :
    (insertEntry name value entries).Pairwise (·.1 < ·.1) := by
  induction entries with
  | nil => simp [insertEntry]
  | cons head rest ih =>
    obtain ⟨hhead, hrest⟩ := List.pairwise_cons.1 h
    unfold insertEntry
    split
    · next hlt =>
      refine List.pairwise_cons.2 ⟨fun e he => ?_, h⟩
      rcases List.mem_cons.1 he with rfl | he
      · exact hlt
      · exact String.lt_trans hlt (hhead e he)
    · next hnlt =>
      split
      · next heq => exact List.pairwise_cons.2 ⟨fun e he => heq ▸ hhead e he, hrest⟩
      · next hne =>
        refine List.pairwise_cons.2 ⟨fun e he => ?_, ih hrest⟩
        rcases mem_insertEntry he with rfl | he
        · exact Std.lt_of_le_of_ne (String.not_lt.1 hnlt) (Ne.symm hne)
        · exact hhead e he

/-- The map without entries. -/
def empty : NameMap α := ⟨[], .nil⟩

instance : EmptyCollection (NameMap α) := ⟨empty⟩

instance : Inhabited (NameMap α) := ⟨empty⟩

/-- The value under `name`. -/
def get? (m : NameMap α) (name : String) : Option α := m.entries.lookup name

/-- Whether there is an entry for `name`. -/
def contains (m : NameMap α) (name : String) : Bool := (m.get? name).isSome

/-- Put `value` under `name`, replacing what was there. -/
def insert (m : NameMap α) (name : String) (value : α) : NameMap α :=
  ⟨insertEntry name value m.entries, ascending_insertEntry name value m.ascending⟩

/-- The map of a list of pairs; of two pairs with one name the later one counts. -/
def ofList (pairs : List (String × α)) : NameMap α :=
  pairs.foldl (fun m p => m.insert p.1 p.2) empty

/-- The entries of both maps; where both have a name, `m₂` decides. -/
def union (m₁ m₂ : NameMap α) : NameMap α :=
  m₂.entries.foldl (fun m p => m.insert p.1 p.2) m₁

/-- The names of the map, ascending. -/
def names (m : NameMap α) : List String := m.entries.map (·.1)

/-- The values of the map, in the order of their names. -/
def values (m : NameMap α) : List α := m.entries.map (·.2)

/-- Apply a function to every value. -/
def map (f : α → β) (m : NameMap α) : NameMap β :=
  ⟨m.entries.map fun p => (p.1, f p.2), List.pairwise_map.2 m.ascending⟩

theorem lookup_cons_eq_ite (n : String) (head : String × α) (rest : List (String × α)) :
    (head :: rest).lookup n = if n = head.1 then some head.2 else rest.lookup n := by
  obtain ⟨name, value⟩ := head
  by_cases hn : n = name
  · simp [hn]
  · simp [List.lookup_cons, hn, beq_false_of_ne hn]

theorem mem_of_lookup_eq_some {name : String} {value : α} {entries : List (String × α)}
    (h : entries.lookup name = some value) : (name, value) ∈ entries := by
  obtain ⟨before, after, hentries, -⟩ := List.lookup_eq_some_iff.1 h
  rw [hentries]
  exact List.mem_append_right before List.mem_cons_self

theorem lookup_insertEntry (name : String) (value : α) (n : String) (entries : List (String × α)) :
    (insertEntry name value entries).lookup n =
      if n = name then some value else entries.lookup n := by
  induction entries with
  | nil => rw [insertEntry, lookup_cons_eq_ite]
  | cons head rest ih =>
    unfold insertEntry
    split
    · rw [lookup_cons_eq_ite]
    · split
      · next heq =>
        rw [lookup_cons_eq_ite, lookup_cons_eq_ite]
        by_cases hn : n = name
        · rw [if_pos hn, if_pos hn]
        · rw [if_neg hn, if_neg hn, if_neg (heq ▸ hn)]
      · next hne =>
        rw [lookup_cons_eq_ite, ih, lookup_cons_eq_ite]
        by_cases hn : n = name
        · rw [if_pos hn, if_neg (hn ▸ hne), if_pos hn]
        · rw [if_neg hn, if_neg hn]

@[simp] theorem get?_empty (name : String) : (∅ : NameMap α).get? name = none := rfl

theorem get?_insert (m : NameMap α) (name : String) (value : α) (n : String) :
    (m.insert name value).get? n = if n = name then some value else m.get? n :=
  lookup_insertEntry name value n m.entries

@[simp] theorem get?_insert_self (m : NameMap α) (name : String) (value : α) :
    (m.insert name value).get? name = some value := by
  rw [get?_insert, if_pos rfl]

theorem insertEntry_insertEntry (name : String) (value former : α) (entries : List (String × α)) :
    insertEntry name value (insertEntry name former entries) = insertEntry name value entries := by
  induction entries with
  | nil => simp [insertEntry]
  | cons head rest ih =>
    obtain ⟨n, v⟩ := head
    by_cases hlt : name < n
    · simp [insertEntry, hlt]
    · by_cases heq : name = n
      · simp [insertEntry, heq]
      · simp [insertEntry, hlt, heq, ih]

/-- Of two values put under one name the later one counts. -/
@[simp] theorem insert_insert (m : NameMap α) (name : String) (value former : α) :
    (m.insert name former).insert name value = m.insert name value := by
  simp only [insert, insertEntry_insertEntry]

/-- Of the pairs put into a map the last one of a name counts. -/
theorem get?_foldl_insert (pairs : List (String × α)) (m : NameMap α) (name : String) :
    (pairs.foldl (fun m p => m.insert p.1 p.2) m).get? name =
      ((pairs.filter (·.1 == name)).getLast?.map (·.2)).or (m.get? name) := by
  induction pairs generalizing m with
  | nil => simp
  | cons pair rest ih =>
    rw [List.foldl_cons, ih, get?_insert, List.filter_cons]
    by_cases hn : pair.1 = name
    · simp only [hn, BEq.rfl, if_true, List.getLast?_cons]
      cases (rest.filter (·.1 == name)).getLast? <;> simp
    · simp [hn, Ne.symm hn]

theorem get?_ofList (pairs : List (String × α)) (name : String) :
    (ofList pairs).get? name = (pairs.filter (·.1 == name)).getLast?.map (·.2) := by
  rw [ofList, get?_foldl_insert, show (empty : NameMap α).get? name = none from rfl, Option.or_none]

end NameMap

/-- A finite set of names, in ascending order. -/
structure NameSet where
  /-- The names of the set. -/
  toList : List String
  /-- Names ascend strictly, so none is repeated. -/
  ascending : toList.Pairwise (· < ·)
deriving DecidableEq, Repr

namespace NameSet

/-- Put `name` into an ascending list that may hold it already. -/
def insertName (name : String) : List String → List String
  | [] => [name]
  | n :: rest =>
      if name < n then name :: n :: rest
      else if name = n then n :: rest
      else n :: insertName name rest

theorem mem_insertName {name n : String} {names : List String} :
    n ∈ insertName name names ↔ n = name ∨ n ∈ names := by
  induction names with
  | nil => simp [insertName]
  | cons head rest ih =>
    unfold insertName
    split
    · simp
    · split
      · next heq => subst heq; simp
      · simp only [List.mem_cons, ih]
        constructor
        · rintro (h | h | h) <;> simp [h]
        · rintro (h | h | h) <;> simp [h]

theorem ascending_insertName (name : String) {names : List String}
    (h : names.Pairwise (· < ·)) : (insertName name names).Pairwise (· < ·) := by
  induction names with
  | nil => simp [insertName]
  | cons head rest ih =>
    obtain ⟨hhead, hrest⟩ := List.pairwise_cons.1 h
    unfold insertName
    split
    · next hlt =>
      refine List.pairwise_cons.2 ⟨fun e he => ?_, h⟩
      rcases List.mem_cons.1 he with rfl | he
      · exact hlt
      · exact String.lt_trans hlt (hhead e he)
    · next hnlt =>
      split
      · exact h
      · next hne =>
        refine List.pairwise_cons.2 ⟨fun e he => ?_, ih hrest⟩
        rcases mem_insertName.1 he with rfl | he
        · exact Std.lt_of_le_of_ne (String.not_lt.1 hnlt) (Ne.symm hne)
        · exact hhead e he

/-- The set without names. -/
def empty : NameSet := ⟨[], .nil⟩

instance : EmptyCollection NameSet := ⟨empty⟩

instance : Inhabited NameSet := ⟨empty⟩

/-- Whether `name` is in the set. -/
def contains (s : NameSet) (name : String) : Bool := s.toList.contains name

/-- The set with `name` added. -/
def insert (s : NameSet) (name : String) : NameSet :=
  ⟨insertName name s.toList, ascending_insertName name s.ascending⟩

/-- The set with every name of a list added. -/
def insertMany (s : NameSet) (names : List String) : NameSet := names.foldl insert s

/-- The set of the names of a list. -/
def ofList (names : List String) : NameSet := empty.insertMany names

/-- The names of the set that satisfy `keep`. -/
def filter (s : NameSet) (keep : String → Bool) : NameSet :=
  ⟨s.toList.filter keep, s.ascending.sublist List.filter_sublist⟩

theorem contains_insert (s : NameSet) (name n : String) :
    (s.insert name).contains n = true ↔ n = name ∨ s.contains n = true := by
  simp [contains, insert, mem_insertName]

theorem contains_insertMany (s : NameSet) (names : List String) (n : String) :
    (s.insertMany names).contains n = true ↔ n ∈ names ∨ s.contains n = true := by
  unfold insertMany
  induction names generalizing s with
  | nil => simp
  | cons name rest ih => rw [List.foldl_cons, ih, contains_insert, List.mem_cons, or_left_comm,
      or_assoc]

theorem contains_ofList (names : List String) (n : String) :
    (ofList names).contains n = true ↔ n ∈ names := by
  rw [ofList, contains_insertMany]
  exact or_iff_left Bool.false_ne_true

end NameSet

end PostPress
