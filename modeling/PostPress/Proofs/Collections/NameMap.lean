import Mathlib.Data.List.Nodup
import Mathlib.Data.List.Sort
import PostPress.Collections.NameMap

/-!
# PostPress.Proofs.Collections.NameMap

**The names of a map.** A name has a value exactly if it is one of the names of the
entries, and a map is determined by the values of the names (`NameMap.ext_get?`), as a set
is by its names (`NameSet.ext_contains`). What a map made of a list of pairs holds are pairs
of that list. Of the entries that pass a test the last one has the greatest name
(`NameMap.getLast?_filter_eq_some_iff`).
-/

namespace PostPress

universe u v

/-- What a fold ends with, it began with, or one of the entries has added it. -/
theorem foldl_iff_exists_or {α : Type u} {β : Type v} {f : α → β → α} {P : α → Prop}
    {Q : β → Prop} (hstep : ∀ state entry, P (f state entry) ↔ Q entry ∨ P state)
    (entries : List β) (state : α) :
    P (entries.foldl f state) ↔ (∃ entry ∈ entries, Q entry) ∨ P state := by
  induction entries generalizing state with
  | nil => simp
  | cons entry rest ih =>
      simp only [List.foldl_cons, ih, hstep, List.mem_cons, exists_eq_or_imp]
      rw [or_left_comm, or_assoc]

namespace NameMap

variable {α : Type u}

theorem contains_iff_mem_names (m : NameMap α) (name : String) :
    m.contains name = true ↔ name ∈ m.names := by
  rw [contains, get?, names]
  induction m.entries with
  | nil => simp
  | cons entry rest ih =>
      rw [lookup_cons_eq_ite, List.map_cons, List.mem_cons]
      by_cases hname : name = entry.1
      · simp [hname]
      · simp [hname, ih]

theorem contains_insert (m : NameMap α) (name : String) (value : α) (n : String) :
    (m.insert name value).contains n = true ↔ n = name ∨ m.contains n = true := by
  rw [contains, get?_insert, contains]
  by_cases hn : n = name
  · simp [hn]
  · simp [hn]

theorem contains_ofList (pairs : List (String × α)) (name : String) :
    (ofList pairs).contains name = true ↔ name ∈ pairs.map (·.1) := by
  rw [contains, get?_ofList, Option.isSome_map, List.getLast?_isSome, Ne, List.filter_eq_nil_iff]
  simp

/-- What a map made of pairs holds under a name is one of the pairs. -/
theorem mem_of_get?_ofList {pairs : List (String × α)} {name : String} {value : α}
    (h : (ofList pairs).get? name = some value) : (name, value) ∈ pairs := by
  rw [get?_ofList] at h
  obtain ⟨pair, hlast, rfl⟩ := Option.map_eq_some_iff.1 h
  obtain ⟨hmem, hname⟩ := List.mem_filter.1 (List.mem_of_getLast? hlast)
  rwa [← beq_iff_eq.1 hname]

/-- A map has the value of each of its entries under the name of it. -/
theorem get?_of_mem_entries {m : NameMap α} {name : String} {value : α}
    (h : (name, value) ∈ m.entries) : m.get? name = some value := by
  obtain ⟨entries, hascending⟩ := m
  rw [get?]
  induction entries with
  | nil => exact absurd h List.not_mem_nil
  | cons entry rest ih =>
      obtain ⟨hfirst, hrest⟩ := List.pairwise_cons.1 hascending
      rw [lookup_cons_eq_ite]
      rcases List.mem_cons.1 h with rfl | h
      · exact if_pos rfl
      · have hne : name ≠ entry.1 := fun heq => String.lt_irrefl _ (heq ▸ hfirst _ h)
        rw [if_neg hne]
        exact ih hrest h

theorem mem_entries_iff {m : NameMap α} {name : String} {value : α} :
    (name, value) ∈ m.entries ↔ m.get? name = some value :=
  ⟨get?_of_mem_entries, mem_of_lookup_eq_some⟩

/-- Of the entries of a map only one has a name. -/
theorem getLast?_filter_entries (m : NameMap α) (name : String) :
    (m.entries.filter (·.1 == name)).getLast?.map (·.2) = m.get? name := by
  have hentry : ∀ entry ∈ m.entries.filter (·.1 == name), m.get? name = some entry.2 := by
    intro entry hentry
    obtain ⟨hmem, hname⟩ := List.mem_filter.1 hentry
    exact mem_entries_iff.1 (beq_iff_eq.1 hname ▸ hmem)
  cases hlast : (m.entries.filter (·.1 == name)).getLast? with
  | some entry => exact (hentry entry (List.mem_of_getLast? hlast)).symm
  | none =>
      rw [List.getLast?_eq_none_iff] at hlast
      refine (Option.eq_none_iff_forall_not_mem.2 fun value hvalue => ?_).symm
      have hmem := mem_entries_iff.2 hvalue
      exact List.filter_eq_nil_iff.1 hlast _ hmem (beq_self_eq_true name)

theorem get?_union (m m' : NameMap α) (name : String) :
    (m.union m').get? name = (m'.get? name).or (m.get? name) := by
  rw [union, get?_foldl_insert, getLast?_filter_entries]

/-- The last of the entries that pass a test is the one of them with the greatest name. -/
theorem getLast?_filter_eq_some_iff {m : NameMap α} {test : String × α → Bool}
    {entry : String × α} :
    (m.entries.filter test).getLast? = some entry ↔
      entry ∈ m.entries ∧ test entry = true ∧
        ∀ other ∈ m.entries, test other = true → ¬entry.1 < other.1 := by
  have hgreatest : ∀ {last : String × α}, (m.entries.filter test).getLast? = some last →
      ∀ other ∈ m.entries, test other = true → ¬last.1 < other.1 := by
    intro last hlast other hother htest
    obtain ⟨front, hfront⟩ := List.getLast?_eq_some_iff.1 hlast
    have hascending := m.ascending.filter test
    have hmem := List.mem_filter.2 ⟨hother, htest⟩
    rw [hfront] at hascending hmem
    rcases List.mem_append.1 hmem with hmem | hmem
    · have hlt := (List.pairwise_append.1 hascending).2.2 other hmem last (List.mem_singleton_self _)
      exact String.lt_asymm hlt
    · rw [List.mem_singleton.1 hmem]
      exact String.lt_irrefl _
  refine ⟨fun hlast => ?_, fun ⟨hentry, htest, hentryGreatest⟩ => ?_⟩
  · obtain ⟨hmem, htest⟩ := List.mem_filter.1 (List.mem_of_getLast? hlast)
    exact ⟨hmem, htest, hgreatest hlast⟩
  · cases hlast : (m.entries.filter test).getLast? with
    | none =>
        exact absurd htest (List.filter_eq_nil_iff.1 (List.getLast?_eq_none_iff.1 hlast) _ hentry)
    | some last =>
        obtain ⟨hmem, hpasses⟩ := List.mem_filter.1 (List.mem_of_getLast? hlast)
        -- Neither of the two names is below the other, and a name has one value.
        have hname : last.1 = entry.1 := String.le_antisymm
          (String.not_lt.1 (hentryGreatest last hmem hpasses))
          (String.not_lt.1 (hgreatest hlast entry hentry htest))
        have hvalue := mem_entries_iff.1 hmem
        rw [hname, mem_entries_iff.1 hentry] at hvalue
        rw [Prod.ext hname (Option.some.inj hvalue).symm]

/-- A name below all names of some entries has no value among them. -/
theorem lookup_eq_none_of_lt {name : String} {entries : List (String × α)}
    (h : ∀ entry ∈ entries, name < entry.1) : entries.lookup name = none := by
  refine List.lookup_eq_none_iff.2 fun entry hentry => ?_
  rw [bne_iff_ne]
  rintro rfl
  exact String.lt_irrefl _ (h entry hentry)

/-- A name that has a value among ascending entries is not below the first of them. -/
theorem not_lt_of_lookup_cons {name : String} {value : α} {entry : String × α}
    {entries : List (String × α)} (hascending : (entry :: entries).Pairwise (·.1 < ·.1))
    (h : some value = (entry :: entries).lookup name) : ¬name < entry.1 := by
  intro hlt
  have hnone : (entry :: entries).lookup name = none := by
    refine lookup_eq_none_of_lt fun other hother => ?_
    rcases List.mem_cons.1 hother with rfl | hother
    · exact hlt
    · exact String.lt_trans hlt ((List.pairwise_cons.1 hascending).1 other hother)
  exact absurd (h.trans hnone) (Option.some_ne_none value)

theorem lookup_cons_self (entry : String × α) (entries : List (String × α)) :
    (entry :: entries).lookup entry.1 = some entry.2 := by
  rw [lookup_cons_eq_ite, if_pos rfl]

/-- Ascending entries are determined by the values that their names have. -/
theorem entries_ext {as bs : List (String × α)} (has : as.Pairwise (·.1 < ·.1))
    (hbs : bs.Pairwise (·.1 < ·.1)) (h : ∀ name, as.lookup name = bs.lookup name) : as = bs := by
  induction as generalizing bs with
  | nil =>
      cases bs with
      | nil => rfl
      | cons b bs => exact absurd ((h b.1).trans (lookup_cons_self b bs)) nofun
  | cons a as ih =>
      cases bs with
      | nil => exact absurd ((h a.1).symm.trans (lookup_cons_self a as)) nofun
      | cons b bs =>
          have hname : a.1 = b.1 := String.le_antisymm
            (String.not_lt.1 (not_lt_of_lookup_cons has ((h b.1).trans (lookup_cons_self b bs)).symm))
            (String.not_lt.1 (not_lt_of_lookup_cons hbs ((lookup_cons_self a as).symm.trans (h a.1))))
          have hvalue : some a.2 = some b.2 := by
            rw [← lookup_cons_self a as, h, hname, lookup_cons_self]
          obtain ⟨hfirst, has⟩ := List.pairwise_cons.1 has
          obtain ⟨hfirst', hbs⟩ := List.pairwise_cons.1 hbs
          have hrest : as = bs := by
            refine ih has hbs fun name => ?_
            by_cases hn : name = a.1
            · rw [hn, lookup_eq_none_of_lt hfirst, lookup_eq_none_of_lt (hname ▸ hfirst')]
            · have hboth := h name
              rwa [lookup_cons_eq_ite, if_neg hn, lookup_cons_eq_ite, if_neg (hname ▸ hn)] at hboth
          rw [hrest, Prod.ext hname (Option.some.inj hvalue)]

/-- Maps are equal if every name has the same value in both. -/
theorem ext_get? {m m' : NameMap α} (h : ∀ name, m.get? name = m'.get? name) : m = m' := by
  obtain ⟨entries, hascending⟩ := m
  obtain ⟨entries', hascending'⟩ := m'
  obtain rfl : entries = entries' := entries_ext hascending hascending' h
  rfl

end NameMap

namespace NameSet

/-- Sets are equal if they have the same names. -/
theorem ext_contains {s t : NameSet} (h : ∀ name, s.contains name = t.contains name) : s = t := by
  obtain ⟨names, hnames⟩ := s
  obtain ⟨names', hnames'⟩ := t
  have hdistinct : ∀ {names : List String}, names.Pairwise (· < ·) → names.Nodup :=
    fun hnames => hnames.imp fun {a b} hlt => by
      rintro rfl
      exact String.lt_irrefl a hlt
  have hperm : names.Perm names' := by
    refine (List.perm_ext_iff_of_nodup (hdistinct hnames) (hdistinct hnames')).2 fun name => ?_
    rw [← List.contains_iff_mem, ← List.contains_iff_mem]
    exact iff_of_eq (congrArg (· = true) (h name))
  obtain rfl : names = names' := hperm.eq_of_pairwise
    (fun a b _ _ hlt hlt' => absurd hlt' (String.lt_asymm hlt)) hnames hnames'
  rfl

end NameSet

end PostPress
