import PostPress.Proofs.Heading.Slugger

/-!
# PostPress.Proofs.Heading.Calls

**Any calls of a slugger.** Slugs, unique forms of ids and reservations may be asked for in any
order. What is given away in a run are the ids that are taken after it (`taken_run`), so that
each call can be judged by the ids that were given before it.

* `Slugger.Call`, `Slugger.run`, `Slugger.given` — a run of calls, and what it gives away;
* `Slugger.Probes` — the search for a free number, one number after the other.
-/

namespace PostPress

namespace Slugger

/-! ### Runs -/

/-- A call of a slugger. -/
inductive Call
  /-- Take a unique id made from a text. -/
  | slug (text : String)
  /-- Take an id as it is, or its first free numbered form. -/
  | unique (base : String)
  /-- Take an id chosen elsewhere. -/
  | reserve (id : String)
deriving DecidableEq, Repr

/-- What a call answers. -/
inductive Answer
  /-- The id that was taken. -/
  | id (id : String)
  /-- Whether the id that was asked for was free. -/
  | reserved (free : Bool)
deriving DecidableEq, Repr

/-- The answer to a call, and the slugger after it. -/
def answer (s : Slugger) : Call → Answer × Slugger
  | .slug text => (.id (s.slug text).1, (s.slug text).2)
  | .unique base => (.id (s.unique base).1, (s.unique base).2)
  | .reserve id => (.reserved (s.reserve id).1, (s.reserve id).2)

/-- The answers to some calls, and the slugger after them. -/
def run (s : Slugger) : List Call → List Answer × Slugger
  | [] => ([], s)
  | call :: rest =>
      let (answer, s) := s.answer call
      let (answers, s) := s.run rest
      (answer :: answers, s)

/-- The id that a call gives away: the one that it returns, or the one that it reserves. -/
def Call.gives? : Call → Answer → Option String
  | .reserve id, .reserved true => some id
  | _, .id id => some id
  | _, .reserved _ => none

/-- The ids that some calls with their answers give away. -/
def given (calls : List Call) (answers : List Answer) : List String :=
  (calls.zip answers).filterMap fun (call, answer) => call.gives? answer

/-- A call takes what it gives away, and that was free. -/
theorem taken_answer (s : Slugger) (call : Call) :
    (s.answer call).2.taken = (call.gives? (s.answer call).1).toList ++ s.taken ∧
      ∀ id ∈ call.gives? (s.answer call).1, id ∉ s.taken := by
  cases call with
  | slug text =>
      refine ⟨rfl, fun id hid => ?_⟩
      obtain rfl := Option.some.inj hid
      exact unique_fresh s (slugBase text)
  | unique base =>
      refine ⟨rfl, fun id hid => ?_⟩
      obtain rfl := Option.some.inj hid
      exact unique_fresh s base
  | reserve id =>
      by_cases hfree : s.isFree id = true
      · simp only [answer, reserve, if_pos hfree]
        refine ⟨rfl, fun other hother => ?_⟩
        obtain rfl := Option.some.inj hother
        exact isFree_iff.1 hfree
      · simp only [answer, reserve, if_neg hfree]
        exact ⟨rfl, nofun⟩

theorem run_cons (s : Slugger) (call : Call) (rest : List Call) :
    s.run (call :: rest) = ((s.answer call).1 :: ((s.answer call).2.run rest).1,
      ((s.answer call).2.run rest).2) := rfl

theorem given_cons (call : Call) (rest : List Call) (answer : Answer) (answers : List Answer) :
    given (call :: rest) (answer :: answers) =
      (call.gives? answer).toList ++ given rest answers := by
  simp only [given, List.zip_cons_cons, List.filterMap_cons]
  cases call.gives? answer <;> rfl

/-- A run takes what it gives away, latest first. -/
theorem taken_run (s : Slugger) (calls : List Call) :
    (s.run calls).2.taken = (given calls (s.run calls).1).reverse ++ s.taken := by
  induction calls generalizing s with
  | nil => rfl
  | cons call rest ih =>
      rw [run_cons, given_cons, ih, (taken_answer s call).1, List.reverse_append]
      cases call.gives? (s.answer call).1 <;> simp

/-- A run gives nothing away twice, and nothing that was taken before. -/
theorem nodup_given (s : Slugger) (calls : List Call) :
    (given calls (s.run calls).1).Nodup ∧ ∀ id ∈ given calls (s.run calls).1, id ∉ s.taken := by
  induction calls generalizing s with
  | nil => exact ⟨.nil, nofun⟩
  | cons call rest ih =>
      obtain ⟨htaken, hfresh⟩ := taken_answer s call
      obtain ⟨hnodup, hlater⟩ := ih (s.answer call).2
      rw [htaken] at hlater
      rw [run_cons, given_cons]
      cases hgives : call.gives? (s.answer call).1 with
      | none =>
          rw [hgives] at hlater
          exact ⟨hnodup, hlater⟩
      | some id =>
          rw [hgives] at hlater
          refine ⟨List.nodup_cons.2 ⟨fun hid => ?_, hnodup⟩, fun other hother => ?_⟩
          · exact hlater id hid List.mem_cons_self
          · rcases List.mem_cons.1 hother with rfl | hother
            · exact hfresh other hgives
            · exact fun htaken => hlater other hother (List.mem_cons_of_mem _ htaken)

/-! ### The search for a free number -/

/-- The search for a free numbered form that starts at one number ends at another. -/
inductive Probes (s : Slugger) (base : String) : Nat → Nat → Prop
  /-- A free form is found. -/
  | found {n : Nat} (free : numbered base n ∉ s.taken) : Probes s base n n
  /-- A taken form is passed over. -/
  | next {n last : Nat} (taken : numbered base n ∈ s.taken) (rest : Probes s base (n + 1) last) :
      Probes s base n last

/-- The search passes over the taken forms up to the first free one. -/
theorem Probes.of_least {s : Slugger} {base : String} {n last : Nat} (hle : n ≤ last)
    (hfree : numbered base last ∉ s.taken)
    (htaken : ∀ m, n ≤ m → m < last → numbered base m ∈ s.taken) : Probes s base n last := by
  obtain ⟨more, rfl⟩ := Nat.exists_eq_add_of_le hle
  induction more generalizing n with
  | zero => exact .found hfree
  | succ more ih =>
      have hnext : n + 1 + more = n + (more + 1) := by omega
      refine .next (htaken n (Nat.le_refl n) (by omega)) (hnext ▸ ih (by omega) ?_ ?_)
      · rwa [hnext]
      · exact fun m hm hlt => htaken m (Nat.le_of_succ_le hm) (by omega)

/-- For a taken id, the first free number is at most the number of ids that are taken. -/
theorem firstFree_spec {s : Slugger} {base : String} (h : base ∈ s.taken) :
    1 ≤ s.firstFree base ∧ s.firstFree base ≤ s.taken.length ∧
      numbered base (s.firstFree base) ∉ s.taken ∧
      ∀ m, 1 ≤ m → m < s.firstFree base → numbered base m ∈ s.taken := by
  obtain ⟨n, hn⟩ := Option.isSome_iff_exists.1 (List.find?_isSome.2 (exists_free_numbered h))
  have hfirst : s.firstFree base = n := by rw [firstFree, hn, Option.getD_some]
  obtain ⟨hfree, hmem, hleast⟩ := List.find?_range'_eq_some.1 hn
  rw [List.mem_range'_1] at hmem
  rw [hfirst]
  refine ⟨hmem.1, by omega, isFree_iff.1 hfree, fun m hm hlt => ?_⟩
  have htaken := hleast m hm hlt
  rw [Bool.not_eq_true', Bool.eq_false_iff, ne_eq, isFree_iff, not_not] at htaken
  exact htaken

/-- **Any calls.** The ids that a run of calls gives away are all different. After it, an id is
refused exactly if it was given away; its unique form is the id itself if it was not, and else
the one with the least number that makes it free. The search for that number ends, and the
number is at most that of the ids given away. -/
theorem run_gives_once (calls : List Call) :
    let ids := given calls (empty.run calls).1
    let s := (empty.run calls).2
    ids.Nodup ∧
      (∀ id, (s.reserve id).1 = false ↔ id ∈ ids) ∧
      (∀ base, base ∉ ids → (s.unique base).1 = base) ∧
      ∀ base, base ∈ ids → ∃ n, Probes s base 1 n ∧ (s.unique base).1 = numbered base n ∧
        1 ≤ n ∧ n ≤ ids.length ∧ numbered base n ∉ ids ∧
          ∀ m, 1 ≤ m → m < n → numbered base m ∈ ids := by
  intro ids s
  have htaken : s.taken = ids.reverse := (taken_run empty calls).trans (List.append_nil _)
  have hmem : ∀ {id}, id ∈ s.taken ↔ id ∈ ids := by
    rw [htaken]
    exact List.mem_reverse
  refine ⟨(nodup_given empty calls).1, fun id => ?_, fun base hbase => ?_, fun base hbase => ?_⟩
  · rw [← hmem, reserve]
    by_cases hfree : s.isFree id = true
    · rw [if_pos hfree]
      exact iff_of_false nofun (isFree_iff.1 hfree)
    · rw [if_neg hfree]
      exact iff_of_true rfl (not_not.1 fun hid => hfree (isFree_iff.2 hid))
  · rw [unique_of_free (mt hmem.1 hbase)]
  · obtain ⟨hpos, hle, hfree, hleast⟩ := firstFree_spec (hmem.2 hbase)
    refine ⟨s.firstFree base, .of_least hpos hfree hleast, by rw [unique_of_taken (hmem.2 hbase)],
      hpos, ?_, mt hmem.2 hfree, fun m hm hlt => hmem.1 (hleast m hm hlt)⟩
    rwa [htaken, List.length_reverse] at hle

end Slugger

end PostPress
