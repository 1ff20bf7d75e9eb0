import PostPress.Command.Arguments
import PostPress.Proofs.Collections.Except

/-!
# PostPress.Proofs.Command.Arguments

**Leaving a word of a command line out.** A command line that asks for a job with an output
file holds the name of that file as one of its words, and without that word it asks for the
same job without an output file (`Request.exists_without_output`). One that asks for plain
links holds the word `--no-embeds`, and without it it asks for the same job without plain links
(`Request.exists_without_plainLinks`).

Reading is a fold over the words whose state is the draft and what the next word can be
(`Draft.read_eq_foldlM`). The word in question is the one at which some property of the draft
begins to hold; from there on the rest of the words is read alike with and without what that
word has added (`Draft.Forgets`).

* `Draft.Phase`, `Draft.step` — what the next word can be, and reading one word;
* `Draft.Forgets` — a part of the draft that reading does not look at any more;
* `Draft.BroughtBy` — the word that brings such a part.
-/

namespace PostPress.Command

namespace Draft

variable {d d' : Draft} {word : String} {words : List String}

/-! ### Word by word -/

/-- What the next word of a command line can be. -/
inductive Phase
  /-- An option or a file. -/
  | any
  /-- The file with the configuration. -/
  | config
  /-- A file. -/
  | file

/-- The draft, and what the next word can be. -/
abbrev State := Draft × Phase

/-- The draft after an option. -/
def Progress.draft : Progress → Draft
  | .done d => d
  | .awaitsConfig d => d

/-- What the next word can be after an option. -/
def Progress.phase : Progress → Phase
  | .done _ => .any
  | .awaitsConfig _ => .config

/-- Take the next word. -/
def step : State → String → Except Stop State
  | (d, .config), word =>
      if isOption word then .error (.refused (.missingValue "--config"))
      else (d.setConfig word).map (·, .any)
  | (d, .file), word => (d.addFile word).map (·, .file)
  | (d, .any), word =>
      match word.toList with
      | ['-', '-'] => .ok (d, .file)
      | '-' :: '-' :: long => (d.readLong long).map fun p => (p.draft, p.phase)
      | '-' :: letter :: letters =>
          (d.readLetters (letter :: letters)).map fun p => (p.draft, p.phase)
      | _ => (d.addFile word).map (·, .any)

/-- The draft when no word is left. -/
def close : State → Except Stop Draft
  | (_, .config) => .error (.refused (.missingValue "--config"))
  | (d, .any) => .ok d
  | (d, .file) => .ok d

theorem foldlM_addFile (d : Draft) (words : List String) :
    words.foldlM addFile d = words.foldlM step (d, .file) >>= close := by
  induction words generalizing d with
  | nil => rfl
  | cons word rest ih =>
      rw [List.foldlM_cons, List.foldlM_cons, step]
      cases d.addFile word with
      | error stop => rfl
      | ok next => exact ih next

/-- Reading is a fold over the words. -/
theorem read_eq_foldlM (d : Draft) (awaiting : Bool) (words : List String) :
    d.read awaiting words =
      words.foldlM step (d, if awaiting then .config else .any) >>= close := by
  induction words generalizing d awaiting with
  | nil => cases awaiting <;> rfl
  | cons word rest ih =>
      -- An option leaves open which phase comes next; what is set at once does not.
      have hoption : ∀ option : Except Stop Progress,
          (option >>= fun progress => match progress with
            | .done d => d.read false rest
            | .awaitsConfig d => d.read true rest) =
          (option.map fun p => (p.draft, p.phase)) >>= rest.foldlM step >>= close := by
        intro option
        match option with
        | .error stop => rfl
        | .ok (.done next) => exact ih next false
        | .ok (.awaitsConfig next) => exact ih next true
      have hset : ∀ option : Except Stop Draft,
          (option >>= fun d => d.read false rest) =
          (option.map fun d => (d, .any)) >>= rest.foldlM step >>= close := by
        intro option
        match option with
        | .error stop => rfl
        | .ok next => exact ih next false
      rw [List.foldlM_cons]
      cases awaiting with
      | true =>
          rw [read, if_pos rfl, if_pos rfl, step]
          cases isOption word with
          | true => rfl
          | false => exact hset (d.setConfig word)
      | false =>
          rw [read, if_neg Bool.false_ne_true, if_neg Bool.false_ne_true]
          split
          · next hword =>
            simp only [step, hword]
            exact foldlM_addFile d rest
          · next long _ hword =>
            simp only [step, hword]
            exact hoption (d.readLong long)
          · next letter letters _ _ hword =>
            simp only [step, hword]
            exact hoption (d.readLetters (letter :: letters))
          · simp only [step]
            exact hset (d.addFile word)

/-! ### A part of the draft that is not looked at -/

/-- On drafts with a property, `forget` takes away a part that the reading of further words
does not look at, as long as they are accepted. -/
structure Forgets (P : Draft → Prop) (forget : Draft → Draft) : Prop where
  addFile : ∀ {d d' : Draft} {word : String}, P d → d.addFile word = .ok d' →
    P d' ∧ (forget d).addFile word = .ok (forget d')
  addSwitch : ∀ {d d' : Draft} {switch : Switch} {name : String}, P d →
    d.addSwitch switch name = .ok d' → P d' ∧ (forget d).addSwitch switch name = .ok (forget d')
  setConfig : ∀ {d d' : Draft} {file : String}, P d → d.setConfig file = .ok d' →
    P d' ∧ (forget d).setConfig file = .ok (forget d')

/-- Only one word can bring the part, and it brings nothing else. -/
def BroughtBy (P : Draft → Prop) (forget : Draft → Draft) (bringer : String) : Prop :=
  ∀ {state state' : State} {word : String}, step state word = .ok state' →
    ¬ P state.1 → P state'.1 → word = bringer ∧ state'.map forget id = state

/-- The same progress with another draft. -/
def Progress.map (f : Draft → Draft) : Progress → Progress
  | .done d => .done (f d)
  | .awaitsConfig d => .awaitsConfig (f d)

namespace Forgets

variable {P : Draft → Prop} {forget : Draft → Draft} {progress : Progress}

theorem map_setConfig (h : Forgets P forget) {file : String} (hd : P d)
    (hread : (d.setConfig file).map .done = .ok progress) :
    P progress.draft ∧ ((forget d).setConfig file).map .done = .ok (progress.map forget) := by
  obtain ⟨next, hset, rfl⟩ := exists_of_map_eq_ok hread
  obtain ⟨hnext, hforget⟩ := h.setConfig hd hset
  exact ⟨hnext, by rw [hforget]; rfl⟩

theorem readLetters (h : Forgets P forget) {letters : List Char} (hd : P d)
    (hread : d.readLetters letters = .ok progress) :
    P progress.draft ∧ (forget d).readLetters letters = .ok (progress.map forget) := by
  induction letters generalizing d with
  | nil =>
      obtain rfl := Except.ok.inj hread
      exact ⟨hd, rfl⟩
  | cons letter rest ih =>
      unfold Draft.readLetters at hread ⊢
      split at hread
      · exact absurd hread nofun
      · exact absurd hread nofun
      · obtain ⟨next, hset, hrest⟩ := exists_of_bind_eq_ok hread
        obtain ⟨hnext, hforget⟩ := h.addSwitch hd hset
        simp only [hforget]
        exact ih hnext hrest
      · split at hread
        · obtain rfl := Except.ok.inj hread
          exact ⟨hd, rfl⟩
        · exact h.map_setConfig hd hread
        · exact h.map_setConfig hd hread

theorem readLong (h : Forgets P forget) {word : List Char} (hd : P d)
    (hread : d.readLong word = .ok progress) :
    P progress.draft ∧ (forget d).readLong word = .ok (progress.map forget) := by
  simp only [Draft.readLong] at hread ⊢
  split at hread
  · exact absurd hread nofun
  · obtain rfl := Except.ok.inj hread
    exact ⟨hd, rfl⟩
  · exact h.map_setConfig hd hread
  · exact absurd hread nofun
  · exact absurd hread nofun
  · obtain ⟨next, hset, rfl⟩ := exists_of_map_eq_ok hread
    obtain ⟨hnext, hforget⟩ := h.addSwitch hd hset
    exact ⟨hnext, by rw [hforget]; rfl⟩

/-- One word is taken alike with and without the part. -/
theorem step (h : Forgets P forget) {state state' : State} (hstate : P state.1)
    (hstep : Draft.step state word = .ok state') :
    P state'.1 ∧ Draft.step (state.map forget id) word = .ok (state'.map forget id) := by
  obtain ⟨d, phase⟩ := state
  cases phase with
  | config =>
      simp only [Prod.map, id, Draft.step] at hstep ⊢
      split at hstep
      · exact absurd hstep nofun
      · next hoption =>
        obtain ⟨next, hset, rfl⟩ := exists_of_map_eq_ok hstep
        obtain ⟨hnext, hforget⟩ := h.setConfig hstate hset
        exact ⟨hnext, by rw [if_neg hoption, hforget]; rfl⟩
  | file =>
      obtain ⟨next, hadd, rfl⟩ := exists_of_map_eq_ok hstep
      obtain ⟨hnext, hforget⟩ := h.addFile hstate hadd
      refine ⟨hnext, ?_⟩
      simp only [Prod.map, id, Draft.step, hforget, Except.map]
  | any =>
      simp only [Prod.map, id, Draft.step] at hstep ⊢
      split at hstep
      · obtain rfl := Except.ok.inj hstep
        exact ⟨hstate, rfl⟩
      · obtain ⟨progress, hread, rfl⟩ := exists_of_map_eq_ok hstep
        obtain ⟨hprogress, hforget⟩ := h.readLong hstate hread
        refine ⟨hprogress, ?_⟩
        rw [hforget]
        cases progress <;> rfl
      · obtain ⟨progress, hread, rfl⟩ := exists_of_map_eq_ok hstep
        obtain ⟨hprogress, hforget⟩ := h.readLetters hstate hread
        refine ⟨hprogress, ?_⟩
        rw [hforget]
        cases progress <;> rfl
      · obtain ⟨next, hadd, rfl⟩ := exists_of_map_eq_ok hstep
        obtain ⟨hnext, hforget⟩ := h.addFile hstate hadd
        exact ⟨hnext, by rw [hforget]; rfl⟩

/-- All words are taken alike with and without the part. -/
theorem foldlM (h : Forgets P forget) {state state' : State} (hstate : P state.1)
    (hrun : words.foldlM Draft.step state = .ok state') :
    words.foldlM Draft.step (state.map forget id) = .ok (state'.map forget id) := by
  induction words generalizing state with
  | nil =>
      obtain rfl := Except.ok.inj hrun
      rfl
  | cons word rest ih =>
      rw [List.foldlM_cons] at hrun ⊢
      obtain ⟨next, hstep, hrest⟩ := exists_of_bind_eq_ok hrun
      obtain ⟨hnext, hforget⟩ := h.step hstate hstep
      rw [hforget]
      exact ih hnext hrest

/-- If only one word can bring the part, then the words can be taken without it, and the draft
is the same without the part. By induction on the words, up to the one that brings it. -/
theorem exists_foldlM_without (h : Forgets P forget) {bringer : String}
    (hbrings : BroughtBy P forget bringer) {state state' : State} (hstate : ¬ P state.1)
    (hstate' : P state'.1) (hrun : words.foldlM Draft.step state = .ok state') :
    ∃ before after, words = before ++ bringer :: after ∧
      (before ++ after).foldlM Draft.step state = .ok (state'.map forget id) := by
  induction words generalizing state with
  | nil =>
      obtain rfl := Except.ok.inj hrun
      exact absurd hstate' hstate
  | cons word rest ih =>
      rw [List.foldlM_cons] at hrun
      obtain ⟨next, hstep, hrest⟩ := exists_of_bind_eq_ok hrun
      by_cases hnext : P next.1
      · -- Without the part the state is the one before the word, so the word is not missed.
        obtain ⟨rfl, hback⟩ := hbrings hstep hstate hnext
        have hwithout := h.foldlM hnext hrest
        rw [hback] at hwithout
        exact ⟨[], rest, rfl, hwithout⟩
      · obtain ⟨before, after, rfl, hwithout⟩ := ih hnext hrest
        refine ⟨word :: before, after, rfl, ?_⟩
        rw [List.cons_append, List.foldlM_cons, hstep]
        exact hwithout

/-- The same for reading a whole command line. -/
theorem exists_read_without (h : Forgets P forget) {bringer : String}
    (hbrings : BroughtBy P forget bringer) (hd : ¬ P d) (hd' : P d')
    (hread : d.read false words = .ok d') :
    ∃ before after, words = before ++ bringer :: after ∧
      d.read false (before ++ after) = .ok (forget d') := by
  rw [read_eq_foldlM, if_neg Bool.false_ne_true] at hread
  obtain ⟨⟨last, phase⟩, hrun, hclose⟩ := exists_of_bind_eq_ok hread
  have hlast : last = d' := by cases phase <;> cases hclose <;> rfl
  subst hlast
  obtain ⟨before, after, hwords, hwithout⟩ := h.exists_foldlM_without hbrings hd hd' hrun
  refine ⟨before, after, hwords, ?_⟩
  rw [read_eq_foldlM, if_neg Bool.false_ne_true, hwithout]
  cases phase with
  | config => exact absurd hclose nofun
  | any => rfl
  | file => rfl

end Forgets

/-! ### What a word does -/

theorem addFile_eq_ok_iff :
    d.addFile word = .ok d' ↔
      d.files.length < 2 ∧ d' = { d with files := d.files ++ [word] } := by
  rw [addFile]
  split
  · next hlength => simp [hlength, eq_comm]
  · next hlength => simp [hlength]

theorem addSwitch_eq_ok_iff {switch : Switch} {name : String} :
    d.addSwitch switch name = .ok d' ↔
      switch ∉ d.switches ∧ d' = { d with switches := switch :: d.switches } := by
  rw [addSwitch]
  split
  · next hset => simp [hset]
  · next hset => simp [hset, eq_comm]

theorem setConfig_eq_ok_iff {file : String} :
    d.setConfig file = .ok d' ↔ d.config = none ∧ d' = { d with config := some file } := by
  rw [setConfig]
  split
  · next hset => simp [hset]
  · next hset => simp [hset, eq_comm]

/-- Letters name no files, and there is none for plain links. -/
theorem readLetters_cases {letters : List Char} {progress : Progress}
    (h : d.readLetters letters = .ok progress) :
    progress.draft.files = d.files ∧
      (.plainLinks ∈ progress.draft.switches → .plainLinks ∈ d.switches) := by
  induction letters generalizing d with
  | nil =>
      obtain rfl := Except.ok.inj h
      exact ⟨rfl, id⟩
  | cons letter rest ih =>
      have hconfig : ∀ {file : String}, (d.setConfig file).map .done = .ok progress →
          progress.draft.files = d.files ∧
            (.plainLinks ∈ progress.draft.switches → .plainLinks ∈ d.switches) := by
        intro file hfile
        obtain ⟨next, hset, rfl⟩ := exists_of_map_eq_ok hfile
        obtain ⟨-, rfl⟩ := setConfig_eq_ok_iff.1 hset
        exact ⟨rfl, id⟩
      unfold readLetters at h
      split at h
      · exact absurd h nofun
      · exact absurd h nofun
      · next switch hchoice =>
        obtain ⟨next, hset, hrest⟩ := exists_of_bind_eq_ok h
        obtain ⟨-, rfl⟩ := addSwitch_eq_ok_iff.1 hset
        obtain ⟨hfiles, hplain⟩ := ih hrest
        refine ⟨hfiles, fun hmem => (List.mem_cons.1 (hplain hmem)).resolve_left ?_⟩
        rintro rfl
        unfold Choice.ofLetter at hchoice
        split at hchoice <;> cases hchoice
      · split at h
        · obtain rfl := Except.ok.inj h
          exact ⟨rfl, id⟩
        · exact hconfig h
        · exact hconfig h

theorem ofName_eq_plainLinks_iff {name : List Char} :
    Choice.ofName name = some (.switch .plainLinks) ↔ name = "no-embeds".toList := by
  constructor
  · intro h
    unfold Choice.ofName at h
    split at h <;> cases h
    rfl
  · rintro rfl
    rfl

/-- Long options name no files, and one of them is for plain links. -/
theorem readLong_cases {long : List Char} {progress : Progress}
    (h : d.readLong long = .ok progress) :
    progress.draft.files = d.files ∧
      (.plainLinks ∈ progress.draft.switches → .plainLinks ∈ d.switches ∨
        long = "no-embeds".toList ∧
          progress = .done { d with switches := .plainLinks :: d.switches }) := by
  simp only [readLong] at h
  split at h
  · exact absurd h nofun
  · obtain rfl := Except.ok.inj h
    exact ⟨rfl, .inl⟩
  · obtain ⟨next, hset, rfl⟩ := exists_of_map_eq_ok h
    obtain ⟨-, rfl⟩ := setConfig_eq_ok_iff.1 hset
    exact ⟨rfl, .inl⟩
  · exact absurd h nofun
  · exact absurd h nofun
  · next switch hchoice hvalue =>
    obtain ⟨next, hset, rfl⟩ := exists_of_map_eq_ok h
    obtain ⟨-, rfl⟩ := addSwitch_eq_ok_iff.1 hset
    refine ⟨rfl, fun hmem => ?_⟩
    rcases List.mem_cons.1 hmem with rfl | hmem
    · refine .inr ⟨?_, rfl⟩
      -- Without a value the word is the name.
      have hlength : long.length ≤ (long.takeWhile (· ≠ '=')).length := by
        rw [← List.drop_eq_nil_iff]
        cases hrest : long.drop (long.takeWhile (· ≠ '=')).length with
        | nil => rfl
        | cons first value =>
            rw [hrest] at hvalue
            exact absurd hvalue nofun
      rw [← ofName_eq_plainLinks_iff.1 hchoice]
      exact ((List.takeWhile_prefix _).eq_of_length_le hlength).symm
    · exact .inl hmem

/-- What a word does to the files, and to the switch for plain links: nothing, or it brings
itself or the switch, and then it changes nothing else. -/
theorem step_cases {state state' : State} (h : step state word = .ok state') :
    (state'.1.files = state.1.files ∨ state.1.files.length < 2 ∧
      state' = ({ state.1 with files := state.1.files ++ [word] }, state.2)) ∧
    (.plainLinks ∈ state'.1.switches → .plainLinks ∈ state.1.switches ∨
      word = "--no-embeds" ∧
        state' = ({ state.1 with switches := .plainLinks :: state.1.switches }, state.2)) := by
  obtain ⟨d, phase⟩ := state
  have hfile : ∀ {phase' : Phase}, (d.addFile word).map (·, phase') = .ok state' →
      d.files.length < 2 ∧ state' = ({ d with files := d.files ++ [word] }, phase') := by
    intro phase' hadd
    obtain ⟨next, hnext, rfl⟩ := exists_of_map_eq_ok hadd
    obtain ⟨hlength, rfl⟩ := addFile_eq_ok_iff.1 hnext
    exact ⟨hlength, rfl⟩
  cases phase with
  | config =>
      simp only [step] at h
      split at h
      · exact absurd h nofun
      · obtain ⟨next, hset, rfl⟩ := exists_of_map_eq_ok h
        obtain ⟨-, rfl⟩ := setConfig_eq_ok_iff.1 hset
        exact ⟨.inl rfl, .inl⟩
  | file =>
      obtain ⟨hlength, rfl⟩ := hfile h
      exact ⟨.inr ⟨hlength, rfl⟩, .inl⟩
  | any =>
      simp only [step] at h
      split at h
      · obtain rfl := Except.ok.inj h
        exact ⟨.inl rfl, .inl⟩
      · next long _ hword =>
        obtain ⟨progress, hread, rfl⟩ := exists_of_map_eq_ok h
        obtain ⟨hfiles, hplain⟩ := readLong_cases hread
        refine ⟨.inl hfiles, fun hmem => (hplain hmem).imp_right ?_⟩
        rintro ⟨rfl, rfl⟩
        exact ⟨String.toList_inj.1 hword, rfl⟩
      · obtain ⟨progress, hread, rfl⟩ := exists_of_map_eq_ok h
        obtain ⟨hfiles, hplain⟩ := readLetters_cases hread
        exact ⟨.inl hfiles, fun hmem => .inl (hplain hmem)⟩
      · obtain ⟨hlength, rfl⟩ := hfile h
        exact ⟨.inr ⟨hlength, rfl⟩, .inl⟩

theorem finish_eq_ok_iff {job : Job} :
    d.finish = .ok job ↔
      ∃ input rest, d.files = input :: rest ∧
        ¬ (.asJson ∈ d.switches ∧ .outlineOnly ∉ d.switches) ∧
        job = {
          input
          output := rest.head?
          config := d.config
          outlineOnly := decide (.outlineOnly ∈ d.switches)
          asJson := decide (.asJson ∈ d.switches)
          plainLinks := decide (.plainLinks ∈ d.switches)
          quiet := decide (.quiet ∈ d.switches) } := by
  obtain ⟨files, switches, config⟩ := d
  cases files with
  | nil => simp [finish]
  | cons input rest =>
      simp only [finish, List.cons.injEq, and_assoc, exists_and_left, exists_eq_left']
      split
      · next hjson => simp [hjson]
      · next hjson => simp [hjson, eq_comm]

/-! ### The name of the output file -/

/-- The draft without an output file. -/
def withoutOutput (d : Draft) : Draft := { d with files := d.files.take 1 }

theorem finish_withoutOutput {job : Job} (h : d.finish = .ok job) :
    d.files[1]? = job.output ∧ d.withoutOutput.finish = .ok { job with output := none } := by
  obtain ⟨input, rest, hfiles, hjson, rfl⟩ := finish_eq_ok_iff.1 h
  refine ⟨by rw [hfiles, List.getElem?_cons_succ, List.head?_eq_getElem?], ?_⟩
  exact finish_eq_ok_iff.2 ⟨input, [], by simp [withoutOutput, hfiles], hjson, rfl⟩

/-- Once there is an output file no word is taken for a file. -/
theorem forgets_output (output : String) :
    Forgets (fun d => d.files[1]? = some output) withoutOutput where
  addFile hd hadd := by
    obtain ⟨hlength, -⟩ := addFile_eq_ok_iff.1 hadd
    obtain ⟨hbound, -⟩ := List.getElem?_eq_some_iff.1 hd
    omega
  addSwitch hd hset := by
    obtain ⟨hswitch, rfl⟩ := addSwitch_eq_ok_iff.1 hset
    exact ⟨hd, addSwitch_eq_ok_iff.2 ⟨hswitch, rfl⟩⟩
  setConfig hd hset := by
    obtain ⟨hconfig, rfl⟩ := setConfig_eq_ok_iff.1 hset
    exact ⟨hd, setConfig_eq_ok_iff.2 ⟨hconfig, rfl⟩⟩

/-- The output file is the second word that is taken for a file. -/
theorem broughtBy_output (output : String) :
    BroughtBy (fun d => d.files[1]? = some output) withoutOutput output := by
  intro state state' word h hstate hstate'
  obtain ⟨⟨files, switches, config⟩, phase⟩ := state
  obtain hsame | ⟨hlength, rfl⟩ := (step_cases h).1
  · exact absurd ((congrArg (·[1]?) hsame).symm.trans hstate') hstate
  · match files with
    | [] => exact absurd hstate' nofun
    | [input] => exact ⟨Option.some.inj hstate', rfl⟩
    | _ :: _ :: _ => exact absurd hlength (by simp)

/-! ### The switch for plain links -/

/-- The draft without the switch for plain links. -/
def withoutPlainLinks (d : Draft) : Draft :=
  { d with switches := d.switches.filter (· ≠ .plainLinks) }

theorem finish_withoutPlainLinks {job : Job} (h : d.finish = .ok job) :
    (job.plainLinks = true ↔ .plainLinks ∈ d.switches) ∧
      d.withoutPlainLinks.finish = .ok { job with plainLinks := false } := by
  obtain ⟨input, rest, hfiles, hjson, rfl⟩ := finish_eq_ok_iff.1 h
  refine ⟨decide_eq_true_iff, finish_eq_ok_iff.2 ⟨input, rest, hfiles, ?_, ?_⟩⟩
  · simpa [withoutPlainLinks] using hjson
  · simp [withoutPlainLinks]

/-- Once the switch is set it cannot be set again, and nothing else looks at it. -/
theorem forgets_plainLinks :
    Forgets (fun d => .plainLinks ∈ d.switches) withoutPlainLinks where
  addFile hd hadd := by
    obtain ⟨hlength, rfl⟩ := addFile_eq_ok_iff.1 hadd
    exact ⟨hd, addFile_eq_ok_iff.2 ⟨hlength, rfl⟩⟩
  addSwitch {d _ switch _} hd hset := by
    obtain ⟨hswitch, rfl⟩ := addSwitch_eq_ok_iff.1 hset
    have hne : switch ≠ .plainLinks := fun heq => hswitch (heq ▸ hd)
    refine ⟨List.mem_cons_of_mem _ hd, addSwitch_eq_ok_iff.2 ⟨?_, ?_⟩⟩
    · exact fun hmem => hswitch (List.mem_filter.1 hmem).1
    · simp [withoutPlainLinks, hne]
  setConfig hd hset := by
    obtain ⟨hconfig, rfl⟩ := setConfig_eq_ok_iff.1 hset
    exact ⟨hd, setConfig_eq_ok_iff.2 ⟨hconfig, rfl⟩⟩

/-- The switch is set by one word. -/
theorem broughtBy_plainLinks :
    BroughtBy (fun d => .plainLinks ∈ d.switches) withoutPlainLinks "--no-embeds" := by
  intro state state' word h hstate hstate'
  obtain hbefore | ⟨hword, rfl⟩ := (step_cases h).2 hstate'
  · exact absurd hbefore hstate
  · refine ⟨hword, ?_⟩
    obtain ⟨⟨files, switches, config⟩, phase⟩ := state
    have hfilter : switches.filter (· ≠ .plainLinks) = switches :=
      List.filter_eq_self.2 fun switch hmem =>
        decide_eq_true fun heq => hstate (heq ▸ hmem)
    simp only [Prod.map, id, withoutPlainLinks, List.filter_cons, ne_eq, not_true_eq_false,
      decide_false, Bool.false_eq_true, if_false]
    rw [hfilter]

/-! ### Jobs come from whole command lines -/

/-- A reading that ends early does not end with a job. -/
def EndsWithoutJob {α : Type} (result : Except Stop α) : Prop :=
  ∀ job, result ≠ .error (.answered (.render job))

namespace EndsWithoutJob

variable {α β : Type}

theorem ok (a : α) : EndsWithoutJob (.ok a) := nofun

theorem refused (e : UsageError) : EndsWithoutJob (.error (.refused e) : Except Stop α) := nofun

theorem bind {result : Except Stop α} {next : α → Except Stop β} (h : EndsWithoutJob result)
    (hnext : ∀ a, EndsWithoutJob (next a)) : EndsWithoutJob (result >>= next) := by
  cases result with
  | error stop => exact fun job heq => h job (congrArg Except.error (Except.error.inj heq))
  | ok a => exact hnext a

theorem map {result : Except Stop α} (h : EndsWithoutJob result) (f : α → β) :
    EndsWithoutJob (result.map f) :=
  h.bind fun a => ok (f a)

theorem addFile (d : Draft) (word : String) : EndsWithoutJob (d.addFile word) := by
  rw [Draft.addFile]
  split
  · exact ok _
  · exact refused _

theorem addSwitch (d : Draft) (switch : Switch) (name : String) :
    EndsWithoutJob (d.addSwitch switch name) := by
  rw [Draft.addSwitch]
  split
  · exact refused _
  · exact ok _

theorem setConfig (d : Draft) (file : String) : EndsWithoutJob (d.setConfig file) := by
  rw [Draft.setConfig]
  split
  · exact refused _
  · exact ok _

theorem readLetters (d : Draft) (letters : List Char) :
    EndsWithoutJob (d.readLetters letters) := by
  induction letters generalizing d with
  | nil => exact ok _
  | cons letter rest ih =>
      unfold Draft.readLetters
      split
      · exact refused _
      · next request hchoice =>
        rintro job ⟨⟩
        unfold Choice.ofLetter at hchoice
        split at hchoice <;> cases hchoice
      · exact (addSwitch d _ _).bind ih
      · split
        · exact ok _
        · exact (setConfig d _).map _
        · exact (setConfig d _).map _

theorem readLong (d : Draft) (word : List Char) : EndsWithoutJob (d.readLong word) := by
  simp only [Draft.readLong]
  split
  · exact refused _
  · exact ok _
  · exact (setConfig d _).map _
  · exact refused _
  · next request hchoice _ =>
    rintro job ⟨⟩
    unfold Choice.ofName at hchoice
    split at hchoice <;> cases hchoice
  · exact (addSwitch d _ _).map _

theorem step (state : State) (word : String) : EndsWithoutJob (Draft.step state word) := by
  obtain ⟨d, phase⟩ := state
  cases phase with
  | config =>
      simp only [Draft.step]
      split
      · exact refused _
      · exact (setConfig d word).map _
  | file => exact (addFile d word).map _
  | any =>
      simp only [Draft.step]
      split
      · exact ok _
      · exact (readLong d _).map _
      · exact (readLetters d _).map _
      · exact (addFile d word).map _

theorem read (d : Draft) (words : List String) : EndsWithoutJob (d.read false words) := by
  rw [read_eq_foldlM]
  refine bind ?_ fun ⟨last, phase⟩ => by cases phase <;> exact nofun
  generalize (d, (if false = true then .config else .any : Phase)) = state
  induction words generalizing state with
  | nil => exact ok _
  | cons word rest ih =>
      rw [List.foldlM_cons]
      exact (step state word).bind ih

end EndsWithoutJob

end Draft

/-! ### Command lines -/

namespace Request

variable {words : List String} {job : Job}

/-- A command line asks for a job if all its words are accepted and enough was said. -/
theorem ofWords_eq_render_iff :
    ofWords words = .ok (.render job) ↔
      ∃ draft, Draft.empty.read false words = .ok draft ∧ draft.finish = .ok job := by
  rw [ofWords]
  split
  · next hread => simp [hread]
  · next request hread =>
    simp only [hread, reduceCtorEq, false_and, exists_false, iff_false, Except.ok.injEq]
    rintro rfl
    exact Draft.EndsWithoutJob.read _ _ job hread
  · next draft hread =>
    simp only [hread, Except.ok.injEq, exists_eq_left']
    cases draft.finish <;> simp [Except.map]

/-- A command line with an output file holds its name as a word of its own, and without that
word it asks for the same without an output file. -/
theorem exists_without_output {output : String} (h : ofWords words = .ok (.render job))
    (houtput : job.output = some output) :
    ∃ before after, words = before ++ output :: after ∧
      ofWords (before ++ after) = .ok (.render { job with output := none }) := by
  obtain ⟨draft, hread, hfinish⟩ := ofWords_eq_render_iff.1 h
  obtain ⟨hfile, hfinish⟩ := Draft.finish_withoutOutput hfinish
  obtain ⟨before, after, hwords, hwithout⟩ :=
    (Draft.forgets_output output).exists_read_without (Draft.broughtBy_output output)
      (by simp [Draft.empty]) (hfile.trans houtput) hread
  exact ⟨before, after, hwords, ofWords_eq_render_iff.2 ⟨_, hwithout, hfinish⟩⟩

/-- A command line that asks for plain links holds a word that says so, and without that word
it asks for the same with whatever the configuration says of links. -/
theorem exists_without_plainLinks (h : ofWords words = .ok (.render job))
    (hplain : job.plainLinks = true) :
    ∃ before after, words = before ++ "--no-embeds" :: after ∧
      ofWords (before ++ after) = .ok (.render { job with plainLinks := false }) := by
  obtain ⟨draft, hread, hfinish⟩ := ofWords_eq_render_iff.1 h
  obtain ⟨hswitch, hfinish⟩ := Draft.finish_withoutPlainLinks hfinish
  obtain ⟨before, after, hwords, hwithout⟩ :=
    Draft.forgets_plainLinks.exists_read_without Draft.broughtBy_plainLinks
      (by simp [Draft.empty]) (hswitch.1 hplain) hread
  exact ⟨before, after, hwords, ofWords_eq_render_iff.2 ⟨_, hwithout, hfinish⟩⟩

end Request

end PostPress.Command
