import PostPress.Command.Run
import PostPress.Proofs.Collections.Except
import PostPress.Proofs.Command.Arguments
import PostPress.Proofs.Command.Storage

/-!
# PostPress.Proofs.Command.Run

**A command does all of its job or nothing.** In a workspace a job reads its configuration and
its source, makes the page of them, and writes only then (`Job.run_perform`). So there are four
ways for it to end (`Job.Ends`), two of which leave the workspace as it was and print nothing,
and one of which changes one file (`Workspace.run_all_or_nothing`). What is written does not
depend on whether there is an output file, and the switch for plain links does what the
configuration can do.

* `Job.configIn`, `Job.sourceIn`, `Job.pageIn` — what a job reads in a workspace, and makes of it;
* `Job.Ends` — the ways for a job to end;
* `Workspace.run` — a command line in a workspace;
* `Job.Succeeds` — every step of a job can be done;
* `Job.LeavesLinks` — another job says in its configuration what one says with the switch.
-/

namespace PostPress.Command

/-! ### Steps in a workspace -/

section Steps

variable {α β : Type} {first : ExceptT Failure (StateM Workspace) α}
  {next : α → ExceptT Failure (StateM Workspace) β} {w after : Workspace}

theorem run_lift_bind {service : StateM Workspace α} {a : α} (h : service.run w = (a, after)) :
    (liftM service >>= next).run.run w = (next a).run.run after := by
  change (next (service.run w).1).run.run (service.run w).2 = _
  rw [h]

theorem run_bind_of_ok {a : α} (h : first.run.run w = (.ok a, after)) :
    (first >>= next).run.run w = (next a).run.run after := by
  rw [ExceptT.run_bind, StateT.run_bind, h]
  rfl

theorem run_bind_of_error {e : Failure} (h : first.run.run w = (.error e, after)) :
    (first >>= next).run.run w = (.error e, after) := by
  rw [ExceptT.run_bind, StateT.run_bind, h]
  rfl

theorem read_run (path : String) (w : Workspace) :
    (Storage.read path : StateM Workspace (Option String)).run w = (w.read? path, w) :=
  rfl

theorem readInput_run (w : Workspace) :
    (Storage.readInput : StateM Workspace (Option String)).run w = (w.input.text?, w) :=
  rfl

variable {path text : String}

theorem write_run_of_some (h : w.write? path text = some after) :
    (Storage.write path text : StateM Workspace Bool).run w = (true, after) := by
  simp only [Storage.write, StateT.run, h]

theorem write_run_of_none (h : w.write? path text = none) :
    (Storage.write path text : StateM Workspace Bool).run w = (false, w) := by
  simp only [Storage.write, StateT.run, h]

end Steps

/-! ### Jobs in a workspace -/

namespace Failure

theorem status_ne_zero (e : Failure) : e.status ≠ 0 := by
  unfold status
  split <;> decide

/-- What a command responds when a job fails. -/
def response (e : Failure) : Response := ⟨e.status, "", "error: " ++ e.message ++ "\n"⟩

end Failure

namespace Job

variable {job job' : Job} {w w' : Workspace} {words words' : List String}

/-- The configuration of a job. -/
def configIn (job : Job) (w : Workspace) : Except Failure Config :=
  match job.config with
  | none => .ok .default
  | some path =>
      match w.read? path with
      | none => .error (.unreadable path)
      | some text =>
          match Config.ofText? text with
          | none => .error (.configuration path)
          | some config => .ok config

/-- The source of a job. -/
def sourceIn (job : Job) (w : Workspace) : Except Failure String :=
  match if job.input = "-" then w.input.text? else w.read? job.input with
  | none => .error (.unreadable job.input)
  | some source => .ok source

/-- What a job writes, and the number of the headings. -/
def pageIn (job : Job) (w : Workspace) : Except Failure (String × Nat) := do
  let config ← job.configIn w
  let source ← job.sourceIn w
  job.page config source

theorem run_readConfig (job : Job) (w : Workspace) :
    (job.readConfig.run : StateM Workspace (Except Failure Config)).run w =
      (job.configIn w, w) := by
  rw [readConfig, configIn]
  cases job.config with
  | none => rfl
  | some path =>
      dsimp only
      rw [run_lift_bind (read_run path w)]
      cases w.read? path with
      | none => rfl
      | some text =>
          dsimp only
          cases Config.ofText? text <;> rfl

theorem run_readSource (job : Job) (w : Workspace) :
    (job.readSource.run : StateM Workspace (Except Failure String)).run w =
      (job.sourceIn w, w) := by
  rw [readSource, sourceIn]
  split
  · rw [run_lift_bind (readInput_run w)]
    cases w.input.text? <;> rfl
  · rw [run_lift_bind (read_run job.input w)]
    cases w.read? job.input <;> rfl

/-- What a job does with its page. -/
def deliver (job : Job) (page : String × Nat) (w : Workspace) :
    Except Failure (String × String) × Workspace :=
  match job.output with
  | none => (.ok (page.1, ""), w)
  | some path =>
      match w.write? path page.1 with
      | none => (.error (.unwritable path), w)
      | some after => (.ok ("", job.notice path page.2), after)

theorem run_deliver (job : Job) (page : String × Nat) (w : Workspace) :
    (match job.output with
      | none => pure (page.1, "")
      | some path => do
          if ← Storage.write (m := StateM Workspace) path page.1 then
            pure ("", job.notice path page.2)
          else throw (.unwritable path) :
        ExceptT Failure (StateM Workspace) (String × String)).run.run w = job.deliver page w := by
  rw [deliver]
  cases job.output with
  | none => rfl
  | some path =>
      dsimp only
      cases hwrite : w.write? path page.1 with
      | none =>
          rw [run_lift_bind (write_run_of_none hwrite)]
          rfl
      | some after =>
          rw [run_lift_bind (write_run_of_some hwrite)]
          rfl

/-- A job reads, and then it writes. -/
theorem run_perform (job : Job) (w : Workspace) :
    (job.perform.run : StateM Workspace (Except Failure (String × String))).run w =
      match job.pageIn w with
      | .error e => (.error e, w)
      | .ok page => job.deliver page w := by
  rw [perform, pageIn]
  cases hconfig : job.configIn w with
  | error e =>
      rw [run_bind_of_error (hconfig ▸ run_readConfig job w)]
      rfl
  | ok config =>
      rw [run_bind_of_ok (hconfig ▸ run_readConfig job w)]
      cases hsource : job.sourceIn w with
      | error e =>
          rw [run_bind_of_error (hsource ▸ run_readSource job w)]
          rfl
      | ok source =>
          rw [run_bind_of_ok (hsource ▸ run_readSource job w)]
          change _ = match job.page config source with
            | .error e => _
            | .ok page => _
          cases job.page config source with
          | error e => rfl
          | ok page => exact run_deliver job page w

/-- Every step of a job can be done. -/
def Succeeds (job : Job) (w : Workspace) : Prop :=
  ∃ config source page, job.configIn w = .ok config ∧ job.sourceIn w = .ok source ∧
    job.page config source = .ok page ∧ ∀ path ∈ job.output, ∃ name, w.locate path = some name

theorem pageIn_eq_ok_iff {page : String × Nat} :
    job.pageIn w = .ok page ↔ ∃ config source, job.configIn w = .ok config ∧
      job.sourceIn w = .ok source ∧ job.page config source = .ok page := by
  constructor
  · intro h
    obtain ⟨config, hconfig, h⟩ := exists_of_bind_eq_ok h
    obtain ⟨source, hsource, hpage⟩ := exists_of_bind_eq_ok h
    exact ⟨config, source, hconfig, hsource, hpage⟩
  · rintro ⟨config, source, hconfig, hsource, hpage⟩
    rw [pageIn, hconfig]
    change (job.sourceIn w >>= job.page config) = _
    rw [hsource]
    exact hpage

theorem succeeds_iff :
    job.Succeeds w ↔ (∃ page, job.pageIn w = .ok page) ∧
      ∀ path ∈ job.output, ∃ name, w.locate path = some name := by
  simp only [Succeeds, pageIn_eq_ok_iff]
  constructor
  · rintro ⟨config, source, page, hconfig, hsource, hpage, houtput⟩
    exact ⟨⟨page, config, source, hconfig, hsource, hpage⟩, houtput⟩
  · rintro ⟨⟨page, config, source, hconfig, hsource, hpage⟩, houtput⟩
    exact ⟨config, source, page, hconfig, hsource, hpage, houtput⟩

/-- The ways for a job to end: the response, and what it leaves of a workspace. -/
inductive Ends (job : Job) (w : Workspace) : Response × Workspace → Prop
  /-- There is no page. -/
  | failed {e : Failure} (hpage : job.pageIn w = .error e) : Ends job w (e.response, w)
  /-- The page cannot be written. -/
  | unwritable {page : String × Nat} {path : String} (hpage : job.pageIn w = .ok page)
      (houtput : job.output = some path) (hwrite : w.write? path page.1 = none) :
      Ends job w ((Failure.unwritable path).response, w)
  /-- The page is printed. -/
  | printed {page : String × Nat} (hpage : job.pageIn w = .ok page) (houtput : job.output = none) :
      Ends job w (⟨0, page.1, ""⟩, w)
  /-- The page is written. -/
  | written {page : String × Nat} {path : String} {after : Workspace}
      (hpage : job.pageIn w = .ok page) (houtput : job.output = some path)
      (hwrite : w.write? path page.1 = some after) :
      Ends job w (⟨0, "", job.notice path page.2⟩, after)

namespace Ends

variable {result result' : Response × Workspace} {path name : String}

/-- A job ends in one way. -/
theorem unique (h : job.Ends w result) (h' : job.Ends w result') : result' = result := by
  cases h <;> cases h' <;> simp_all

theorem status_eq_zero_iff (h : job.Ends w result) : result.1.status = 0 ↔ job.Succeeds w := by
  rw [succeeds_iff]
  cases h with
  | @failed e hpage =>
      refine iff_of_false e.status_ne_zero ?_
      rintro ⟨⟨page, hok⟩, -⟩
      simp [hpage] at hok
  | @unwritable page path hpage houtput hwrite =>
      refine iff_of_false (Failure.unwritable path).status_ne_zero ?_
      rintro ⟨-, hlocate⟩
      obtain ⟨name, hname⟩ := hlocate path houtput
      simp [Workspace.write?, hname] at hwrite
  | printed hpage houtput =>
      exact iff_of_true rfl ⟨⟨_, hpage⟩, by simp [houtput]⟩
  | written hpage houtput hwrite =>
      refine iff_of_true rfl ⟨⟨_, hpage⟩, ?_⟩
      rw [houtput]
      rintro path ⟨⟩
      obtain ⟨name, hname, -⟩ := Workspace.write?_eq_some_iff.1 hwrite
      exact ⟨name, hname⟩

/-- A job that fails prints nothing and changes nothing. -/
theorem of_status_ne_zero (h : job.Ends w result) (hstatus : result.1.status ≠ 0) :
    result.1.output = "" ∧ result.2 = w := by
  cases h with
  | failed hpage => exact ⟨rfl, rfl⟩
  | unwritable hpage houtput hwrite => exact ⟨rfl, rfl⟩
  | printed hpage houtput => exact absurd rfl hstatus
  | written hpage houtput hwrite => exact absurd rfl hstatus

/-- A job changes no file but the one that the output path leads to. -/
theorem get?_eq (h : job.Ends w result) (hname : ∀ path ∈ job.output, w.locate path ≠ some name) :
    result.2.files.get? name = w.files.get? name := by
  cases h with
  | failed hpage => rfl
  | unwritable hpage houtput hwrite => rfl
  | printed hpage houtput => rfl
  | @written page path after hpage houtput hwrite =>
      rw [Workspace.get?_of_write? hwrite, if_neg (hname path houtput)]

/-- A job with an output file puts into it what the job without one prints. -/
theorem exists_printed (h : job.Ends w result) (houtput : job.output = some path)
    (hstatus : result.1.status = 0) :
    ∃ text, result.2.read? path = some text ∧
      { job with output := none }.Ends w (⟨0, text, ""⟩, w) := by
  cases h with
  | @failed e hpage => exact absurd hstatus e.status_ne_zero
  | @unwritable page path hpage houtput hwrite =>
      exact absurd hstatus (Failure.unwritable path).status_ne_zero
  | printed hpage hnone => exact absurd (hnone.symm.trans houtput) nofun
  | @written page path' after hpage houtput' hwrite =>
      obtain rfl := Option.some.inj (houtput'.symm.trans houtput)
      refine ⟨page.1, ?_, .printed hpage rfl⟩
      rw [Workspace.read?_of_write? hwrite, if_pos rfl]

end Ends

/-! ### Plain links by a switch and by the configuration -/

/-- `job'` says in its configuration that links stay links, as `job` may say with the switch.
All else is the same: the settings, the source, and whether the output file can be written. -/
structure LeavesLinks (job : Job) (w : Workspace) (job' : Job) (w' : Workspace) : Prop where
  rest : ∃ config?, job' = { job with plainLinks := false, config := config? }
  config : ∃ config, job.configIn w = .ok config ∧
    job'.configIn w' = .ok { config with embeds := false }
  source : job'.sourceIn w' = job.sourceIn w
  output : ∀ path ∈ job.output, (w'.locate path).isSome = (w.locate path).isSome

theorem page_of_plainLinks (hplain : job.plainLinks = true) (config? : Option String)
    (config : Config) (source : String) :
    { job with plainLinks := false, config := config? }.page { config with embeds := false }
      source = job.page config source := by
  rw [page, page, adjust, adjust, if_pos hplain, if_neg Bool.false_ne_true]
  rfl

/-- Putting into the configuration file that links stay links makes up for the switch. -/
theorem leavesLinks_of_write? {path text : String} {config : Config}
    (hpath : job.config = some path) (hconfig : job.configIn w = .ok config)
    (htext : Config.ofText? text = some { config with embeds := false })
    (hinput : job.input ≠ "-" → w.locate job.input ≠ w.locate path)
    (hwrite : w.write? path text = some w') :
    job.LeavesLinks w { job with plainLinks := false } w' where
  rest := ⟨job.config, rfl⟩
  config := by
    refine ⟨config, hconfig, ?_⟩
    have hread : w'.read? path = some text := by rw [Workspace.read?_of_write? hwrite, if_pos rfl]
    simp only [configIn, hpath, hread, htext]
  source := by
    obtain ⟨name, -, hafter⟩ := Workspace.write?_eq_some_iff.1 hwrite
    rw [sourceIn, sourceIn]
    by_cases hstream : job.input = "-"
    · rw [if_pos hstream, if_pos hstream, hafter]
    · rw [if_neg hstream, if_neg hstream, Workspace.read?_of_write? hwrite,
        if_neg (hinput hstream)]
  output output _ := by rw [Workspace.locate_of_write? hwrite]

/-- A job without a configuration needs one that says nothing else. -/
theorem leavesLinks_of_read? {path : String} (hnone : job.config = none)
    (hread : w.read? path = some "\x7b\"embeds\": false\x7d") :
    job.LeavesLinks w { job with plainLinks := false, config := some path } w where
  rest := ⟨some path, rfl⟩
  config := by
    have htext : Config.ofText? "\x7b\"embeds\": false\x7d" =
        some { Config.default with embeds := false } := by
      decide +kernel
    refine ⟨.default, by simp only [configIn, hnone], ?_⟩
    simp only [configIn, hread, htext]
  source := rfl
  output _ _ := rfl

namespace LeavesLinks

theorem pageIn_eq (h : job.LeavesLinks w job' w') (hplain : job.plainLinks = true) :
    job'.pageIn w' = job.pageIn w := by
  obtain ⟨⟨config?, rfl⟩, ⟨config, hconfig, hconfig'⟩, hsource, -⟩ := h
  simp only [pageIn, hconfig, hconfig', hsource, bind, Except.bind]
  cases job.sourceIn w with
  | error e => rfl
  | ok source => exact page_of_plainLinks hplain config? config source

theorem output_eq (h : job.LeavesLinks w job' w') : job'.output = job.output := by
  obtain ⟨config?, rfl⟩ := h.rest
  rfl

theorem notice_eq (h : job.LeavesLinks w job' w') : job'.notice = job.notice := by
  obtain ⟨config?, rfl⟩ := h.rest
  rfl

theorem isSome_write? (h : job.LeavesLinks w job' w') {path text : String}
    (houtput : job.output = some path) :
    (w'.write? path text).isSome = (w.write? path text).isSome := by
  rw [Workspace.isSome_write?, Workspace.isSome_write?, h.output path houtput]

/-- The jobs end alike, and the output file holds the same. -/
theorem ends (h : job.LeavesLinks w job' w') (hplain : job.plainLinks = true)
    {result : Response × Workspace} (hends : job.Ends w result) :
    ∃ after, job'.Ends w' (result.1, after) ∧
      ∀ path ∈ job.output, result.1.status = 0 → after.read? path = result.2.read? path := by
  have hpageIn := h.pageIn_eq hplain
  cases hends with
  | @failed e hpage =>
      exact ⟨w', .failed (hpageIn.trans hpage),
        fun _ _ hstatus => absurd hstatus e.status_ne_zero⟩
  | @unwritable page path hpage houtput hwrite =>
      have hwrite' : w'.write? path page.1 = none := by
        rw [← Option.not_isSome_iff_eq_none, h.isSome_write? houtput, hwrite]
        exact Bool.false_ne_true
      exact ⟨w', .unwritable (hpageIn.trans hpage) (h.output_eq.trans houtput) hwrite',
        fun _ _ hstatus => absurd hstatus (Failure.unwritable path).status_ne_zero⟩
  | @printed page hpage houtput =>
      refine ⟨w', .printed (hpageIn.trans hpage) (h.output_eq.trans houtput), ?_⟩
      rw [houtput]
      exact nofun
  | @written page path after hpage houtput hwrite =>
      have hsome : (w'.write? path page.1).isSome := by
        rw [h.isSome_write? houtput, hwrite, Option.isSome_some]
      obtain ⟨after', hwrite'⟩ := Option.isSome_iff_exists.1 hsome
      refine ⟨after', ?_, ?_⟩
      · rw [← h.notice_eq]
        exact .written (hpageIn.trans hpage) (h.output_eq.trans houtput) hwrite'
      · rw [houtput]
        rintro path ⟨⟩ -
        rw [Workspace.read?_of_write? hwrite, Workspace.read?_of_write? hwrite', if_pos rfl,
          if_pos rfl]

end LeavesLinks

end Job

/-! ### Command lines in a workspace -/

/-- What a command line does in a workspace: the response, and what it leaves. -/
def Workspace.run (w : Workspace) (words : List String) : Response × Workspace :=
  (Command.run words : StateM Workspace Response).run w

variable {job job' : Job} {w w' : Workspace} {words words' : List String}

theorem Job.ends_run (h : Request.ofWords words = .ok (.render job)) :
    job.Ends w (w.run words) := by
  have hrun : w.run words =
      match (job.perform.run : StateM Workspace _).run w with
      | (.error e, after) => (e.response, after)
      | (.ok (output, messages), after) => (⟨0, output, messages⟩, after) := by
    rw [Workspace.run, Command.run, h]
    dsimp only
    rw [StateT.run_bind]
    obtain ⟨result, after⟩ := (job.perform.run : StateM Workspace _).run w
    cases result <;> rfl
  rw [hrun, run_perform]
  cases hpage : job.pageIn w with
  | error e => exact .failed hpage
  | ok page =>
      dsimp only
      rw [deliver]
      cases houtput : job.output with
      | none => exact .printed hpage houtput
      | some path =>
          dsimp only
          cases hwrite : w.write? path page.1 with
          | none => exact .unwritable hpage houtput hwrite
          | some after => exact .written hpage houtput hwrite

namespace Workspace

/-- What asks for no job prints nothing if it is wrong, and changes nothing. -/
theorem run_of_no_job (w : Workspace)
    (h : ∀ job, Request.ofWords words ≠ .ok (.render job)) :
    ((w.run words).1.status ≠ 0 → (w.run words).1.output = "") ∧ (w.run words).2 = w := by
  rw [run, Command.run]
  split
  · exact ⟨fun _ => rfl, rfl⟩
  · exact ⟨fun hstatus => absurd rfl hstatus, rfl⟩
  · exact ⟨fun hstatus => absurd rfl hstatus, rfl⟩
  · next job hjob => exact absurd hjob (h job)

end Workspace

end PostPress.Command
