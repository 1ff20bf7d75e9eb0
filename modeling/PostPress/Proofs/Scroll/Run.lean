import Mathlib.Data.List.Induction
import PostPress.Proofs.Scroll.Selection

/-!
# PostPress.Proofs.Scroll.Run

**The runs of a tracker.** It is mounted, and then batches come in, other outlines are
followed and it is unmounted, in any order and any number of times, while the page
changes on its own.

* `Tracker.Event`, `Tracker.reached` — what can happen, and the tracker after it;
* `Tracker.attachedAfter` — the outline that is attached then;
* `Tracker.Follows` — what holds of a tracker at every moment of a run;
* `Tracker.chosen` — the heading that an event makes active.

Everything about the active heading is read off two facts: an event leaves the active
heading or makes the chosen one active (`activeId_react`), and the chosen one is tracked
after the event (`mem_ids_of_chosen`).
-/

namespace PostPress

universe u v

namespace Tracker

/-- The ids of an outline, without empty ones. -/
def trackedIds (toc : List TocEntry) : List String := (flattenIds toc).filter (· ≠ "")

theorem mem_trackedIds {toc : List TocEntry} {id : String} :
    id ∈ trackedIds toc ↔ id ∈ flattenIds toc ∧ id ≠ "" := by
  simp [trackedIds]

theorem trackedIds_eq_nil_iff {toc : List TocEntry} :
    trackedIds toc = [] ↔ ∀ id ∈ flattenIds toc, id = "" := by
  simp [trackedIds]

/-- What can happen to a mounted tracker. -/
inductive Event (H : Type u) (K : Type v)
  /-- The page changes without it. -/
  | page (change : H → H)
  /-- A batch of reports comes in. -/
  | batch (entries : List (VisibilityEntry K))
  /-- Another outline is to be followed. -/
  | setToc (toc : List TocEntry)
  /-- Nothing is to be followed any longer. -/
  | unmount

section Attached

variable {H : Type u} {K : Type v}

/-- The outline that is attached after an event, from the one before. -/
def Event.attach (current : Option (List TocEntry)) : Event H K → Option (List TocEntry)
  | .setToc toc => some toc
  | .unmount => none
  | .page _ | .batch _ => current

/-- The outline that an event brings, if it brings one. -/
def Event.outline? : Event H K → Option (List TocEntry)
  | .setToc toc => some toc
  | .page _ | .batch _ | .unmount => none

/-- The outline that is attached after a run: the latest one, unless an unmount came
since. -/
def attachedAfter (toc : List TocEntry) (events : List (Event H K)) : Option (List TocEntry) :=
  events.foldl Event.attach (some toc)

/-- The outlines that were attached in a run. -/
def outlines (toc : List TocEntry) (events : List (Event H K)) : List (List TocEntry) :=
  toc :: events.filterMap Event.outline?

variable {toc outline : List TocEntry} {events : List (Event H K)}

theorem attachedAfter_concat (event : Event H K) :
    attachedAfter toc (events ++ [event]) = event.attach (attachedAfter toc events) := by
  simp [attachedAfter]

theorem mem_outlines_append {later : List (Event H K)} (h : outline ∈ outlines toc events) :
    outline ∈ outlines toc (events ++ later) := by
  unfold outlines at h ⊢
  rw [List.filterMap_append, ← List.cons_append]
  exact List.mem_append_left _ h

/-- What is attached was attached at some time. -/
theorem mem_outlines_of_attachedAfter (h : attachedAfter toc events = some outline) :
    outline ∈ outlines toc events := by
  induction events using List.reverseRecOn with
  | nil =>
      obtain rfl := Option.some.inj h
      exact List.mem_cons_self
  | append_singleton events event ih =>
      rw [attachedAfter_concat] at h
      cases event with
      | setToc other =>
          obtain rfl := Option.some.inj h
          simp [outlines, Event.outline?]
      | unmount => exact absurd h.symm (Option.some_ne_none outline)
      | page change => exact mem_outlines_append (ih h)
      | batch entries => exact mem_outlines_append (ih h)

/-- Without another outline nothing is attached but what was attached before. -/
theorem attachedAfter_append {later : List (Event H K)} (hlater : ∀ e ∈ later, e.outline? = none)
    (h : attachedAfter toc (events ++ later) = some outline) :
    attachedAfter toc events = some outline := by
  induction later using List.reverseRecOn with
  | nil => rwa [List.append_nil] at h
  | append_singleton later event ih =>
      rw [← List.append_assoc, attachedAfter_concat] at h
      have hearlier := ih fun e he => hlater e (List.mem_append_left _ he)
      have hevent := hlater event (by simp)
      cases event with
      | setToc other => exact absurd hevent (Option.some_ne_none other)
      | unmount => exact absurd h.symm (Option.some_ne_none outline)
      | page change => exact hearlier h
      | batch entries => exact hearlier h

end Attached

section Run

variable {H : Type u} {K : Type v} [Coordinate K] [VisibilityHost H K]

/-- A tracker after an event. -/
def react (t : Tracker H K) : Event H K → Tracker H K
  | .page change => { t with host := change t.host }
  | .batch entries => t.handleBatch entries
  | .setToc toc => t.setToc toc
  | .unmount => t.unmount

/-- A tracker after a run. -/
def reached (host : H) (toc : List TocEntry) (config : TrackerConfig K)
    (events : List (Event H K)) : Tracker H K :=
  events.foldl react (mount host toc config)

theorem reached_append (host : H) (toc : List TocEntry) (config : TrackerConfig K)
    (events later : List (Event H K)) :
    reached host toc config (events ++ later) = later.foldl react (reached host toc config events) :=
  List.foldl_append

theorem reached_concat (host : H) (toc : List TocEntry) (config : TrackerConfig K)
    (events : List (Event H K)) (event : Event H K) :
    reached host toc config (events ++ [event]) = (reached host toc config events).react event :=
  reached_append host toc config events [event]

variable (t : Tracker H K)

/-! ### One operation -/

/-- The heading that is active as soon as an outline is attached: its first one, if the
host shows that one at or above the activation offset. -/
def initialId (toc : List TocEntry) : Option String :=
  (trackedIds toc).head?.filter fun first =>
    ((VisibilityHost.topOf t.host first).1.map fun top =>
      Coordinate.le top t.config.activationOffset).getD false

theorem initialId_eq_some_iff {toc : List TocEntry} {id : String} :
    t.initialId toc = some id ↔ (trackedIds toc).head? = some id ∧
      ∃ top, (VisibilityHost.topOf t.host id).1 = some top ∧
        Coordinate.le top t.config.activationOffset = true := by
  rw [initialId, Option.filter_eq_some_iff]
  cases (VisibilityHost.topOf t.host id).1 <;> simp

/-- An outline without ids takes the place of the tracked ids and does nothing else. -/
theorem attach_of_nil {toc : List TocEntry} (h : trackedIds toc = []) :
    t.attach toc = { t with ids := [] } := by
  unfold trackedIds at h
  simp only [attach, h]

/-- An outline with ids is observed, after the host was asked where its first heading is. -/
theorem attach_of_cons {toc : List TocEntry} {first : String} {rest : List String}
    (h : trackedIds toc = first :: rest) :
    t.attach toc =
      let host := (VisibilityHost.topOf t.host first).2
      let observed := VisibilityHost.observe host (first :: rest) t.config.band
      { t with
        host := observed.2
        ids := first :: rest
        subscription := some observed.1
        activeId := (t.initialId toc).or t.activeId } := by
  unfold initialId
  unfold trackedIds at h ⊢
  simp only [attach, h, List.head?_cons, Option.filter]
  split <;> rfl

theorem ids_attach (toc : List TocEntry) : (t.attach toc).ids = trackedIds toc := by
  cases h : trackedIds toc with
  | nil => rw [attach_of_nil t h]
  | cons first rest => rw [attach_of_cons t h]

theorem activeId_attach (toc : List TocEntry) :
    (t.attach toc).activeId = (t.initialId toc).or t.activeId := by
  cases h : trackedIds toc with
  | nil => simp [attach_of_nil t h, initialId, h]
  | cons first rest => rw [attach_of_cons t h]

theorem isObserving_attach (toc : List TocEntry) (h : t.isObserving = false) :
    (t.attach toc).isObserving = true ↔ trackedIds toc ≠ [] := by
  cases hids : trackedIds toc with
  | nil =>
      have hobserving : (t.attach toc).isObserving = t.isObserving := by
        rw [attach_of_nil t hids]
        rfl
      simp [hobserving, h]
  | cons first rest =>
      rw [attach_of_cons t hids]
      simp [isObserving]

omit [Coordinate K] in
/-- Ending the subscription leaves the rest as it is, apart from the host. -/
theorem release_eq : t.release = { t with host := t.release.host, subscription := none } := by
  obtain ⟨host, config, ids, subscription, activeId⟩ := t
  cases subscription <;> rfl

omit [Coordinate K] in
theorem isObserving_release : t.release.isObserving = false := by
  rw [release_eq]
  rfl

omit [Coordinate K] in
theorem activeId_release : t.release.activeId = t.activeId := by
  rw [release_eq]

/-- A batch changes only the active heading. -/
theorem handleBatch_eq (batch : List (VisibilityEntry K)) :
    t.handleBatch batch =
      { t with
        activeId := (if t.isObserving then select t.config t.ids batch else none).or t.activeId } := by
  obtain ⟨host, config, ids, subscription, activeId⟩ := t
  cases subscription with
  | none => simp [handleBatch, isObserving]
  | some subscription => simp [handleBatch, isObserving]

/-! ### One event -/

/-- The heading that an event makes active, if it makes one so. -/
def chosen : Event H K → Option String
  | .batch entries => if t.isObserving then select t.config t.ids entries else none
  | .setToc toc => t.release.initialId toc
  | .page _ | .unmount => none

/-- **An event** leaves the active heading or makes the chosen one active. -/
theorem activeId_react (event : Event H K) :
    (t.react event).activeId = (t.chosen event).or t.activeId := by
  cases event with
  | page change => rfl
  | batch entries =>
      show (t.handleBatch entries).activeId = _
      rw [handleBatch_eq]
      rfl
  | setToc toc =>
      show (t.release.attach toc).activeId = _
      rw [activeId_attach, activeId_release]
      rfl
  | unmount => exact activeId_release t

/-- What an event makes active is tracked after it. -/
theorem mem_ids_of_chosen {event : Event H K} {id : String} (h : t.chosen event = some id) :
    id ∈ (t.react event).ids := by
  cases event with
  | page change => exact absurd h.symm (Option.some_ne_none id)
  | batch entries =>
      rw [chosen] at h
      split at h
      · obtain ⟨entry, ⟨-, hid⟩, rfl⟩ := reported_of_select h
        show entry.id ∈ (t.handleBatch entries).ids
        rwa [handleBatch_eq]
      · exact absurd h.symm (Option.some_ne_none id)
  | setToc toc =>
      show id ∈ (t.release.attach toc).ids
      rw [ids_attach]
      exact List.mem_of_head? ((initialId_eq_some_iff _).1 h).1
  | unmount => exact absurd h.symm (Option.some_ne_none id)

/-- A tracker follows an outline, or none: it tracks the ids of the outline that are not
empty, and has a subscription exactly if there are any. -/
structure Follows (outline : Option (List TocEntry)) (t : Tracker H K) : Prop where
  /-- The ids that it tracks. -/
  ids_eq : t.ids = outline.elim [] trackedIds
  /-- When it has a subscription. -/
  observing_iff : t.isObserving = true ↔ t.ids ≠ []

theorem follows_attach (toc : List TocEntry) (h : t.isObserving = false) :
    (t.attach toc).Follows (some toc) := by
  refine ⟨ids_attach t toc, ?_⟩
  rw [ids_attach, isObserving_attach t toc h]

variable {t}

/-- After each event the outline is followed that is attached then. -/
theorem Follows.react {outline : Option (List TocEntry)} (h : t.Follows outline)
    (event : Event H K) : (t.react event).Follows (event.attach outline) := by
  cases event with
  | page change => exact ⟨h.ids_eq, h.observing_iff⟩
  | batch entries =>
      show (t.handleBatch entries).Follows outline
      rw [handleBatch_eq]
      exact ⟨h.ids_eq, h.observing_iff⟩
  | setToc toc => exact follows_attach _ toc (isObserving_release t)
  | unmount =>
      refine ⟨rfl, ?_⟩
      show t.release.isObserving = true ↔ _
      simp [isObserving_release, Tracker.react, unmount]

/-! ### A whole run -/

variable (host : H) (toc : List TocEntry) (config : TrackerConfig K) (events : List (Event H K))

/-- **At every moment of a run** the attached outline is followed. -/
theorem follows_reached : (reached host toc config events).Follows (attachedAfter toc events) := by
  induction events using List.reverseRecOn with
  | nil =>
      -- To mount is to attach the first outline to a tracker that observes nothing.
      exact follows_attach _ toc rfl
  | append_singleton events event ih =>
      rw [reached_concat, attachedAfter_concat]
      exact ih.react event

theorem config_react (t : Tracker H K) (event : Event H K) : (t.react event).config = t.config := by
  cases event with
  | page change => rfl
  | batch entries =>
      show (t.handleBatch entries).config = _
      rw [handleBatch_eq]
  | setToc other =>
      show (t.release.attach other).config = _
      cases h : trackedIds other with
      | nil => rw [attach_of_nil _ h, release_eq]
      | cons first rest => rw [attach_of_cons _ h, release_eq]
  | unmount =>
      show t.release.config = _
      rw [release_eq]

/-- The settings stay as they are. -/
theorem config_reached : (reached host toc config events).config = config := by
  induction events using List.reverseRecOn with
  | nil =>
      show (attach _ toc).config = config
      cases h : trackedIds toc with
      | nil => rw [attach_of_nil _ h]
      | cons first rest => rw [attach_of_cons _ h]
  | append_singleton events event ih => rw [reached_concat, config_react, ih]

/-- There is a subscription exactly if the attached outline has an id that is not empty. -/
theorem isObserving_reached_iff : (reached host toc config events).isObserving = true ↔
    ∃ outline, attachedAfter toc events = some outline ∧ ∃ id ∈ flattenIds outline, id ≠ "" := by
  have h := follows_reached host toc config events
  rw [h.observing_iff, h.ids_eq]
  cases attachedAfter toc events with
  | none => simp
  | some outline => simp [trackedIds_eq_nil_iff]

end Run

/-! ### A short page -/

/-- A page with two headings, of which only the first is shown without scrolling. -/
def shortPage : ScrollLayout Binary64 :=
  ((ScrollLayout.empty (.ofNat 1000)).place "a" (.ofNat 140) (.ofNat 40)).place "b" (.ofNat 900)
    (.ofNat 40)

/-- The outline of the short page. -/
def shortOutline : List TocEntry := [⟨"A", 1, "a", []⟩, ⟨"B", 1, "b", []⟩]

end Tracker

end PostPress
