import PostPress.Proofs.Scroll.Run

/-!
# PostPress.Proofs.Scroll.Active

**The active heading over a run.** Once there is one there always is; it is a heading of
an outline that was attached; a batch moves it to a heading that it reports; and while
nothing is tracked it stays (`Tracker.activeId_reached`).

Another outline is more than another subscription, though: it makes its own first
heading active if that one is at or above the activation offset
(`Tracker.activeId_setToc_iff`). On a page that is scrolled down the first heading is,
so even the same outline, set once more, takes the reader back to its beginning
(`Tracker.activeId_setToc_scrolled`).
-/

namespace PostPress

universe u v

namespace Tracker

section Active

variable {H : Type u} {K : Type v} [Coordinate K] [VisibilityHost H K]

/-! ### Another outline -/

/-- **Another outline** leaves the active heading exactly if it has no heading that is
tracked, or the host does not show the first of them at or above the activation offset, or
that one is active already. In any other case the first one becomes active. -/
theorem activeId_setToc_iff (t : Tracker H K) (toc : List TocEntry) :
    ((t.setToc toc).activeId = t.activeId ↔
      ∀ first top, (trackedIds toc).head? = some first →
        (VisibilityHost.topOf t.release.host first).1 = some top →
        Coordinate.le top t.config.activationOffset = true → t.activeId = some first) ∧
    ((t.setToc toc).activeId ≠ t.activeId → (t.setToc toc).activeId = (trackedIds toc).head?) := by
  have hactive : (t.setToc toc).activeId = (t.release.initialId toc).or t.activeId :=
    activeId_react t (.setToc toc)
  have hconfig : t.release.config = t.config := by rw [release_eq]
  rw [hactive]
  -- The host is asked only after the old subscription has ended.
  cases hinitial : t.release.initialId toc with
  | none =>
      refine ⟨iff_of_true rfl ?_, fun hne => absurd rfl hne⟩
      intro first top hfirst htop hle
      have hsome := (initialId_eq_some_iff t.release).2 ⟨hfirst, top, htop, hconfig ▸ hle⟩
      rw [hinitial] at hsome
      exact absurd hsome.symm (Option.some_ne_none first)
  | some id =>
      obtain ⟨hhead, top, htop, hle⟩ := (initialId_eq_some_iff t.release).1 hinitial
      rw [Option.some_or]
      refine ⟨⟨?_, ?_⟩, fun _ => hhead.symm⟩
      · intro hsame first _ hfirst _ _
        rw [← hsame, ← hfirst, hhead]
      · intro hall
        exact (hall id top hhead htop (hconfig ▸ hle)).symm

/-- The short page is scrolled to its second heading, and the tracker takes in what the
page reports then. -/
def scrolledDown : List (Event (ScrollLayout Binary64) Binary64) :=
  let page := (reached shortPage shortOutline .default []).host
  [.page fun layout => (layout.scrollTo (.ofNat 700)).2, .batch (page.scrollTo (.ofNat 700)).1]

/-- On the scrolled page the second heading is active; the same outline once more makes
the first one active, although that is far above the viewport. -/
theorem activeId_setToc_scrolled :
    let t := reached shortPage shortOutline .default scrolledDown
    t.activeId = some "b" ∧ (t.setToc shortOutline).activeId = some "a" ∧
      (t.host.topOf "a") = some (.neg (.ofNat 560)) := by
  decide +kernel

/-! ### The whole run -/

/-- Without a subscription only another outline makes a heading active. -/
theorem chosen_eq_none {t : Tracker H K} {event : Event H K} (h : t.isObserving = false)
    (hevent : event.outline? = none) : t.chosen event = none := by
  cases event with
  | page change => rfl
  | batch entries => simp [chosen, h]
  | setToc toc => exact absurd hevent (Option.some_ne_none toc)
  | unmount => rfl

section Facts

variable (host : H) (toc : List TocEntry) (config : TrackerConfig K) (events : List (Event H K))

/-- What is active is not cleared. -/
theorem activeId_reached_append (later : List (Event H K))
    (h : (reached host toc config events).activeId ≠ none) :
    (reached host toc config (events ++ later)).activeId ≠ none := by
  induction later using List.reverseRecOn with
  | nil => rwa [List.append_nil]
  | append_singleton later event ih =>
      rw [← List.append_assoc, reached_concat, activeId_react]
      simp [ih]

/-- What is tracked is in the attached outline. -/
theorem exists_attached_of_mem_ids {id : String} (h : id ∈ (reached host toc config events).ids) :
    ∃ outline, attachedAfter toc events = some outline ∧ id ∈ trackedIds outline := by
  rw [(follows_reached host toc config events).ids_eq] at h
  cases hattached : attachedAfter toc events with
  | none =>
      rw [hattached] at h
      exact absurd h List.not_mem_nil
  | some outline =>
      rw [hattached] at h
      exact ⟨outline, rfl, h⟩

/-- What is active was tracked at some time. -/
theorem exists_outline_of_activeId {id : String}
    (h : (reached host toc config events).activeId = some id) :
    ∃ outline ∈ outlines toc events, id ∈ trackedIds outline := by
  induction events using List.reverseRecOn with
  | nil =>
      -- Nothing is active before the first outline is attached.
      have hmount := activeId_attach (⟨host, config, [], none, none⟩ : Tracker H K) toc
      rw [Option.or_none] at hmount
      have hinitial := (initialId_eq_some_iff _).1 (hmount.symm.trans h)
      exact ⟨toc, List.mem_cons_self, List.mem_of_head? hinitial.1⟩
  | append_singleton events event ih =>
      rw [reached_concat, activeId_react] at h
      cases hchosen : (reached host toc config events).chosen event with
      | none =>
          rw [hchosen, Option.none_or] at h
          obtain ⟨outline, houtline, hid⟩ := ih h
          exact ⟨outline, mem_outlines_append houtline, hid⟩
      | some other =>
          rw [hchosen] at h
          obtain rfl := Option.some.inj h
          have hids := mem_ids_of_chosen _ hchosen
          rw [← reached_concat] at hids
          obtain ⟨outline, hattached, hid⟩ := exists_attached_of_mem_ids host toc config _ hids
          exact ⟨outline, mem_outlines_of_attachedAfter hattached, hid⟩

/-- A batch moves the active heading only to one of the attached outline that it
reports. -/
theorem exists_entry_of_handleBatch {batch : List (VisibilityEntry K)}
    (h : ((reached host toc config events).handleBatch batch).activeId ≠
      (reached host toc config events).activeId) :
    ∃ outline, attachedAfter toc events = some outline ∧ ∃ entry ∈ batch,
      ((reached host toc config events).handleBatch batch).activeId = some entry.id ∧
        entry.id ∈ trackedIds outline := by
  rw [handleBatch_eq] at h ⊢
  dsimp only at h ⊢
  by_cases hobserving : (reached host toc config events).isObserving = true
  · rw [if_pos hobserving] at h ⊢
    cases hselect : select (reached host toc config events).config
      (reached host toc config events).ids batch with
    | none =>
        rw [hselect] at h
        exact absurd rfl h
    | some id =>
        obtain ⟨entry, ⟨hentry, hids⟩, rfl⟩ := reported_of_select hselect
        obtain ⟨outline, hattached, hid⟩ := exists_attached_of_mem_ids host toc config events hids
        exact ⟨outline, hattached, entry, hentry, rfl, hid⟩
  · rw [if_neg hobserving] at h
    exact absurd rfl h

/-- While nothing is tracked the active heading stays. -/
theorem activeId_reached_idle (hidle : ∀ outline, attachedAfter toc events = some outline →
      ∀ id ∈ flattenIds outline, id = "")
    {later : List (Event H K)} (hlater : ∀ event ∈ later, event.outline? = none) :
    (reached host toc config (events ++ later)).activeId =
      (reached host toc config events).activeId := by
  induction later using List.reverseRecOn with
  | nil => rw [List.append_nil]
  | append_singleton later event ih =>
      have hearlier : ∀ event ∈ later, event.outline? = none :=
        fun event h => hlater event (List.mem_append_left _ h)
      have hobserving : (reached host toc config (events ++ later)).isObserving = false := by
        rw [← Bool.not_eq_true, isObserving_reached_iff]
        rintro ⟨outline, hattached, id, hid, hne⟩
        exact hne (hidle outline (attachedAfter_append hearlier hattached) id hid)
      rw [← List.append_assoc, reached_concat, activeId_react,
        chosen_eq_none hobserving (hlater event (by simp)), Option.none_or, ih hearlier]

end Facts

/-- **The active heading over a run.** It is never cleared. It has a non-empty id of an
outline that was attached so far. A batch that changes it moves it to a heading of the
attached outline that the batch reports. From an unmount on, or from an outline without
ids on, it stays until another outline is set. -/
theorem activeId_reached (host : H) (toc : List TocEntry) (config : TrackerConfig K)
    (events : List (Event H K)) :
    let t := reached host toc config events
    (∀ later, t.activeId ≠ none → (reached host toc config (events ++ later)).activeId ≠ none) ∧
    (∀ id, t.activeId = some id →
      id ≠ "" ∧ ∃ outline ∈ outlines toc events, id ∈ flattenIds outline) ∧
    (∀ batch, (t.handleBatch batch).activeId ≠ t.activeId →
      ∃ outline, attachedAfter toc events = some outline ∧ ∃ entry ∈ batch,
        (t.handleBatch batch).activeId = some entry.id ∧ entry.id ∈ flattenIds outline) ∧
    ((∀ outline, attachedAfter toc events = some outline → ∀ id ∈ flattenIds outline, id = "") →
      ∀ later : List (Event H K), (∀ event ∈ later, event.outline? = none) →
        (reached host toc config (events ++ later)).activeId = t.activeId) := by
  refine ⟨activeId_reached_append host toc config events, ?_, ?_, ?_⟩
  · intro id hid
    obtain ⟨outline, houtline, htracked⟩ := exists_outline_of_activeId host toc config events hid
    obtain ⟨hmem, hne⟩ := mem_trackedIds.1 htracked
    exact ⟨hne, outline, houtline, hmem⟩
  · intro batch hchange
    obtain ⟨outline, hattached, entry, hentry, hactive, htracked⟩ :=
      exists_entry_of_handleBatch host toc config events hchange
    exact ⟨outline, hattached, entry, hentry, hactive, (mem_trackedIds.1 htracked).1⟩
  · intro hidle later hlater
    exact activeId_reached_idle host toc config events hidle hlater

/-- After an unmount a batch does not move the active heading of the scrolled page. -/
example : (reached shortPage shortOutline .default
    (scrolledDown ++ [.unmount, .batch [⟨"a", true, .ofNat 0⟩]])).activeId = some "b" := by
  decide +kernel

end Active

end Tracker

end PostPress
