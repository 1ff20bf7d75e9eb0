import PostPress.Proofs.Scroll.Run

/-!
# PostPress.Proofs.Scroll.Subscription

**Subscriptions are a scoped resource.** Whatever happens to a tracker, it takes a
subscription only while it has none, hands back the one that it has, and has none left
when it goes out of use (`Tracker.exchanges_alternate`).

* `Transcript` — a host with a record of all exchanges with it. Other than
  `RecordedHost`, which numbers subscriptions, it keeps the subscription that was given
  or handed back;
* `Protocol` — the rule for subscriptions, as a relation between the live one before
  some exchanges and the live one after them;
* `Tracker.plain` — the tracker without the record, which no run depends on.

That a run keeps the rule is one fact about two functions: `release` hands back what is
live, and `attach`, which is only called while nothing is, takes at most one.
-/

namespace PostPress

universe u v

/-- One exchange with a host. -/
inductive Exchange (S : Type)
  /-- It was asked where a heading is. -/
  | topOf (id : String)
  /-- It was asked to observe headings, and gave a subscription. -/
  | observe (ids : List String) (given : S)
  /-- A subscription was handed back. -/
  | unobserve (returned : S)
deriving DecidableEq, Repr

/-- Whether an exchange begins or ends a subscription. -/
def Exchange.isSubscription {S : Type} : Exchange S → Bool
  | .topOf _ => false
  | .observe _ _ | .unobserve _ => true

/-! ### The rule for subscriptions -/

/-- **The rule for subscriptions.** From the live one, or none, before some exchanges to
the one after them: a subscription is taken only while none is live, and only the live
one is handed back. -/
inductive Protocol {S : Type} : Option S → List (Exchange S) → Option S → Prop
  /-- Without an exchange nothing changes. -/
  | nil (live : Option S) : Protocol live [] live
  /-- A question changes nothing. -/
  | topOf {live after : Option S} {id : String} {rest : List (Exchange S)}
      (next : Protocol live rest after) : Protocol live (.topOf id :: rest) after
  /-- While none is live, one is taken. -/
  | observe {after : Option S} {ids : List String} {s : S} {rest : List (Exchange S)}
      (next : Protocol (some s) rest after) : Protocol none (.observe ids s :: rest) after
  /-- The live one is handed back. -/
  | unobserve {after : Option S} {s : S} {rest : List (Exchange S)}
      (next : Protocol none rest after) : Protocol (some s) (.unobserve s :: rest) after

namespace Protocol

variable {S : Type} {before between after : Option S} {earlier later : List (Exchange S)}

theorem append (h : Protocol before earlier between) (hlater : Protocol between later after) :
    Protocol before (earlier ++ later) after := by
  induction h with
  | nil live => exact hlater
  | topOf next ih => exact .topOf (ih hlater)
  | observe next ih => exact .observe (ih hlater)
  | unobserve next ih => exact .unobserve (ih hlater)

/-- Exchanges that keep the rule keep it at every moment. -/
theorem exists_of_append (h : Protocol before (earlier ++ later) after) :
    ∃ live, Protocol before earlier live := by
  induction earlier generalizing before with
  | nil => exact ⟨before, .nil before⟩
  | cons exchange rest ih =>
      rw [List.cons_append] at h
      cases h with
      | topOf next =>
          obtain ⟨live, hlive⟩ := ih next
          exact ⟨live, .topOf hlive⟩
      | observe next =>
          obtain ⟨live, hlive⟩ := ih next
          exact ⟨live, .observe hlive⟩
      | unobserve next =>
          obtain ⟨live, hlive⟩ := ih next
          exact ⟨live, .unobserve hlive⟩

/-- The exchanges alone tell which subscription is live after them. -/
theorem unique (h : Protocol before earlier between) (h' : Protocol before earlier after) :
    between = after := by
  induction h with
  | nil live =>
      cases h' with
      | nil => rfl
  | topOf next ih =>
      cases h' with
      | topOf next' => exact ih next'
  | observe next ih =>
      cases h' with
      | observe next' => exact ih next'
  | unobserve next ih =>
      cases h' with
      | unobserve next' => exact ih next'

/-- If nothing is live at the end, each subscription that was taken is handed back by the
next exchange of its kind; before that, the one that was live at the beginning. -/
theorem exists_pairs (h : Protocol before earlier none) : ∃ taken : List (List String × S),
    earlier.filter Exchange.isSubscription = before.toList.map Exchange.unobserve ++
      taken.flatMap fun (ids, s) => [.observe ids s, .unobserve s] := by
  generalize hnone : (none : Option S) = after at h
  induction h with
  | nil live =>
      subst hnone
      exact ⟨[], rfl⟩
  | topOf next ih => exact ih hnone
  | @observe _ ids s _ next ih =>
      -- What follows begins with the return of the one that is taken here.
      obtain ⟨taken, htaken⟩ := ih hnone
      refine ⟨(ids, s) :: taken, ?_⟩
      rw [List.filter_cons_of_pos rfl, htaken]
      rfl
  | unobserve next ih =>
      obtain ⟨taken, htaken⟩ := ih hnone
      refine ⟨taken, ?_⟩
      rw [List.filter_cons_of_pos rfl, htaken]
      rfl

end Protocol

/-! ### A host with a record -/

section Transcript

variable {H : Type u} {K : Type v} [VisibilityHost H K]

/-- A host with a record of the exchanges. -/
structure Transcript (H : Type u) (K : Type v) [VisibilityHost H K] where
  /-- The host. -/
  host : H
  /-- The exchanges with it so far, in order. -/
  exchanges : List (Exchange (VisibilityHost.Subscription H))

namespace Transcript

instance : VisibilityHost (Transcript H K) K where
  Subscription := VisibilityHost.Subscription H
  topOf r id :=
    let (top, host) := VisibilityHost.topOf r.host id
    (top, ⟨host, r.exchanges ++ [.topOf id]⟩)
  observe r ids band :=
    let (subscription, host) := VisibilityHost.observe r.host ids band
    (subscription, ⟨host, r.exchanges ++ [.observe ids subscription]⟩)
  unobserve r subscription :=
    ⟨VisibilityHost.unobserve r.host subscription, r.exchanges ++ [.unobserve subscription]⟩

/-- A host before the first exchange. -/
def start (host : H) : Transcript H K := ⟨host, []⟩

end Transcript

namespace Tracker

/-- What happens to a tracker, with a record: the page changes without an exchange. -/
def Event.recorded : Event H K → Event (Transcript H K) K
  | .page change => .page fun r => { r with host := change r.host }
  | .batch entries => .batch entries
  | .setToc toc => .setToc toc
  | .unmount => .unmount

/-- A tracker without the record. -/
def plain (t : Tracker (Transcript H K) K) : Tracker H K :=
  ⟨t.host.host, t.config, t.ids, t.subscription, t.activeId⟩

variable (t : Tracker (Transcript H K) K)

theorem plain_release : t.release.plain = t.plain.release := by
  obtain ⟨host, config, ids, subscription, activeId⟩ := t
  cases subscription with
  | none => rfl
  | some subscription => rfl

variable [Coordinate K]

theorem plain_attach (toc : List TocEntry) : (t.attach toc).plain = t.plain.attach toc := by
  cases h : trackedIds toc with
  | nil =>
      rw [attach_of_nil _ h, attach_of_nil _ h]
      rfl
  | cons first rest =>
      rw [attach_of_cons _ h, attach_of_cons _ h]
      rfl

theorem plain_react (event : Event H K) :
    (t.react event.recorded).plain = t.plain.react event := by
  cases event with
  | page change => rfl
  | batch entries =>
      show (t.handleBatch entries).plain = t.plain.handleBatch entries
      rw [handleBatch_eq, handleBatch_eq]
      rfl
  | setToc toc =>
      show (t.release.attach toc).plain = t.plain.release.attach toc
      rw [plain_attach, plain_release]
  | unmount =>
      show { t.release.plain with ids := [] } = { t.plain.release with ids := [] }
      rw [plain_release]

/-- A run with a record is the run without it. -/
theorem plain_reached (host : H) (toc : List TocEntry) (config : TrackerConfig K)
    (events : List (Event H K)) :
    (reached (Transcript.start host) toc config (events.map Event.recorded)).plain =
      reached host toc config events := by
  induction events using List.reverseRecOn with
  | nil =>
      -- Before the first outline both trackers have done nothing.
      exact plain_attach _ toc
  | append_singleton events event ih =>
      rw [List.map_append, List.map_singleton, reached_concat, reached_concat, plain_react, ih]

/-! ### Runs keep the rule -/

/-- A tracker whose host was treated by the rule, and which has the live subscription. -/
def Keeps : Prop := Protocol none t.host.exchanges t.subscription

variable {t}

omit [Coordinate K] in
/-- What is live is handed back. -/
theorem Keeps.release (h : t.Keeps) : Protocol none t.release.host.exchanges none := by
  obtain ⟨host, config, ids, subscription, activeId⟩ := t
  cases subscription with
  | none => exact h
  | some subscription => exact h.append (.unobserve (.nil none))

/-- While nothing is live, at most one subscription is taken. -/
theorem keeps_attach (toc : List TocEntry) (hnone : t.subscription = none)
    (h : Protocol none t.host.exchanges none) : (t.attach toc).Keeps := by
  unfold Keeps
  cases hids : trackedIds toc with
  | nil =>
      rw [attach_of_nil _ hids, hnone]
      exact h
  | cons first rest =>
      rw [attach_of_cons _ hids]
      -- The host is asked where the first heading is, and then to observe.
      show Protocol none ((t.host.exchanges ++ [.topOf first]) ++ [.observe (first :: rest) _]) _
      exact (h.append (.topOf (.nil none))).append (.observe (.nil _))

/-- **One event** keeps the rule. -/
theorem Keeps.react (h : t.Keeps) (event : Event H K) : (t.react event.recorded).Keeps := by
  have hnone : t.release.subscription = none := by rw [release_eq]
  cases event with
  | page change => exact h
  | batch entries =>
      show (t.handleBatch entries).Keeps
      rw [handleBatch_eq]
      exact h
  | setToc toc => exact keeps_attach toc hnone h.release
  | unmount =>
      show Protocol none t.release.host.exchanges t.release.subscription
      rw [hnone]
      exact h.release

/-- **A whole run** keeps the rule. -/
theorem keeps_reached (host : H) (toc : List TocEntry) (config : TrackerConfig K)
    (events : List (Event H K)) :
    (reached (Transcript.start host) toc config (events.map Event.recorded)).Keeps := by
  induction events using List.reverseRecOn with
  | nil => exact keeps_attach toc rfl (.nil none)
  | append_singleton events event ih =>
      rw [List.map_append, List.map_singleton, reached_concat]
      exact ih.react event

/-- **Subscriptions alternate.** In every run on every host, which the record does not
change: once the tracker goes out of use, the subscriptions that were taken, each of them
handed back at once before the next one, are all that was; at every moment before there
was at most one, and at the end there is none. The tracker observes exactly while one is
live, which is while the attached outline has an id that is not empty. No batch makes an
exchange. -/
theorem exchanges_alternate (host : H) (toc : List TocEntry) (config : TrackerConfig K)
    (events : List (Event H K)) :
    let t : Tracker (Transcript H K) K :=
      reached (Transcript.start host) toc config (events.map Event.recorded)
    t.plain = reached host toc config events ∧
    t.drop.plain = (reached host toc config events).drop ∧
    (∃ taken : List (List String × VisibilityHost.Subscription H),
      t.drop.host.exchanges.filter Exchange.isSubscription =
        taken.flatMap fun (ids, s) => [.observe ids s, .unobserve s]) ∧
    (∀ moment, moment <+: t.drop.host.exchanges → ∃ live, Protocol none moment live) ∧
    Protocol none t.host.exchanges t.subscription ∧
    Protocol none t.drop.host.exchanges none ∧
    (t.isObserving = true ↔ ∃ s, Protocol none t.host.exchanges (some s)) ∧
    (t.isObserving = true ↔
      ∃ outline, attachedAfter toc events = some outline ∧ ∃ id ∈ flattenIds outline, id ≠ "") ∧
    ∀ batch, (t.handleBatch batch).host = t.host := by
  intro t
  have hplain : t.plain = reached host toc config events := plain_reached host toc config events
  have hkeeps : t.Keeps := keeps_reached host toc config events
  have hdropped : Protocol none t.drop.host.exchanges none := hkeeps.release
  -- What is said of the whole run is read off the exchanges up to its end.
  refine ⟨hplain, ?_, hdropped.exists_pairs, ?_, hkeeps, hdropped, ?_, ?_, ?_⟩
  · rw [← hplain]
    exact plain_release t
  · rintro moment ⟨rest, hrest⟩
    rw [← hrest] at hdropped
    exact hdropped.exists_of_append
  · constructor
    · intro hobserving
      obtain ⟨s, hs⟩ := Option.isSome_iff_exists.1 hobserving
      exact ⟨s, hs ▸ hkeeps⟩
    · rintro ⟨s, hlive⟩
      show t.subscription.isSome = true
      rw [Protocol.unique hkeeps hlive]
      rfl
  · have hobserving := isObserving_reached_iff host toc config events
    rw [← hplain] at hobserving
    exact hobserving
  · intro batch
    rw [handleBatch_eq]

/-- The short page is observed twice, with a new subscription each time. -/
example :
    let t : Tracker (Transcript (ScrollLayout Binary64) Binary64) Binary64 :=
      reached (Transcript.start shortPage) shortOutline .default
        [.batch [], .setToc shortOutline, .unmount, .setToc []]
    t.drop.host.exchanges = [.topOf "a", .observe ["a", "b"] (0 : Nat), .unobserve (0 : Nat),
      .topOf "a", .observe ["a", "b"] (1 : Nat), .unobserve (1 : Nat)] := by
  rfl

end Tracker

end Transcript

end PostPress
