import PostPress.Heading.Outline
import PostPress.Scroll.Layout

/-!
# PostPress.Scroll.Tracker

Which heading of a document the reader is looking at.

* `VisibilityHost` — the services of the page that shows the document;
* `Tracker` — follows one outline on a host: `mount`, `handleBatch`, `setToc`,
  `unmount`, `drop`.

Of the headings reported in view the one nearest the top is active. If none is,
then of those at or above the activation offset the one nearest the anchor.
Otherwise nothing changes. Ties go to the heading that comes first.
-/

namespace PostPress

universe u v

/-- Layout and visibility services over a state of type `H`. -/
class VisibilityHost (H : Type u) (K : outParam (Type v)) where
  /-- What stands for a subscription. -/
  Subscription : Type
  /-- The upper edge of what is shown under an id, relative to the viewport. -/
  topOf : H → String → Option K × H
  /-- Report changes for ids against a band from now on. -/
  observe : H → List String → ObservationBand K → Subscription × H
  /-- End a subscription. -/
  unobserve : H → Subscription → H

instance {K : Type v} [Coordinate K] : VisibilityHost (ScrollLayout K) K where
  Subscription := Nat
  topOf layout id := (layout.topOf id, layout)
  observe layout ids band := layout.observe ids band
  unobserve layout handle := layout.unobserve handle

/-- A request made of a host. -/
inductive HostCall
  /-- The place of an id. -/
  | topOf (id : String)
  /-- A subscription for ids, numbered from one. -/
  | observe (number : Nat) (ids : List String)
  /-- The end of the subscription with that number. -/
  | unobserve (number : Nat)
deriving DecidableEq, Repr

/-- A host that keeps a record of the requests made of it. -/
structure RecordedHost (H : Type u) where
  /-- The host. -/
  host : H
  /-- The requests since the record was last emptied, in order. -/
  calls : List HostCall
  /-- How many subscriptions were asked for. -/
  observed : Nat

namespace RecordedHost

variable {H : Type u} {K : Type v}

instance [VisibilityHost H K] : VisibilityHost (RecordedHost H) K where
  Subscription := VisibilityHost.Subscription H × Nat
  topOf r id :=
    let (top, host) := VisibilityHost.topOf r.host id
    (top, { r with host, calls := r.calls ++ [.topOf id] })
  observe r ids band :=
    let (subscription, host) := VisibilityHost.observe r.host ids band
    ((subscription, r.observed + 1),
      ⟨host, r.calls ++ [.observe (r.observed + 1) ids], r.observed + 1⟩)
  unobserve r subscription :=
    { r with
      host := VisibilityHost.unobserve r.host subscription.1
      calls := r.calls ++ [.unobserve subscription.2] }

/-- The host with an empty record. -/
def forget (r : RecordedHost H) : RecordedHost H := { r with calls := [] }

end RecordedHost

/-- The settings of a tracker. -/
structure TrackerConfig (K : Type v) where
  /-- The band in which headings count as in view. -/
  band : ObservationBand K
  /-- A heading at or above this offset can be active without being in view. -/
  activationOffset : K
  /-- The preferred place of such a heading. -/
  anchorOffset : K
deriving DecidableEq, Repr

/-- The default band, activation from 150 up, the anchor at 100. -/
def TrackerConfig.default {K : Type v} [Coordinate K] : TrackerConfig K where
  band := .default
  activationOffset := Coordinate.ofDecimal 150 0
  anchorOffset := Coordinate.ofDecimal 100 0

/-- A tracker of the active heading. -/
structure Tracker (H : Type u) (K : Type v) [VisibilityHost H K] where
  /-- The host that shows the document. -/
  host : H
  /-- The settings. -/
  config : TrackerConfig K
  /-- The tracked ids in document order. -/
  ids : List String
  /-- The live subscription. -/
  subscription : Option (VisibilityHost.Subscription H)
  /-- The active heading. -/
  activeId : Option String

namespace Tracker

variable {H : Type u} {K : Type v} [Coordinate K]

/-- The first of the least elements of a list, for an order that may call
different elements equal. -/
def leastBy {α : Type v} (compare : α → α → Ordering) : List α → Option α
  | [] => none
  | a :: rest =>
      match leastBy compare rest with
      | none => some a
      | some b => if compare a b = .gt then some b else some a

/-- The heading that a batch makes active, if it makes one so. -/
def select (config : TrackerConfig K) (ids : List String) (batch : List (VisibilityEntry K)) :
    Option String :=
  let known := batch.filterMap fun entry => (ids.idxOf? entry.id).map fun i => (entry, i)
  let inView := known.filter fun (entry, _) => entry.isIntersecting
  match leastBy (fun a b => (Coordinate.compare a.1.top b.1.top).then (compare a.2 b.2)) inView with
  | some (entry, _) => some entry.id
  | none =>
      let distance (entry : VisibilityEntry K) : K :=
        Coordinate.abs (Coordinate.sub entry.top config.anchorOffset)
      let near := known.filter fun (entry, _) => Coordinate.le entry.top config.activationOffset
      (leastBy (fun a b =>
        (Coordinate.compare (distance a.1) (distance b.1)).then (compare a.2 b.2)) near).map
          fun (entry, _) => entry.id

variable [VisibilityHost H K]

/-- Follow the headings of an outline that have an id. The first one is active at
once if it is at or above the activation offset. -/
def attach (t : Tracker H K) (toc : List TocEntry) : Tracker H K :=
  let ids := (flattenIds toc).filter (· ≠ "")
  match ids with
  | [] => { t with ids }
  | first :: _ =>
      let (top, host) := VisibilityHost.topOf t.host first
      let reached := (top.map fun top => Coordinate.le top t.config.activationOffset).getD false
      let (subscription, host) := VisibilityHost.observe host ids t.config.band
      { t with
        host, ids
        subscription := some subscription
        activeId := if reached then some first else t.activeId }

/-- End the live subscription. -/
def release (t : Tracker H K) : Tracker H K :=
  match t.subscription with
  | none => t
  | some subscription =>
      { t with host := VisibilityHost.unobserve t.host subscription, subscription := none }

/-- Start to follow an outline. -/
def mount (host : H) (toc : List TocEntry) (config : TrackerConfig K) : Tracker H K :=
  attach ⟨host, config, [], none, none⟩ toc

/-- Take in one batch of reports; without a live subscription it is ignored. -/
def handleBatch (t : Tracker H K) (batch : List (VisibilityEntry K)) : Tracker H K :=
  if t.subscription.isNone then t
  else { t with activeId := (select t.config t.ids batch).or t.activeId }

/-- Follow another outline: the old subscription ends before the new one
begins. -/
def setToc (t : Tracker H K) (toc : List TocEntry) : Tracker H K := t.release.attach toc

/-- Stop following. -/
def unmount (t : Tracker H K) : Tracker H K := { t.release with ids := [] }

/-- Go out of use: a subscription that is still live ends. -/
def drop (t : Tracker H K) : Tracker H K := t.release

/-- Whether there is a live subscription. -/
def isObserving (t : Tracker H K) : Bool := t.subscription.isSome

end Tracker

end PostPress
