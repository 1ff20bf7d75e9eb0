import PostPress.Collections.NameMap
import PostPress.Scroll.Band

/-!
# PostPress.Scroll.Layout

A scrollable page with headings at known places, which reports what comes into
view.

* `VisibilityEntry` — the visibility of one heading, as reported;
* `ScrollLayout` — the page, with `place`, `observe`, `unobserve`, `scrollTo` and
  `takeRecords`.

A batch reports the observed headings whose state (in view or not, and how many
thresholds are crossed) is not the one reported last; the first batch after
`observe` reports all of them.
-/

namespace PostPress

universe u

/-- The visibility of one heading. -/
structure VisibilityEntry (K : Type u) where
  /-- The id of the heading. -/
  id : String
  /-- Whether it is in the band. -/
  isIntersecting : Bool
  /-- Its upper edge, relative to the viewport. -/
  top : K
deriving DecidableEq, Repr

/-- The order of reports: by id, out of view before in view, then by place. -/
def VisibilityEntry.le {K : Type u} [Coordinate K] (a b : VisibilityEntry K) : Bool :=
  if a.id ≠ b.id then decide (a.id < b.id)
  else if a.isIntersecting ≠ b.isIntersecting then b.isIntersecting
  else Coordinate.compare a.top b.top != .gt

/-- The place of a heading on the page. -/
structure Region (K : Type u) where
  /-- The upper edge, from the top of the page. -/
  top : K
  /-- The height. -/
  height : K
deriving DecidableEq, Repr

/-- The state of a heading as it was reported: in view or not, and the number of
thresholds crossed. -/
abbrev ReportedState := Bool × Nat

/-- One subscription to reports. -/
structure Observation (K : Type u) where
  /-- Its handle. -/
  handle : Nat
  /-- The observed ids, as they were passed; those without a region are left
  out. -/
  ids : List String
  /-- The band they are measured against. -/
  band : ObservationBand K
  /-- What was reported last. -/
  last : NameMap ReportedState
deriving DecidableEq, Repr

/-- A scrollable page. -/
structure ScrollLayout (K : Type u) where
  /-- The height of the viewport. -/
  viewportHeight : K
  /-- How far the page is scrolled. -/
  scrollY : K
  /-- The headings. -/
  regions : NameMap (Region K)
  /-- The live subscriptions, oldest first. -/
  observations : List (Observation K)
  /-- The handle of the next subscription. -/
  nextHandle : Nat
deriving DecidableEq, Repr

variable {K : Type u} [Coordinate K]

namespace Observation

/-- The reports that are due for ids, and what has been reported after them. -/
def reports (band : ObservationBand K) (measure : String → Option (K × Measurement K)) :
    List String → NameMap ReportedState → List (VisibilityEntry K) × NameMap ReportedState
  | [], last => ([], last)
  | id :: rest, last =>
      match measure id with
      | none => reports band measure rest last
      | some (top, m) =>
          let state := (m.isIntersecting, band.bucket m)
          if last.get? id = some state then reports band measure rest last
          else
            let (batch, last) := reports band measure rest (last.insert id state)
            (⟨id, m.isIntersecting, top⟩ :: batch, last)

end Observation

namespace ScrollLayout

/-- An empty page at its top. -/
def empty (viewportHeight : K) : ScrollLayout K :=
  ⟨viewportHeight, Coordinate.zero, ∅, [], 0⟩

/-- Put a heading at a place, or move it there. -/
def place (layout : ScrollLayout K) (id : String) (top height : K) : ScrollLayout K :=
  { layout with regions := layout.regions.insert id ⟨top, height⟩ }

/-- The upper edge of a heading, relative to the viewport. -/
def topOf (layout : ScrollLayout K) (id : String) : Option K :=
  (layout.regions.get? id).map fun region => Coordinate.sub region.top layout.scrollY

/-- How many subscriptions are live. -/
def activeSubscriptions (layout : ScrollLayout K) : Nat := layout.observations.length

/-- The observed ids of all subscriptions, ascending. -/
def observedIds (layout : ScrollLayout K) : List String :=
  (layout.observations.flatMap (·.ids)).mergeSort fun a b => !decide (b < a)

/-- The place of a heading and its measurement against a band. -/
def measureId (layout : ScrollLayout K) (band : ObservationBand K) (id : String) :
    Option (K × Measurement K) :=
  (layout.regions.get? id).map fun region =>
    let top := Coordinate.sub region.top layout.scrollY
    (top, band.measure top region.height layout.viewportHeight)

/-- Collect the reports of subscriptions. -/
def collect (layout : ScrollLayout K) :
    List (Observation K) → List (VisibilityEntry K) × List (Observation K)
  | [] => ([], [])
  | o :: rest =>
      let (batch, last) := Observation.reports o.band (layout.measureId o.band) o.ids o.last
      let (batches, rest) := layout.collect rest
      (batch ++ batches, { o with last } :: rest)

/-- The changes that have not been reported yet. -/
def takeRecords (layout : ScrollLayout K) : List (VisibilityEntry K) × ScrollLayout K :=
  let (batch, observations) := layout.collect layout.observations
  (batch, { layout with observations })

/-- Scroll, not beyond the top of the page, and report. -/
def scrollTo (layout : ScrollLayout K) (y : K) : List (VisibilityEntry K) × ScrollLayout K :=
  { layout with scrollY := Coordinate.max y Coordinate.zero }.takeRecords

/-- Report changes for ids against a band from now on. -/
def observe (layout : ScrollLayout K) (ids : List String) (band : ObservationBand K) :
    Nat × ScrollLayout K :=
  (layout.nextHandle,
    { layout with
      observations := layout.observations ++
        [⟨layout.nextHandle, ids.filter layout.regions.contains, band, ∅⟩]
      nextHandle := layout.nextHandle + 1 })

/-- End a subscription. -/
def unobserve (layout : ScrollLayout K) (handle : Nat) : ScrollLayout K :=
  { layout with observations := layout.observations.filter (·.handle != handle) }

end ScrollLayout

end PostPress
