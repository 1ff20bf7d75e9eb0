import PostPress.Number.Shortest
import PostPress.Scroll.Coordinate

/-!
# PostPress.Scroll.Band

The part of the viewport where a heading counts as in view: below the sticky
header and above the lower part of the reading area.

* `ObservationBand` — the insets, and the thresholds of visibility at which a
  change is reported;
* `ObservationBand.measure` — how much of a region lies in the band;
* `ObservationBand.bucket` — how many thresholds a measurement has crossed.
-/

namespace PostPress

universe u

/-- A band of the viewport. -/
structure ObservationBand (K : Type u) where
  /-- What comes off the top. -/
  topInset : K
  /-- The share of the height that comes off the bottom. -/
  bottomInsetRatio : K
  /-- The visible shares at which a change is reported. -/
  thresholds : List K
deriving DecidableEq, Repr

/-- How much of a region lies in a band. -/
structure Measurement (K : Type u) where
  /-- Whether any of it does. -/
  isIntersecting : Bool
  /-- Which share of it does. -/
  ratio : K
deriving DecidableEq, Repr

namespace ObservationBand

open Coordinate

variable {K : Type u} [Coordinate K]

/-- A header of 100, a reading area of 40 percent, and four thresholds. -/
def default : ObservationBand K where
  topInset := ofDecimal 100 0
  bottomInsetRatio := ofDecimal 6 1
  thresholds := [ofDecimal 0 0, ofDecimal 1 1, ofDecimal 5 1, ofDecimal 1 0]

/-- The upper and the lower edge, for a viewport of a height. -/
def edges (band : ObservationBand K) (viewportHeight : K) : K × K :=
  (band.topInset, max (mul viewportHeight (sub one band.bottomInsetRatio)) band.topInset)

/-- Measure a region whose upper edge is at `top`, relative to the viewport. A
region without height is in the band or not as a point is. -/
def measure (band : ObservationBand K) (top height viewportHeight : K) : Measurement K :=
  let (bandTop, bandBottom) := band.edges viewportHeight
  let bottom := add top (max height zero)
  let overlap := max (sub (min bottom bandBottom) (max top bandTop)) zero
  if le height zero then
    let inside := le bandTop top && le top bandBottom
    ⟨inside, if inside then one else zero⟩
  else ⟨lt zero overlap, clampUnit (div overlap height)⟩

/-- How many thresholds a measurement has crossed; one at zero or below is
crossed only by a region in the band. -/
def bucket (band : ObservationBand K) (m : Measurement K) : Nat :=
  band.thresholds.countP fun t => le t m.ratio && (lt zero t || m.isIntersecting)

end ObservationBand

/-- The insets of a band as the margins of a viewport observer, in the notation
of style sheets. -/
def ObservationBand.rootMargin (band : ObservationBand Binary64) : String :=
  "-" ++ band.topInset.toText ++ "px 0px -" ++
    (band.bottomInsetRatio.mul (Binary64.ofNat 100)).toText ++ "% 0px"

end PostPress
