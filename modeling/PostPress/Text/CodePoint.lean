/-!
# PostPress.Text.CodePoint

Classes and mappings of characters given as tables of ascending, disjoint
ranges of code points.

* `inRanges` — membership in a class;
* `imageIn` — the image under a mapping.
-/

namespace PostPress.Text

/-- Whether a code point lies in one of the ranges, which ascend; both ends of
a range belong to it. -/
def inRanges : List (Nat × Nat) → Nat → Bool
  | [], _ => false
  | (first, last) :: rest, code =>
      if code < first then false
      else if code ≤ last then true
      else inRanges rest code

/-- The image of a code point under a mapping, itself if the table does not move
it. A run of the table has a first and a last code point, a distance between
neighbours, and the image of the first; the others keep their distance to it. -/
def imageIn : List (Nat × Nat × Nat × Nat) → Nat → Nat
  | [], code => code
  | (first, last, step, image) :: rest, code =>
      if code < first then code
      else if code ≤ last ∧ (code - first) % step = 0 then image + (code - first)
      else imageIn rest code

end PostPress.Text
