/-!
# SearchRelay.Text.Ranges

Sets of characters as increasing lists of ranges of code points.
-/

namespace SearchRelay.Text

/-- Ranges of code points, both ends included, in increasing order. -/
abbrev Ranges := List (Nat × Nat)

/-- Whether a code point lies in one of the ranges.  They are in increasing
order, so the search ends at the first one that begins behind it. -/
def Ranges.hasPoint (point : Nat) : Ranges → Bool
  | [] => false
  | (first, last) :: rest =>
    if point < first then false else point ≤ last || Ranges.hasPoint point rest

def Ranges.covers (ranges : Ranges) (c : Char) : Bool := ranges.hasPoint c.toNat

end SearchRelay.Text
