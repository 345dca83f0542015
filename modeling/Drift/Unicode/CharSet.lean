/-!
# Sets of characters

* `Unicode.CharSet` — ascending, disjoint ranges of code points.
* `CharSet.contains` — membership; the search ends at the first range that lies above.
-/

namespace Drift.Unicode

/-- A **set of characters**, as ranges of code points with both ends included, in ascending
order. -/
abbrev CharSet := List (Nat × Nat)

namespace CharSet

/-- The code point lies in one of the ranges. -/
def containsCode : CharSet → Nat → Bool
  | [], _ => false
  | (first, last) :: rest, n =>
    if n < first then false
    else if n ≤ last then true
    else containsCode rest n

/-- The character lies in the set. -/
def contains (set : CharSet) (c : Char) : Bool := containsCode set c.toNat

end CharSet

end Drift.Unicode
