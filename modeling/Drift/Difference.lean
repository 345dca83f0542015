/-!
# Differences

Lists, such as those of regions, are compared as multisets: an occurrence on one side cancels one
equal occurrence on the other, and nothing else does.

* `Difference.between old new` — what was removed, in the order of `old`, and what was added, in the
  order of `new`. Of equal regions the first occurrences are the ones that cancel.
* `common old new` — what both have, in the order of `old`.
-/

namespace Drift

variable {α : Type}

/-- What a list lost and gained. -/
structure Difference (α : Type) where
  removed : List α
  added : List α
  deriving DecidableEq, Repr

/-- The items of a list that find no match in a stock, behind those already left over. A match is used
up. -/
def unmatchedOnto [BEq α] (stock left : List α) : List α → List α
  | [] => left.reverse
  | a :: rest =>
    if stock.contains a then unmatchedOnto (stock.erase a) left rest
    else unmatchedOnto stock (a :: left) rest

/-- The items of a list that find no match in the stock. -/
def unmatched [BEq α] (items stock : List α) : List α := unmatchedOnto stock [] items

/-- The items of a list that find a match in a stock, behind those already matched. A match is used
up. -/
def commonOnto [BEq α] (stock matched : List α) : List α → List α
  | [] => matched.reverse
  | a :: rest =>
    if stock.contains a then commonOnto (stock.erase a) (a :: matched) rest
    else commonOnto stock matched rest

/-- The items of a list that find a match in the stock. -/
def common [BEq α] (items stock : List α) : List α := commonOnto stock [] items

namespace Difference

/-- What lies **between an old and a new list**. -/
def between [BEq α] (old new : List α) : Difference α where
  removed := unmatched old new
  added := unmatched new old

/-- Something was removed or added. -/
def hasChanges (d : Difference α) : Bool := !d.removed.isEmpty || !d.added.isEmpty

end Difference

end Drift
