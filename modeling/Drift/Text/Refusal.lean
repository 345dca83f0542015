/-!
# Refused runs

* `Refusal` — the first run of characters or bytes that cannot be changed into the other.
-/

namespace Drift

/-- The **first run that is refused**: where it begins, how long it is and why. -/
structure Refusal where
  offset : Nat
  length : Nat
  reason : String
  deriving DecidableEq, Repr

end Drift
