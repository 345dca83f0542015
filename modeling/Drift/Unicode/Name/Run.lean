/-!
# Runs of names

* `Unicode.NameRun` — the names of consecutive characters that begin alike.
-/

namespace Drift.Unicode

/-- The names of **consecutive characters** that begin alike. -/
structure NameRun where
  /-- The number of the first character. -/
  first : Nat
  /-- The beginning of all names. -/
  beginning : String
  /-- What follows it in each name, with commas between the names. -/
  endings : List String
  deriving DecidableEq, Repr

end Drift.Unicode
