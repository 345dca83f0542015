import Drift.Double
import Drift.Json.Text

/-!
# JSON values

* `Json.Value` — a JSON document; whole numbers and numbers with a fraction or an exponent are kept
  apart, and an object keeps its keys in the order of their first appearance.
-/

namespace Drift.Json

/-- A **JSON value**. -/
inductive Value where
  | null
  | bool (b : Bool)
  | int (n : Int)
  | float (x : Double)
  | text (t : Text)
  | list (items : List Value)
  | object (members : List (Text × Value))
  deriving Inhabited

/-- The members of an object. -/
abbrev Members := List (Text × Value)

end Drift.Json
