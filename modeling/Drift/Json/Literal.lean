import Drift.Json.Value
import Drift.Literal

/-!
# Literals as JSON

* `Json.ofLiteral?` — a literal as a JSON value, if there is one. Bytes and moments are written as
  texts, and an extension as the list of its code and its data; a dictionary has to have texts for
  keys.
-/

namespace Drift.Json

mutual

/-- The literal **as a JSON value**. -/
def ofLiteral? : Literal → Option Value
  | .none => some .null
  | .bool b => some (.bool b)
  | .int n => some (.int n)
  | .float x => some (.float x)
  | .text s => some (.text s)
  | .bytes b => some (.text (Literal.quoteBytes b))
  | .list items => (ofItems? items).map .list
  | .dict pairs => (ofPairs? pairs).map .object
  | .extension code data => some (.list [.int code, .text (Literal.quoteBytes data)])
  | .timestamp seconds nanoseconds => some (.text (Literal.timestamp seconds nanoseconds).render)

/-- The items of a list. -/
def ofItems? : List Literal → Option (List Value)
  | [] => some []
  | v :: vs => do
    let first ← ofLiteral? v
    let rest ← ofItems? vs
    return first :: rest

/-- The entries of a dictionary. -/
def ofPairs? : List (Literal × Literal) → Option Members
  | [] => some []
  | (.text key, v) :: rest => do
    let first ← ofLiteral? v
    let others ← ofPairs? rest
    return (key, first) :: others
  | _ => none

end

end Drift.Json
