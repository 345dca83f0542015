import Drift.Literal

/-!
# MessagePack values

* `MessagePack.Value` — what a message holds.
* `Value.literal` — the value as messages show it; `Value.ofLiteral` is the way back.
-/

namespace Drift.MessagePack

/-- A **value of a message**. A map keeps its pairs as they were read. -/
inductive Value where
  | nil
  | bool (b : Bool)
  | int (n : Int)
  | float (x : Double)
  | text (s : String)
  | binary (b : Bytes)
  | array (items : List Value)
  | map (pairs : List (Value × Value))
  | extension (code : Nat) (data : Bytes)
  | timestamp (seconds : Int) (nanoseconds : Nat)

namespace Value

/-- The parts of a value that counts as a sequence: the items of an array, and the code and the data
of an extension. -/
def parts? : Value → Option (List Value)
  | array items => some items
  | extension code data => some [int code, binary data]
  | _ => none

/-- The value is the number one: the whole number, `true`, or the float. -/
def isOne : Value → Bool
  | int n => n == 1
  | bool b => b
  | float x => x == Double.one
  | _ => false

/-! ## As literals -/

/-- Two keys are the same text or the same bytes. -/
def sameKey : Value → Value → Bool
  | text s, text t => s == t
  | binary a, binary b => a == b
  | _, _ => false

/-- Sets a key: a pair that is there is replaced in its place, a new one comes last. -/
def putPair {α : Type} (key : Value) (v : α) : List (Value × α) → List (Value × α)
  | [] => [(key, v)]
  | (k, w) :: rest =>
    if sameKey k key then (k, v) :: rest else (k, w) :: putPair key v rest

/-- A key of a map as a literal. -/
def keyLiteral : Value → Literal
  | text s => .text s
  | binary b => .bytes b
  | _ => .none

mutual

/-- The value as **messages show it**; of equal keys of a map the last one counts. -/
def literal : Value → Literal
  | nil => .none
  | bool b => .bool b
  | int n => .int n
  | float x => .float x
  | text s => .text s
  | binary b => .bytes b
  | array items => .list (literals items)
  | map pairs => .dict ((literalPairs [] pairs).map fun p => (keyLiteral p.1, p.2))
  | extension code data => .extension code data
  | timestamp seconds nanoseconds => .timestamp seconds nanoseconds

/-- The items of an array as literals. -/
def literals : List Value → List Literal
  | [] => []
  | v :: vs => literal v :: literals vs

/-- The pairs of a map, onto those before them. -/
def literalPairs (done : List (Value × Literal)) :
    List (Value × Value) → List (Value × Literal)
  | [] => done
  | (key, v) :: rest => literalPairs (putPair key (literal v) done) rest

end

mutual

/-- The value of a literal. -/
def ofLiteral : Literal → Value
  | .none => nil
  | .bool b => bool b
  | .int n => int n
  | .float x => float x
  | .text s => text s
  | .bytes b => binary b
  | .list items => array (ofLiterals items)
  | .dict pairs => map (ofPairs pairs)
  | .extension code data => extension code data
  | .timestamp seconds nanoseconds => timestamp seconds nanoseconds

/-- The values of the items of a list. -/
def ofLiterals : List Literal → List Value
  | [] => []
  | v :: vs => ofLiteral v :: ofLiterals vs

/-- The values of the entries of a dictionary. -/
def ofPairs : List (Literal × Literal) → List (Value × Value)
  | [] => []
  | (key, v) :: rest => (ofLiteral key, ofLiteral v) :: ofPairs rest

end

end Value

end Drift.MessagePack
