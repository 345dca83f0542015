import Drift.Bytes
import Drift.Double.Shortest
import Drift.Text.Hex
import Drift.Unicode.Printable

/-!
# Literals

Messages show a value as one would write it down: texts in quotes, bytes marked with a `b`, lists in
brackets.

* `Literal` — the values that messages show.
* `Literal.quote`, `Literal.quoteBytes` — a text or bytes in quotes.
* `Literal.render` — the value as text.
* `Literal.same` — whether two values are equal.
-/

namespace Drift

/-- A value as it appears in a message. -/
inductive Literal where
  | none
  | bool (b : Bool)
  | int (n : Int)
  | float (x : Double)
  | text (s : String)
  | bytes (b : Bytes)
  | list (items : List Literal)
  | dict (pairs : List (Literal × Literal))
  /-- Data that only its producer understands, with the code of its form. -/
  | extension (code : Nat) (data : Bytes)
  /-- A moment, counted from the beginning of the year 1970. -/
  | timestamp (seconds : Int) (nanoseconds : Nat)
  deriving Inhabited

namespace Literal

/-! ## Quoted text -/

/-- The quotes around a text: double ones for a text that holds a single quote and no double one. -/
def quoteFor (hasSingle hasDouble : Bool) : Char :=
  if hasSingle && !hasDouble then '"' else '\''

/-- A character inside the quotes `q`. -/
def quotedChar (q c : Char) : List Char :=
  if c == q || c == '\\' then ['\\', c]
  else if c == '\n' then ['\\', 'n']
  else if c == '\r' then ['\\', 'r']
  else if c == '\t' then ['\\', 't']
  else if Unicode.isPrintable c then [c]
  else if c.toNat < 0x100 then '\\' :: 'x' :: (hex 2 c.toNat).toList
  else if c.toNat < 0x10000 then '\\' :: 'u' :: (hex 4 c.toNat).toList
  else '\\' :: 'U' :: (hex 8 c.toNat).toList

/-- A text in quotes. -/
def quote (s : String) : String :=
  let cs := s.toList
  let q := quoteFor (cs.contains '\'') (cs.contains '"')
  String.ofList (q :: cs.flatMap (quotedChar q) ++ [q])

/-- A byte inside the quotes `q`. -/
def quotedByte (q : Char) (b : UInt8) : List Char :=
  let c := Char.ofNat b.toNat
  if c == q || c == '\\' then ['\\', c]
  else if c == '\n' then ['\\', 'n']
  else if c == '\r' then ['\\', 'r']
  else if c == '\t' then ['\\', 't']
  else if 0x20 ≤ b && b < 0x7F then [c]
  else '\\' :: 'x' :: (hex 2 b.toNat).toList

/-- Bytes in quotes. -/
def quoteBytes (bytes : Bytes) : String :=
  let q := quoteFor (bytes.contains 0x27) (bytes.contains 0x22)
  String.ofList ('b' :: q :: bytes.flatMap (quotedByte q) ++ [q])

/-! ## Numbers and containers -/

/-- Numbers from `10 ^ -4` up to `10 ^ 16` are positional, whole ones end in `.0`, and an exponent
has at least two digits. -/
def floatLayout : Layout where
  least := -4
  bound := 16
  whole := ".0"
  exponentWidth := 2
  undefined := "nan"
  infinite := "inf"

/-- Data that only its producer understands, with the code of its form. -/
def extensionText (code : Nat) (data : Bytes) : String :=
  String.join ["ExtType(code=", toString code, ", data=", quoteBytes data, ")"]

/-- A moment. -/
def momentText (seconds : Int) (nanoseconds : Nat) : String :=
  String.join
    ["Timestamp(seconds=", toString seconds, ", nanoseconds=", toString nanoseconds, ")"]

mutual

/-- The value **as text**. -/
def render : Literal → String
  | none => "None"
  | bool true => "True"
  | bool false => "False"
  | int n => toString n
  | float x => x.text floatLayout
  | text s => quote s
  | bytes b => quoteBytes b
  | list items => "[" ++ ", ".intercalate (renderItems items) ++ "]"
  | dict pairs => "\x7b" ++ ", ".intercalate (renderPairs pairs) ++ "\x7d"
  | extension code data => extensionText code data
  | timestamp seconds nanoseconds => momentText seconds nanoseconds

/-- The items of a list as texts. -/
def renderItems : List Literal → List String
  | [] => []
  | v :: vs => render v :: renderItems vs

/-- The entries of a dictionary as texts. -/
def renderPairs : List (Literal × Literal) → List String
  | [] => []
  | (k, v) :: rest => (render k ++ ": " ++ render v) :: renderPairs rest

end

/-- Named values as texts. -/
def renderFields (fields : List (String × Literal)) : List String :=
  fields.map fun (name, v) => name ++ "=" ++ render v

/-- A value inside a sentence: a text stands for itself, anything else as a literal. -/
def inSentence : Literal → String
  | text s => s
  | v => render v

/-! ## Equality -/

/-- The whole number that the value counts as, if it does; a truth value counts as one or zero. -/
def whole? : Literal → Option Int
  | bool b => some (if b then 1 else 0)
  | int n => some n
  | float x => x.toInt?
  | _ => Option.none

mutual

/-- The values **are equal**: numbers of any kind by what they count, lists item by item, and
dictionaries whatever the order of their entries. -/
def same : Literal → Literal → Bool
  | none, none => true
  | text s, text t => s == t
  | bytes a, bytes b => a == b
  | list vs, list ws => sameItems vs ws
  | dict ps, dict qs => ps.length == qs.length && samePairs ps qs
  | extension code data, extension code' data' => code == code' && data == data'
  | timestamp s n, timestamp s' n' => s == s' && n == n'
  | v, w =>
    match v.whole?, w.whole? with
    | some m, some n => m == n
    | Option.none, Option.none =>
      match v, w with
      | float x, float y => x == y
      | _, _ => false
    | _, _ => false

/-- The items are equal one by one. -/
def sameItems : List Literal → List Literal → Bool
  | [], [] => true
  | v :: vs, w :: ws => same v w && sameItems vs ws
  | _, _ => false

/-- Each entry is among the others. -/
def samePairs : List (Literal × Literal) → List (Literal × Literal) → Bool
  | [], _ => true
  | (k, v) :: rest, others =>
    others.any (fun p => same k p.1 && same v p.2) && samePairs rest others

end

/-- The value never changes, so that it can be looked up: it is no list and no dictionary. -/
def isFixed : Literal → Bool
  | list _ | dict _ => false
  | _ => true

/-! ## Kinds -/

/-- The name of the value's kind. -/
def kind : Literal → String
  | none => "NoneType"
  | bool _ => "bool"
  | int _ => "int"
  | float _ => "float"
  | text _ => "str"
  | bytes _ => "bytes"
  | list _ => "list"
  | dict _ => "dict"
  | extension .. => "ExtType"
  | timestamp .. => "Timestamp"

/-! ## Void values -/

/-- The value says nothing: it is none, false, zero, or without parts. -/
def isVoid : Literal → Bool
  | none => true
  | bool b => !b
  | int n => n == 0
  | float x => x.isZero
  | text s => s.isEmpty
  | bytes b => b.isEmpty
  | list items => items.isEmpty
  | dict pairs => pairs.isEmpty
  | extension .. | timestamp .. => false

end Literal

end Drift
