import Drift.Text.Hex

/-!
# Texts with halves of surrogate pairs

The escapes of a JSON string can spell half of a surrogate pair alone, which is no character.

* `Json.Text` — a text of characters, or one with such halves among its code points.
* `Json.Text.ofPoints`, `Json.Text.points` — the text of code points, and back.
* `Json.Text.precedes` — the order of texts by code points.
* `Json.Text.shown` — the text with its halves written as escapes.
* `Json.Text.refused?`, `Json.Text.unprintable?` — the first halves that the name of a file cannot
  hold, and the first that cannot be printed.
-/

namespace Drift.Json

/-- A code point is half of a surrogate pair. -/
def isHalf (point : Nat) : Bool := 0xD800 ≤ point && point < 0xE000

/-- The **text of a JSON string**. -/
inductive Text where
  /-- Characters only. -/
  | plain (s : String)
  /-- Code points, with halves of surrogate pairs that stand alone among them. -/
  | broken (points : List Nat)
  deriving DecidableEq, Repr, Inhabited

instance : Coe String Text := ⟨.plain⟩

namespace Text

/-- The text of code points. -/
def ofPoints (points : List Nat) : Text :=
  if points.any isHalf then broken points else plain (String.ofList (points.map Char.ofNat))

/-- The code points of a text. -/
def points : Text → List Nat
  | plain s => s.toList.map Char.toNat
  | broken points => points

/-- The first code points come no later than the second. -/
def pointsPrecede : List Nat → List Nat → Bool
  | [], _ => true
  | _, [] => false
  | m :: ms, n :: ns => m < n || m == n && pointsPrecede ms ns

/-- The first text comes no later than the second, by code points. -/
def precedes : Text → Text → Bool
  | plain s, plain t => decide (s ≤ t)
  | s, t => pointsPrecede s.points t.points

/-- A code point as it is shown: half of a surrogate pair as an escape. -/
def shownPoint (point : Nat) : List Char :=
  if isHalf point then '\\' :: 'u' :: (hex 4 point).toList else [Char.ofNat point]

/-- The text with its halves of surrogate pairs **written as escapes**. -/
def shown : Text → String
  | plain s => s
  | broken points => String.ofList (points.flatMap shownPoint)

/-- The string of a text, if it is one. -/
def string? : Text → Option String
  | plain s => some s
  | broken _ => none

/-! ## Names of files -/

/-- A half that stands for a byte in the name of a file. -/
def isByte (point : Nat) : Bool := 0xDC80 ≤ point && point < 0xDD00

/-- Halves of surrogate pairs next to each other: the code points before them, the first of them,
and how many they are. -/
structure Run where
  before : List Nat
  first : Nat
  length : Nat

/-- The halves from the first one of some kind on, behind the code points already seen. -/
def runFrom (kind : Nat → Bool) (seen : List Nat) : List Nat → Option Run
  | [] => none
  | point :: rest =>
    if kind point then some ⟨seen.reverse, point, 1 + (rest.takeWhile isHalf).length⟩
    else runFrom kind (point :: seen) rest

/-- The first halves that **a file's name cannot hold**: some of them stand for no byte. -/
def refused? : Text → Option Run
  | plain _ => none
  | broken points => runFrom (fun point => isHalf point && !isByte point) [] points

/-- The first halves, none of which **can be printed**. -/
def unprintable? : Text → Option Run
  | plain _ => none
  | broken points => runFrom isHalf [] points

end Text

end Drift.Json
