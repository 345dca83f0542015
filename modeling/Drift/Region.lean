import Drift.Json.Value

/-!
# Annotated regions

* `Position` — a row and a column, both counted from zero; `Position.ofPoint` accepts a pair of
  non-negative numbers only.
* `Region` — a span of code that a control comment marks: where it is, the exact text of the comment
  and of the code. Two regions are equal when all five parts are.
* `Region.record` — the region as a JSON object.
-/

namespace Drift

/-! ## Positions -/

/-- A place in a file, **row and column** counted from zero. -/
structure Position where
  row : Nat
  column : Nat
  deriving DecidableEq, Repr, Inhabited

/-- Why a point is no position. -/
inductive PointFault where
  /-- It has this many coordinates, fewer than two. -/
  | tooFew (count : Nat)
  /-- It has more than two coordinates. -/
  | tooMany
  /-- One of its coordinates, which are written like this, is negative. -/
  | negative (row column : String)
  deriving DecidableEq, Repr

namespace PointFault

/-- The words for a fault. -/
def message : PointFault → String
  | tooFew count =>
    String.join ["not enough values to unpack (expected 2, got ", toString count, ")"]
  | tooMany => "too many values to unpack (expected 2)"
  | negative row column =>
    String.join ["Position must be non-negative, got (", row, ", ", column, ")"]

end PointFault

namespace Position

/-- The position of a row and a column that are not negative. -/
def ofCoordinates (row column : Int) : Except PointFault Position :=
  if row < 0 ∨ column < 0 then .error (.negative (toString row) (toString column))
  else .ok ⟨row.toNat, column.toNat⟩

/-- The position of a point with exactly two coordinates. -/
def ofPoint : List Int → Except PointFault Position
  | [row, column] => ofCoordinates row column
  | [] => .error (.tooFew 0)
  | [_] => .error (.tooFew 1)
  | _ => .error .tooMany

/-- The line number, counted from one. -/
def line (p : Position) : Nat := p.row + 1

theorem ofCoordinates_eq_ok_iff {row column : Int} {p : Position} :
    ofCoordinates row column = .ok p ↔ row = p.row ∧ column = p.column := by
  unfold ofCoordinates
  obtain ⟨r, c⟩ := p
  split
  · simp only [reduceCtorEq, false_iff, not_and]
    omega
  · simp only [Except.ok.injEq, mk.injEq]
    omega

end Position

/-! ## Regions -/

/-- A span of code **marked by a control comment**. -/
structure Region where
  /-- The file. -/
  path : String
  /-- The exact text of the comment. -/
  comment : String
  /-- The exact text of the code. -/
  content : String
  /-- Where the code begins and ends. -/
  start : Position
  stop : Position
  deriving DecidableEq, Repr, Inhabited

namespace Region

/-- The first and the last line, counted from one. -/
def lineRange (r : Region) : Nat × Nat := (r.start.line, r.stop.line)

/-- A position as a JSON object. -/
def positionRecord (p : Position) : Json.Value :=
  .object [("row", .int p.row), ("column", .int p.column)]

/-- The region as a JSON object. -/
def record (r : Region) : Json.Value :=
  .object
    [("path", .text r.path), ("annotation", .text r.comment), ("content", .text r.content),
     ("start", positionRecord r.start), ("end", positionRecord r.stop)]

end Region

end Drift
