import Drift.Failure

/-!
# Points

What describes a place may hold numbers of any kind, or no numbers at all.

* `Point` — a row and a column that have been found to be numbers, and not negative ones.
* `Point.ofLiteral` — the point that a value of two parts describes.
* `Point.line` — the line number, counted from one.
-/

namespace Drift

/-- A **row and a column**, both numbers of any kind that are not negative. -/
structure Point where
  row : Literal
  column : Literal

namespace Point

/-- The parts of a value that can be taken apart: the items of a list, the characters of a text, the
keys of a dictionary. -/
def parts? : Literal → Option (List Literal)
  | .list items => some items
  | .text s => some (s.toList.map fun c => .text c.toString)
  | .bytes b => some (b.map fun byte => .int byte.toNat)
  | .dict pairs => some (pairs.map (·.1))
  | .extension code data => some [.int code, .bytes data]
  | _ => none

/-- A number is negative; what is no number is neither negative nor not. -/
def isNegative? : Literal → Option Bool
  | .bool _ => some false
  | .int n => some (n < 0)
  | .float x => some (x.isNegative && !x.isZero && !x.isNaN)
  | _ => none

/-- The point of a row and a column. A negative row is found before the column is looked at. -/
def ofCoordinates (row column : Literal) : Except Fault Point :=
  let refused : Fault := .point (.negative row.inSentence column.inSentence)
  match isNegative? row with
  | none => .error .wrongForm
  | some true => .error refused
  | some false =>
    match isNegative? column with
    | none => .error .wrongForm
    | some true => .error refused
    | some false => .ok ⟨row, column⟩

/-- The **point of a value** with exactly two parts. -/
def ofLiteral (v : Literal) : Except Fault Point :=
  match parts? v with
  | none => .error .wrongForm
  | some [row, column] => ofCoordinates row column
  | some [] => .error (.point (.tooFew 0))
  | some [_] => .error (.point (.tooFew 1))
  | some _ => .error (.point .tooMany)

/-- The **line number**, counted from one. -/
def line (p : Point) : Literal :=
  match p.row with
  | .bool b => .int (if b then 2 else 1)
  | .int n => .int (n + 1)
  | .float x => .float x.addOne
  | v => v

/-- A position is a point. -/
def ofPosition (p : Position) : Point := ⟨.int p.row, .int p.column⟩

@[simp] theorem isNegative?_int (n : Int) : isNegative? (.int n) = some (decide (n < 0)) := rfl

theorem ofCoordinates_int (row column : Int) :
    ofCoordinates (.int row) (.int column) =
      ((Position.ofCoordinates row column).map ofPosition).mapError .point := by
  simp only [ofCoordinates, isNegative?_int, Position.ofCoordinates]
  by_cases hr : row < 0
  · rw [decide_eq_true hr, if_pos (.inl hr)]
    rfl
  · by_cases hc : column < 0
    · rw [decide_eq_false hr, decide_eq_true hc, if_pos (.inr hc)]
      rfl
    · rw [decide_eq_false hr, decide_eq_false hc, if_neg fun h => h.elim hr hc]
      show Except.ok _ = Except.ok (ofPosition ⟨row.toNat, column.toNat⟩)
      rw [ofPosition, Int.toNat_of_nonneg (Int.not_lt.1 hr), Int.toNat_of_nonneg (Int.not_lt.1 hc)]

/-- Among **lists of whole numbers** the points are the positions. -/
theorem ofLiteral_ints (ns : List Int) :
    ofLiteral (.list (ns.map .int)) =
      ((Position.ofPoint ns).map ofPosition).mapError .point := by
  match ns with
  | [] => rfl
  | [_] => rfl
  | [row, column] => exact ofCoordinates_int row column
  | _ :: _ :: _ :: _ => rfl

end Point

end Drift
