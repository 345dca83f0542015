import Drift.Failure
import Drift.Settings
import Drift.Unicode.Digit

/-!
# The screen

* `Terminal.numberOf` — the whole number that digits of any script spell.
* `Terminal.columns` — how many characters fit on a line of the screen, by the environment.
-/

namespace Drift.Terminal

/-- The width of a screen of which nothing is known. -/
def usualColumns : Nat := 80

/-- The **whole number that digits spell**. What begins with too many of them is not read on. -/
def numberOf (text : String) : Except Fault Nat :=
  let digits := text.toList.map Unicode.decimal?
  let leading := (digits.takeWhile Option.isSome).length
  if Json.digitLimit < leading then .error (.json [] (.tooManyDigits leading))
  else if leading < digits.length then .error (.noNumeral text)
  else .ok (digits.foldl (fun n d => 10 * n + d.getD 0) 0)

/-- The number that a variable gives, if it consists of digits. -/
def measureOf (env : Settings.Environment) (name : String) : Except Fault (Option Nat) :=
  match Keyed.get? env.vars name with
  | none => .ok none
  | some text =>
    if !text.isEmpty && text.toList.all Unicode.isDigit then (numberOf text).map some else .ok none

/-- The **width of the screen**. Its height is looked at too, though nothing depends on it. -/
def columns (env : Settings.Environment) : Except Fault Nat := do
  let width ← measureOf env "COLUMNS"
  discard (measureOf env "LINES")
  return match width with
    | none | some 0 => usualColumns
    | some width => width

end Drift.Terminal
