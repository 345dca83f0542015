import Drift.Double

/-!
# The shortest decimal of a double

* `Double.shortest` — the fewest digits that read back as the same double, and of those the nearest
  to it; a tie goes to the even digit.
* `Layout` — how digits and exponent are laid out: from where to where positionally, and the
  exponent's form elsewhere.
* `Double.text` — the text of a double in a layout.
-/

namespace Drift

namespace Double

/-! ## Digits -/

/-- The doubles' rounding interval around `4 · mantissa`, in quarters of the unit: its ends, and
whether they belong to it. At a power of two the unit below is half as large. -/
def interval (x : Double) : Nat × Nat × Bool :=
  let (mantissa, _) := x.magnitude
  let below := if x.fraction == 0 && 1 < x.exponentField then 1 else 2
  (4 * mantissa - below, 4 * mantissa + 2, mantissa % 2 == 0)

/-- The largest `e` with `10 ^ e ≤ num / den`. -/
def leadingDigit (num den : Nat) : Int :=
  if den ≤ num then ((Nat.toDigits 10 (num / den)).length : Int) - 1
  else
    let digits := (Nat.toDigits 10 (den / num)).length
    if den ≤ Nat.pow 10 (digits - 1) * num then -((digits - 1 : Nat) : Int) else -(digits : Int)

/-- The better of the two neighbours of `value / den` on the grid of `step / den`, among those for
which `inside` holds. -/
def onGrid (value step : Nat) (inside : Nat → Bool) : Option Nat :=
  let low := value / step
  let high := low + 1
  match inside low, inside high with
  | false, false => none
  | true, false => some low
  | false, true => some high
  | true, true =>
    let twice := 2 * (value % step)
    if twice < step || (twice == step && low % 2 == 0) then some low else some high

/-- Searches the grids of `count`, `count + 1`, … digits. -/
def firstGrid (num den : Nat) (inside : Nat → Int → Bool) (lead : Int) :
    (fuel count : Nat) → Nat × Int
  | 0, _ => (num / den, 0)
  | fuel + 1, count =>
    let exponent := lead - ((count : Int) - 1)
    let found :=
      if exponent < 0 then onGrid (num * Nat.pow 10 exponent.natAbs) den (inside · exponent)
      else onGrid num (den * Nat.pow 10 exponent.natAbs) (inside · exponent)
    match found with
    | some digits => (digits, exponent)
    | none => firstGrid num den inside lead fuel (count + 1)

/-- The **shortest decimal** `digits · 10 ^ exponent` of a finite double other than zero. -/
def shortest (x : Double) : Nat × Int :=
  let (mantissa, exponent) := x.magnitude
  let (low, high, closed) := x.interval
  let (scale, den) :=
    if 2 ≤ exponent then (1 <<< (exponent - 2).toNat, 1) else (1, 1 <<< (2 - exponent).toNat)
  let num := 4 * mantissa * scale
  let inside (digits : Nat) (e : Int) : Bool :=
    let value := if e < 0 then digits * den else digits * den * Nat.pow 10 e.natAbs
    let factor := if e < 0 then scale * Nat.pow 10 e.natAbs else scale
    if closed then low * factor ≤ value && value ≤ high * factor
    else low * factor < value && value < high * factor
  firstGrid num den inside (leadingDigit num den) 17 1

end Double

/-! ## Layout -/

/-- How a decimal is written. -/
structure Layout where
  /-- The least exponent of the first digit that is written positionally. -/
  least : Int
  /-- The exponent of the first digit from which an exponent is written. -/
  bound : Int
  /-- What follows a whole number written positionally. -/
  whole : String
  /-- The fewest digits of an exponent. -/
  exponentWidth : Nat
  /-- The undefined and the infinite number. -/
  undefined : String
  infinite : String

namespace Double

/-- Digits without the zeros at their end, and the count of those. -/
def trim (digits : List Char) : List Char := (digits.reverse.dropWhile (· == '0')).reverse

/-- The decimal `0.digits · 10 ^ point`, positionally. -/
def positional (layout : Layout) (digits : List Char) (point : Int) : String :=
  if point ≤ 0 then
    "0." ++ String.ofList (List.replicate point.natAbs '0' ++ digits)
  else if digits.length ≤ point.toNat then
    String.ofList (digits ++ List.replicate (point.toNat - digits.length) '0') ++ layout.whole
  else
    String.ofList (digits.take point.toNat ++ '.' :: digits.drop point.toNat)

/-- The decimal `0.digits · 10 ^ point`, with an exponent. -/
def scientific (layout : Layout) (digits : List Char) (point : Int) : String :=
  let exponent := point - 1
  let mark := if exponent < 0 then "e-" else "e+"
  let size := String.ofList
    ((Nat.toDigits 10 exponent.natAbs).leftpad layout.exponentWidth '0')
  let tail := if 1 < digits.length then '.' :: digits.drop 1 else []
  String.ofList (digits.take 1 ++ tail) ++ mark ++ size

/-- The **text of a double**: the fewest digits that read back, in the given layout. -/
def text (layout : Layout) (x : Double) : String :=
  if x.isNaN then layout.undefined
  else
    let sign := if x.isNegative then "-" else ""
    if !x.isFinite then sign ++ layout.infinite
    else if x.magnitude.1 == 0 then sign ++ "0" ++ layout.whole
    else
      let (digits, exponent) := x.shortest
      let chars := Nat.toDigits 10 digits
      let point := exponent + chars.length
      let body :=
        if layout.least ≤ point - 1 && point - 1 < layout.bound then
          positional layout (trim chars) point
        else scientific layout (trim chars) point
      sign ++ body

end Double

end Drift
