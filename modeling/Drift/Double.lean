/-!
# Double precision numbers

* `Double` — a number of 64 bits: sign, exponent and fraction.
* `Double.ofRatio` — the double nearest to a fraction, ties to the even one.
* `Double.ofDecimal` — the double nearest to `digits · 10 ^ exponent`.
* `Double.ofSingle` — the double equal to a number of 32 bits.
* `Double.magnitude` — a finite double as `mantissa · 2 ^ exponent`.
* `Double.addOne` — counting on by one.
-/

namespace Drift

/-- A number in **double precision**, by its bits. -/
structure Double where
  bits : UInt64
  deriving DecidableEq, Repr

namespace Double

/-! ## Parts -/

/-- The sign bit is set. -/
def isNegative (x : Double) : Bool := x.bits.toNat >>> 63 == 1

/-- The biased exponent. -/
def exponentField (x : Double) : Nat := (x.bits.toNat >>> 52) % 2048

/-- The fraction bits. -/
def fraction (x : Double) : Nat := x.bits.toNat % (1 <<< 52)

/-- The number is neither infinite nor undefined. -/
def isFinite (x : Double) : Bool := x.exponentField < 2047

/-- The number is zero, of either sign. -/
def isZero (x : Double) : Bool := x.exponentField == 0 && x.fraction == 0

/-- The number is undefined. -/
def isNaN (x : Double) : Bool := x.exponentField == 2047 && x.fraction != 0

/-- A finite double is `mantissa · 2 ^ exponent`, up to its sign. -/
def magnitude (x : Double) : Nat × Int :=
  if x.exponentField == 0 then (x.fraction, -1074)
  else ((1 <<< 52) + x.fraction, (x.exponentField : Int) - 1075)

/-- The bits of a magnitude, with a sign. -/
def ofBits (negative : Bool) (bits : Nat) : Double :=
  ⟨UInt64.ofNat (if negative then bits + (1 <<< 63) else bits)⟩

/-- The infinite number of a sign. -/
def infinity (negative : Bool) : Double := ofBits negative (2047 <<< 52)

/-- The undefined number. -/
def nan : Double := ofBits false ((2047 <<< 52) + (1 <<< 51))

/-- One. -/
def one : Double := ofBits false (1023 <<< 52)

/-! ## Rounding -/

/-- The whole number nearest to `num / den`; a tie goes to the even one. -/
def roundHalfEven (num den : Nat) : Nat :=
  let whole := num / den
  let twice := 2 * (num % den)
  if twice < den then whole
  else if den < twice then whole + 1
  else whole + whole % 2

/-- `num / den` in units of `2 ^ exponent`, rounded. -/
def inUnits (num den : Nat) (exponent : Int) : Nat :=
  if exponent < 0 then roundHalfEven (num <<< exponent.natAbs) den
  else roundHalfEven num (den <<< exponent.natAbs)

/-- The exponent of the leading bit of `num / den`. -/
def leadingBit (num den : Nat) : Int :=
  let guess : Int := (num.log2 : Int) - den.log2
  let below :=
    if guess < 0 then num <<< guess.natAbs < den else num < den <<< guess.natAbs
  if below then guess - 1 else guess

/-- The **nearest double** to a fraction; ties go to the even one, and what lies beyond the greatest
double by half a unit or more is infinite. -/
def ofRatio (negative : Bool) (num den : Nat) : Double :=
  if num == 0 then ofBits negative 0
  else
    let exponent := max (leadingBit num den - 52) (-1074)
    let bits := ((exponent + 1074).toNat <<< 52) + inUnits num den exponent
    if 2047 <<< 52 ≤ bits then infinity negative else ofBits negative bits

/-- The nearest double to `digits · 10 ^ exponent`. Exponents that are out of any double's reach
are answered without computing the power. -/
def ofDecimal (negative : Bool) (digits : Nat) (exponent : Int) : Double :=
  if digits == 0 then ofBits negative 0
  else
    let length : Int := (Nat.toDigits 10 digits).length
    if 310 < length + exponent then infinity negative
    else if length + exponent < -330 then ofBits negative 0
    else if exponent < 0 then ofRatio negative digits (Nat.pow 10 exponent.natAbs)
    else ofRatio negative (digits * Nat.pow 10 exponent.natAbs) 1

/-- The double equal to a number in single precision. -/
def ofSingle (bits : UInt32) : Double :=
  let n := bits.toNat
  let negative := n >>> 31 == 1
  let field := (n >>> 23) % 256
  let fraction := n % (1 <<< 23)
  if field == 255 then
    if fraction == 0 then infinity negative
    else ofBits negative ((2047 <<< 52) + (fraction <<< 29))
  else if field == 0 then ofRatio negative fraction (1 <<< 149)
  else ofRatio negative (((1 <<< 23) + fraction) <<< field) (1 <<< 150)

/-! ## Counting -/

/-- The nearest double to **one more**. -/
def addOne (x : Double) : Double :=
  if !x.isFinite then x
  else
    let (mantissa, exponent) := x.magnitude
    let den : Nat := if exponent < 0 then 1 <<< exponent.natAbs else 1
    let whole : Int := if exponent < 0 then mantissa else (mantissa <<< exponent.natAbs : Nat)
    let num := (if x.isNegative then -whole else whole) + den
    ofRatio (num < 0) num.natAbs den

/-! ## Whole numbers -/

/-- The whole number that the double equals, if there is one. -/
def toInt? (x : Double) : Option Int :=
  if !x.isFinite then none
  else
    let (mantissa, exponent) := x.magnitude
    let sign : Int := if x.isNegative then -1 else 1
    if 0 ≤ exponent then some (sign * (mantissa <<< exponent.toNat : Nat))
    else if mantissa % (1 <<< exponent.natAbs) == 0 then
      some (sign * (mantissa >>> exponent.natAbs : Nat))
    else none

end Double

end Drift
