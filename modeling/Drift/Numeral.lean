import Drift.Unicode.Blank

/-!
# Whole numbers as they are typed

* `Numeral.toInt` — the whole number that a text spells: blanks around it, one sign, zeros in front,
  single underscores between digits and a fraction of zeros are allowed.
* `Numeral.Fault` — the text spells no number, or begins with too many digits to be read.
-/

namespace Drift.Numeral

/-- Why a text spells no number. -/
inductive Fault where
  | malformed
  | tooLong
  deriving DecidableEq, Repr

/-- The greatest count of digits that are read. -/
def digitLimit : Nat := 4300

/-! ## Blanks, signs and zeros -/

/-- A blank that may stand around a number; the information separators may not. -/
def isSpace (c : Char) : Bool := Unicode.isBlank c && !('\x1c' ≤ c && c ≤ '\x1f')

/-- The text without the blanks around it. -/
def trim (s : List Char) : List Char :=
  ((s.dropWhile isSpace).reverse.dropWhile isSpace).reverse

/-- A digit other than zero. -/
def isSignificant (c : Char) : Bool := c.isDigit && c != '0'

/-- Leaves out zeros and underscores up to a significant digit or a minus sign. When nothing else
follows, or a point does, the last of them stays. -/
def skipZeros (last : Char) : List Char → Option (List Char)
  | [] => some [last]
  | c :: rest =>
    if c == '0' || c == '_' then skipZeros c rest
    else if c == '.' then some (last :: c :: rest)
    else if isSignificant c || c == '-' then some (c :: rest)
    else none

/-- A text that begins with a digit, without zeros in front. -/
def significant : List Char → Option (List Char)
  | [] => none
  | c :: rest =>
    if c == '0' then skipZeros c rest else if c.isDigit then some (c :: rest) else none

/-- The text without a plus sign and without zeros in front; a minus sign stays. -/
def unsigned : List Char → Option (List Char)
  | '-' :: rest => (significant rest).map ('-' :: ·)
  | '+' :: rest => significant rest
  | s => significant s

/-- The text without a fraction of zeros. -/
def whole (s : List Char) : List Char :=
  match s.dropWhile (· != '.') with
  | '.' :: zeros =>
    if !zeros.isEmpty && zeros.all (· == '0') then s.takeWhile (· != '.') else s
  | _ => s

/-- The text without its underscores, if each of them stands alone between two characters. -/
def joined (s : List Char) : List Char :=
  let groups := s.splitOn '_'
  if groups.all (!·.isEmpty) then groups.flatten else s

/-! ## Digits -/

/-- The number that digits spell. -/
def ofDigits (digits : List Char) : Nat :=
  digits.foldl (fun n c => 10 * n + (c.toNat - '0'.toNat)) 0

/-- Digits without zeros in front, and not too many of them. -/
def isPlain : List Char → Bool
  | [] => false
  | ['0'] => true
  | c :: rest => isSignificant c && rest.all (·.isDigit) && rest.length < digitLimit

/-- The number that a sign and digits spell. -/
def ofPlain? : List Char → Option Int
  | '-' :: digits => if isPlain digits then some (-(ofDigits digits : Int)) else none
  | digits => if isPlain digits then some (ofDigits digits) else none

/-- The whole number that a text without blanks around it spells. -/
def ofTrimmed? (s : List Char) : Option Int :=
  (unsigned s).bind fun rest => ofPlain? (joined (whole rest))

/-- The text begins with more digits than are read. Zeros and blanks in front hide them. -/
def isOversized (s : List Char) : Bool :=
  let digits := match s with
    | '-' :: rest => rest
    | s => s
  digits.head?.any isSignificant && digitLimit < (digits.takeWhile (·.isDigit)).length

/-- The **whole number that a text spells**. -/
def toInt (s : String) : Except Fault Int :=
  if isOversized s.toList then .error .tooLong
  else match ofTrimmed? (trim s.toList) with
    | some n => .ok n
    | none => .error .malformed

end Drift.Numeral
