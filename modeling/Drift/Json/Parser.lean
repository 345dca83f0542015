import Drift.Json.Value
import Drift.Keyed

/-!
# Reading JSON

* `Json.parse` — the value that a text holds. Blanks may stand around every token; the names `NaN`,
  `Infinity` and `-Infinity` are numbers; of equal keys the last one counts.
* `Json.Fault` — the text is no JSON, or holds a whole number of more digits than are read.
* `Json.Fault.message` — the words for a fault, with the line and the column where it lies.
-/

namespace Drift.Json

/-! ## Faults -/

/-- What is **wrong with a text** that is no JSON document. -/
inductive Flaw where
  /-- No value begins here. -/
  | noValue
  /-- No key begins here. -/
  | noKey
  /-- No colon stands behind a key. -/
  | noColon
  /-- Neither a comma nor the end of the list or object stands behind an item. -/
  | noComma
  /-- The string that begins here has no end. -/
  | unclosed
  /-- A control character stands in a string. -/
  | control
  /-- The letter behind a backslash is no escape. -/
  | escape
  /-- Four hexadecimal digits are missing. -/
  | unit
  /-- Something follows the document. -/
  | surplus
  /-- The text begins with a byte order mark. -/
  | mark
  deriving DecidableEq, Repr

/-- The words for a flaw. -/
def Flaw.text : Flaw → String
  | noValue => "Expecting value"
  | noKey => "Expecting property name enclosed in double quotes"
  | noColon => "Expecting ':' delimiter"
  | noComma => "Expecting ',' delimiter"
  | unclosed => "Unterminated string starting at"
  | control => "Invalid control character at"
  | escape => "Invalid \\escape"
  | unit => "Invalid \\uXXXX escape"
  | surplus => "Extra data"
  | mark => "Unexpected UTF-8 BOM (decode using utf-8-sig)"

/-- Why a text is not read. -/
inductive Fault where
  /-- The text is no JSON document; the flaw has this many characters of the text from it on. -/
  | malformed (flaw : Flaw) (left : Nat)
  /-- A whole number has this many digits, which is more than `digitLimit`. -/
  | tooManyDigits (count : Nat)
  deriving DecidableEq, Repr

/-- The greatest count of digits of a whole number. -/
def digitLimit : Nat := 4300

/-- A place behind some characters: its line and its column, counted from one, and its offset. -/
def place (before : List Char) : String :=
  let line := before.count '\n' + 1
  let column := (before.reverse.takeWhile (· != '\n')).length + 1
  String.join
    ["line ", toString line, " column ", toString column, " (char ", toString before.length, ")"]

/-- The words for a fault of a text. -/
def Fault.message (text : List Char) : Fault → String
  | malformed flaw left =>
    String.join [flaw.text, ": ", place (text.take (text.length - left))]
  | tooManyDigits count =>
    String.join
      ["Exceeds the limit (4300 digits) for integer string conversion: value has ",
       toString count, " digits; use sys.set_int_max_str_digits() to increase the limit"]

/-- The flaw lies at the beginning of what is left. -/
def refuse {α : Type} (flaw : Flaw) (left : List Char) : Except Fault α :=
  .error (.malformed flaw left.length)

/-! ## Blanks and strings -/

/-- The characters that may stand between tokens. -/
def isBlank (c : Char) : Bool := c == ' ' || c == '\t' || c == '\n' || c == '\r'

/-- The text behind its leading blanks. -/
def skip (s : List Char) : List Char := s.dropWhile isBlank

/-- The value of a hexadecimal digit. -/
def hexValue? (c : Char) : Option Nat :=
  if '0' ≤ c && c ≤ '9' then some (c.toNat - 48)
  else if 'a' ≤ c && c ≤ 'f' then some (c.toNat - 87)
  else if 'A' ≤ c && c ≤ 'F' then some (c.toNat - 55)
  else none

/-- The unit that the next four hexadecimal digits spell, and what follows; digits at the very end
of the text, where no string can end, do not count. -/
def unit? : List Char → Option (Nat × List Char)
  | a :: b :: c :: d :: next :: rest => do
    let a ← hexValue? a
    let b ← hexValue? b
    let c ← hexValue? c
    let d ← hexValue? d
    return (a * 4096 + b * 256 + c * 16 + d, next :: rest)
  | _ => none

/-- The low unit of a pair, when an escape of one comes next. An escape at the very end of the text
is left for later. -/
def lowUnit? : List Char → Except Fault (Option (Nat × List Char))
  | '\\' :: 'u' :: a :: b :: c :: d :: next :: rest =>
    match unit? (a :: b :: c :: d :: next :: rest) with
    | none => refuse .unit ('u' :: a :: b :: c :: d :: next :: rest)
    | some (n, after) => .ok (if 0xDC00 ≤ n && n < 0xE000 then some (n, after) else none)
  | _ => .ok none

/-- The character of a one-letter escape. -/
def letterEscape? (c : Char) : Option Char :=
  match c with
  | '"' => some '"'
  | '\\' => some '\\'
  | '/' => some '/'
  | 'b' => some '\x08'
  | 'f' => some '\x0c'
  | 'n' => some '\n'
  | 'r' => some '\r'
  | 't' => some '\t'
  | _ => none

/-- The code point of the escape that follows a backslash, and what follows it. Two escaped units
that form a pair are one character; a unit of a pair that stands alone stays what it is. -/
def escape (opening : List Char) : List Char → Except Fault (Nat × List Char)
  | [] => refuse .unclosed opening
  | 'u' :: rest =>
    match unit? rest with
    | none => refuse .unit ('u' :: rest)
    | some (n, after) =>
      if n < 0xD800 || 0xDC00 ≤ n then .ok (n, after)
      else match lowUnit? after with
        | .error fault => .error fault
        | .ok none => .ok (n, after)
        | .ok (some (m, after)) => .ok (0x10000 + (n - 0xD800) * 1024 + (m - 0xDC00), after)
  | c :: rest =>
    match letterEscape? c with
    | none => refuse .escape ('\\' :: c :: rest)
    | some e => .ok (e.toNat, rest)

theorem length_unit? {s rest : List Char} {n : Nat} (h : unit? s = some (n, rest)) :
    rest.length < s.length := by
  unfold unit? at h
  split at h
  · simp only [Option.pure_def, Option.bind_eq_bind, Option.bind_eq_some_iff, Option.some.injEq,
      Prod.mk.injEq] at h
    obtain ⟨_, _, _, _, _, _, _, _, _, rfl⟩ := h
    simp only [List.length_cons]
    omega
  · cases h

theorem length_lowUnit? {s rest : List Char} {n : Nat} (h : lowUnit? s = .ok (some (n, rest))) :
    rest.length < s.length := by
  unfold lowUnit? at h
  split at h
  · split at h
    · cases h
    · next hu =>
      have := length_unit? hu
      simp only [Except.ok.injEq, Option.ite_none_right_eq_some, Option.some.injEq,
        Prod.mk.injEq] at h
      rw [← h.2.2]
      simp only [List.length_cons] at *
      omega
  · cases h

theorem length_escape {opening s rest : List Char} {point : Nat}
    (h : escape opening s = .ok (point, rest)) : rest.length < s.length := by
  unfold escape at h
  split at h
  · cases h
  · split at h
    · cases h
    · next hu =>
      have hu := length_unit? hu
      simp only [List.length_cons]
      split at h
      · simp only [Except.ok.injEq, Prod.mk.injEq] at h
        rw [← h.2]
        omega
      · split at h
        · cases h
        · simp only [Except.ok.injEq, Prod.mk.injEq] at h
          rw [← h.2]
          omega
        · next hl =>
          have hl := length_lowUnit? hl
          simp only [Except.ok.injEq, Prod.mk.injEq] at h
          rw [← h.2]
          omega
  · split at h
    · cases h
    · simp only [Except.ok.injEq, Prod.mk.injEq] at h
      rw [← h.2]
      simp

/-- The rest of a string behind the code points read so far, up to its closing quote; `opening` is
the text from the opening quote on. -/
def stringOnto (opening : List Char) (done : List Nat) :
    List Char → Except Fault (Text × List Char)
  | [] => refuse .unclosed opening
  | c :: rest =>
    if c == '"' then .ok (Text.ofPoints done.reverse, rest)
    else if c == '\\' then
      match _h : escape opening rest with
      | .error fault => .error fault
      | .ok (point, rest') => stringOnto opening (point :: done) rest'
    else if c.toNat < 0x20 then refuse .control (c :: rest)
    else stringOnto opening (c.toNat :: done) rest
  termination_by s => s.length
  decreasing_by
  · exact Nat.lt_succ_of_lt (length_escape ‹_›)
  · exact Nat.lt_succ_self _

/-! ## Numbers -/

/-- The number that decimal digits spell. -/
def digitsValue (digits : List Char) : Nat :=
  digits.foldl (fun n c => n * 10 + (c.toNat - 48)) 0

/-- The digits of a whole part: a zero alone, or digits that begin with another. -/
def wholePart (s : List Char) : List Char × List Char :=
  match s with
  | '0' :: rest => (['0'], rest)
  | s => (s.takeWhile Char.isDigit, s.dropWhile Char.isDigit)

/-- A point and the digits behind it, if there are any. -/
def fractionPart (s : List Char) : Option (List Char × List Char) :=
  match s with
  | '.' :: rest =>
    match rest.takeWhile Char.isDigit with
    | [] => none
    | digits => some (digits, rest.dropWhile Char.isDigit)
  | _ => none

/-- An exponent: its mark, a sign if any, and digits. -/
def exponentPart (s : List Char) : Option (Int × List Char) :=
  match s with
  | mark :: rest =>
    if mark == 'e' || mark == 'E' then
      let (sign, rest) : Int × List Char :=
        match rest with
        | '+' :: rest => (1, rest)
        | '-' :: rest => (-1, rest)
        | rest => (1, rest)
      match rest.takeWhile Char.isDigit with
      | [] => none
      | digits => some (sign * digitsValue digits, rest.dropWhile Char.isDigit)
    else none
  | [] => none

/-- A number without its sign; `token` is the text with the sign. -/
def number (token : List Char) (negative : Bool) (s : List Char) :
    Except Fault (Value × List Char) :=
  match wholePart s with
  | ([], _) => refuse .noValue token
  | (whole, rest) =>
    let (fraction, rest, hasFraction) :=
      match fractionPart rest with
      | some (digits, rest) => (digits, rest, true)
      | none => ([], rest, false)
    let (exponent, rest, hasExponent) :=
      match exponentPart rest with
      | some (exponent, rest) => (exponent, rest, true)
      | none => ((0 : Int), rest, false)
    if hasFraction || hasExponent then
      .ok (.float (Double.ofDecimal negative (digitsValue (whole ++ fraction))
        (exponent - fraction.length)), rest)
    else if digitLimit < whole.length then .error (.tooManyDigits whole.length)
    else
      let n : Int := digitsValue whole
      .ok (.int (if negative then -n else n), rest)

/-! ## Values -/

/-- The names that stand for values. -/
def names : List (String × Value) :=
  [("null", .null), ("true", .bool true), ("false", .bool false), ("NaN", .float Double.nan),
   ("Infinity", .float (Double.infinity false)), ("-Infinity", .float (Double.infinity true))]

/-- A name at the start of the text. -/
def name? (s : List Char) : Option (Value × List Char) :=
  names.findSome? fun (name, v) =>
    if name.toList.isPrefixOf s then some (v, s.drop name.length) else none

/-- Numbers and names. -/
def scalar (s : List Char) : Except Fault (Value × List Char) :=
  match name? s with
  | some found => .ok found
  | none =>
    match s with
    | '-' :: rest => number s true rest
    | _ => number s false s

mutual

/-- A value at the start of the text, and what follows it. Each bracket that is opened takes one
step of the fuel, and so does each item. -/
def value : (fuel : Nat) → List Char → Except Fault (Value × List Char)
  | 0, s => refuse .noValue s
  | fuel + 1, s =>
    match s with
    | '"' :: rest =>
      match stringOnto s [] rest with
      | .error fault => .error fault
      | .ok (text, rest) => .ok (.text text, rest)
    | '[' :: rest =>
      match skip rest with
      | ']' :: rest => .ok (.list [], rest)
      | rest => items fuel [] rest
    | '\x7b' :: rest =>
      match skip rest with
      | '\x7d' :: rest => .ok (.object [], rest)
      | rest => members fuel [] rest
    | s => scalar s

/-- The items of a list, from the next one on. -/
def items : (fuel : Nat) → List Value → List Char → Except Fault (Value × List Char)
  | 0, _, s => refuse .noValue s
  | fuel + 1, done, s =>
    match value fuel s with
    | .error fault => .error fault
    | .ok (v, rest) =>
      match skip rest with
      | ',' :: rest => items fuel (v :: done) (skip rest)
      | ']' :: rest => .ok (.list (v :: done).reverse, rest)
      | rest => refuse .noComma rest

/-- The members of an object, from the next key on. -/
def members : (fuel : Nat) → Members → List Char → Except Fault (Value × List Char)
  | 0, _, s => refuse .noKey s
  | fuel + 1, done, s =>
    match s with
    | '"' :: rest =>
      match stringOnto s [] rest with
      | .error fault => .error fault
      | .ok (key, rest) =>
        match skip rest with
        | ':' :: rest =>
          match value fuel (skip rest) with
          | .error fault => .error fault
          | .ok (v, rest) =>
            match skip rest with
            | ',' :: rest => members fuel (Keyed.put key v done) (skip rest)
            | '\x7d' :: rest => .ok (.object (Keyed.put key v done), rest)
            | rest => refuse .noComma rest
        | rest => refuse .noColon rest
    | s => refuse .noKey s

end

/-- The **value of a JSON text**. The text has more characters than it has brackets and items, so
its length is fuel enough. -/
def parse (text : List Char) : Except Fault Value :=
  match text with
  | '\uFEFF' :: _ => refuse .mark text
  | _ =>
    match value (2 * text.length + 2) (skip text) with
    | .error fault => .error fault
    | .ok (v, rest) =>
      match skip rest with
      | [] => .ok v
      | rest => refuse .surplus rest

end Drift.Json
