import Drift.Bytes

/-!
# Punycode

The ASCII characters of a text come first; behind a hyphen, numbers tell which other characters are
to be put in and where.

* `Punycode.encode` — the bytes of a text.
* `Punycode.decode` — the code points that bytes stand for, or why they stand for none.
-/

namespace Drift.Punycode

/-! ## Numbers -/

/-- The letters for the digits of numbers, from 0 to 35. -/
def digit (n : Nat) : UInt8 := UInt8.ofNat (if n < 26 then 0x61 + n else 0x30 + (n - 26))

/-- From which value on a digit is followed by another one. -/
def threshold (place bias : Nat) : Nat :=
  if 36 * (place + 1) < bias + 1 then 1 else min 26 (36 * (place + 1) - bias)

/-- The digits of a number. -/
def digits (bias : Nat) : (fuel place n : Nat) → Bytes
  | 0, _, _ => []
  | fuel + 1, place, n =>
    let t := threshold place bias
    if n < t then [digit n]
    else digit (t + (n - t) % (36 - t)) :: digits bias fuel (place + 1) ((n - t) / (36 - t))

/-- Divides until the number is small, and counts 36 for each time. -/
def reduce : (fuel divisions delta : Nat) → Nat × Nat
  | 0, divisions, delta => (divisions, delta)
  | fuel + 1, divisions, delta =>
    if delta ≤ 455 then (divisions, delta) else reduce fuel (divisions + 36) (delta / 35)

/-- The bias for the next number, as the last one was `delta`. -/
def adapt (delta : Nat) (isFirst : Bool) (length : Nat) : Nat :=
  let delta := if isFirst then delta / 700 else delta / 2
  let delta := delta + delta / length
  let (divisions, delta) := reduce (delta + 1) 0 delta
  divisions + 36 * delta / (delta + 38)

/-! ## From text to bytes -/

/-- The places passed since the last character that was put in, and the numbers so far, of which the
last one comes first. -/
structure Counting where
  delta : Nat
  numbers : List Nat

/-- Counts the places of a character in the text among the smaller ones. -/
def countPlaces (point : Nat) (text : List Nat) (state : Counting) : Counting :=
  text.foldl
    (fun state c =>
      if c < point then { state with delta := state.delta + 1 }
      else if c == point then ⟨0, state.delta :: state.numbers⟩
      else state) state

/-- The numbers for characters in ascending order; `last` is the character before them, and `length`
how many are put in. -/
def numbersFor (text : List Nat) (last length : Nat) (state : Counting) : List Nat → List Nat
  | [] => state.numbers.reverse
  | point :: points =>
    let before := { state with delta := state.delta + (point - last) * (length + 1) }
    let state := countPlaces point text before
    let length := length + (text.filter (· == point)).length
    numbersFor text (point + 1) length { state with delta := state.delta + 1 } points

/-- The digits of numbers, with the bias that each of them leaves for the next. -/
def writeNumbers (length bias : Nat) (isFirst : Bool) (done : Bytes) : List Nat → Bytes
  | [] => done.reverse
  | n :: rest =>
    writeNumbers (length + 1) (adapt n isFirst (length + 1)) false
      ((digits bias (n + 1) 0 n).reverseAux done) rest

/-- Ascending code points without repetition. -/
def distinct (points : List Nat) : List Nat :=
  (points.mergeSort (· ≤ ·)).foldr
    (fun p rest => if rest.head? == some p then rest else p :: rest) []

/-- The **bytes of a text**. -/
def encode (text : List Char) : Bytes :=
  let points := text.map Char.toNat
  let (base, further) := points.partition (· < 128)
  let numbers := numbersFor points 128 base.length ⟨0, []⟩ (distinct further)
  let extension := writeNumbers base.length 72 true [] numbers
  if base.isEmpty then extension else base.map UInt8.ofNat ++ 0x2D :: extension

/-! ## From bytes to text -/

/-- Why bytes stand for no text. -/
inductive Fault where
  /-- A byte is no ASCII character. -/
  | byte (offset : Nat) (b : UInt8)
  /-- A letter is no digit. -/
  | digit (c : Char)
  /-- The last number has no end. -/
  | unfinished
  /-- A number leads to no character. -/
  | tooLarge (point : Nat)
  deriving DecidableEq, Repr

/-- The words for it, where it is no byte outside of ASCII. -/
def Fault.message : Fault → String
  | byte .. => "ordinal not in range(128)"
  | digit c => String.join ["Invalid extended code point '", c.toString, "'"]
  | unfinished => "incomplete punicode string"
  | tooLarge point => String.join ["Invalid character U+", String.ofList (Nat.toDigits 16 point)]

/-- The value of a digit, in capitals. -/
def value? (b : UInt8) : Option Nat :=
  if 0x41 ≤ b && b ≤ 0x5A then some (b.toNat - 0x41)
  else if 0x30 ≤ b && b ≤ 0x39 then some (b.toNat - 22)
  else none

/-- The text being put together: the code points so far, the last one put in and its place, and the
bias for the next number. -/
structure Building where
  points : List Nat
  point : Nat
  next : Nat
  bias : Nat
  isFirst : Bool

/-- Puts in the character that a number tells. -/
def Building.put (s : Building) (delta : Nat) : Except Fault Building :=
  let length := s.points.length + 1
  let place := s.next + delta
  let point := s.point + place / length
  if 0x10FFFF < point then .error (.tooLarge point)
  else
    let place := place % length
    .ok
      { points := s.points.take place ++ point :: s.points.drop place
        point := point
        next := place + 1
        bias := adapt delta s.isFirst length
        isFirst := false }

/-- A number being read: its value so far, the weight of the next digit and its place. -/
structure Number where
  value : Nat
  weight : Nat
  place : Nat

/-- Reads digit by digit the number that has begun, if one has, and those behind it. -/
def readNumbers (s : Building) (number : Option Number) : Bytes → Except Fault (List Nat)
  | [] => if number.isSome then .error .unfinished else .ok s.points
  | b :: rest =>
    match value? b with
    | none => .error (.digit (Char.ofNat b.toNat))
    | some d =>
      let n := number.getD ⟨0, 1, 0⟩
      let t := threshold n.place s.bias
      let value := n.value + d * n.weight
      if d < t then
        match s.put value with
        | .error fault => .error fault
        | .ok s => readNumbers s none rest
      else readNumbers s (some ⟨value, n.weight * (36 - t), n.place + 1⟩) rest

/-- The bytes, if they are ASCII characters. -/
def asciiOnly (bytes : Bytes) : Except Fault Bytes :=
  match bytes.zipIdx.find? fun (b, _) => 0x80 ≤ b with
  | some (b, offset) => .error (.byte offset b)
  | none => .ok bytes

/-- The bytes before the last hyphen and those behind it. -/
def splitLast (bytes : Bytes) : Bytes × Bytes :=
  let behind := (bytes.reverse.takeWhile (· != 0x2D)).reverse
  (bytes.take (bytes.length - behind.length - 1), behind)

/-- The capital form of an ASCII letter. -/
def capital (b : UInt8) : UInt8 := if 0x61 ≤ b && b ≤ 0x7A then b - 0x20 else b

/-- The **code points that bytes stand for**, or why they stand for none. -/
def decode (bytes : Bytes) : Except Fault (List Nat) :=
  let (base, extension) := splitLast bytes
  match asciiOnly base with
  | .error fault => .error fault
  | .ok base =>
    match asciiOnly extension with
    | .error fault => .error fault
    | .ok extension =>
      readNumbers ⟨base.map (·.toNat), 0x80, 0, 72, true⟩ none (extension.map capital)

end Drift.Punycode
