import Drift.Bytes
import Drift.Text.Refusal

/-!
# UTF-7

Most ASCII characters stand for themselves. Others are written in units of 16 bits, six bits to a
letter, between a plus sign and the first byte that is no such letter.

* `Utf7.encode` — the bytes of a text.
* `Utf7.decode` — the text of the bytes, or the first refused run.
-/

namespace Drift.Utf7

/-- The bits written or read that fill no letter or no unit yet. -/
structure Bits where
  value : Nat
  count : Nat

namespace Bits

/-- No bits. -/
def none : Bits := ⟨0, 0⟩

/-- More bits behind those there are. -/
def push (bits : Bits) (count value : Nat) : Bits :=
  ⟨bits.value * (1 <<< count) + value, bits.count + count⟩

/-- The first bits there are, and the ones behind them. -/
def pop (bits : Bits) (count : Nat) : Nat × Bits :=
  let left := 1 <<< (bits.count - count)
  (bits.value / left, ⟨bits.value % left, bits.count - count⟩)

end Bits

/-- The letters for six bits, in the order of their values. -/
def letters : Array UInt8 :=
  (List.range' 0x41 26 ++ List.range' 0x61 26 ++ List.range' 0x30 10 ++ [0x2B, 0x2F]).toArray.map
    UInt8.ofNat

/-- The six bits of a letter. -/
def sextet? (b : UInt8) : Option Nat := letters.toList.idxOf? b

/-! ## From text to bytes -/

/-- Characters that stand for themselves: not the control characters but tab and line ends, nor
backslash, tilde and plus. -/
def isDirect (c : Char) : Bool :=
  let n := c.toNat
  n == 0x09 || n == 0x0A || n == 0x0D
    || (0x20 ≤ n && n < 0x7E && c != '+' && c != '\\')

/-- Writes all full letters in front of the bytes, of which the last one comes first. -/
def flushOnto (done : Bytes) : (fuel : Nat) → Bits → Bytes × Bits
  | 0, bits => (done, bits)
  | fuel + 1, bits =>
    if bits.count < 6 then (done, bits)
    else
      let (six, bits) := bits.pop 6
      flushOnto (letters.getD six 0 :: done) fuel bits

/-- The units of 16 bits of a character. -/
def units (c : Char) : List Nat :=
  let n := c.toNat
  if n < 0x10000 then [n]
  else [0xD800 + (n - 0x10000) / 1024, 0xDC00 + (n - 0x10000) % 1024]

/-- A character in units, behind the bits that are left from before. -/
def writeUnits (done : Bytes) (bits : Bits) (c : Char) : Bytes × Bits :=
  (units c).foldl (fun (done, bits) unit => flushOnto done 3 (bits.push 16 unit)) (done, bits)

/-- Fills the last letter up with zeros. -/
def padOnto (done : Bytes) (bits : Bits) : Bytes :=
  if bits.count == 0 then done
  else letters.getD (bits.value * (1 <<< (6 - bits.count))) 0 :: done

/-- Writes character by character; inside of letters there are bits. -/
def encodeFrom (inside : Option Bits) (done : Bytes) : List Char → Bytes
  | [] =>
    match inside with
    | some bits => (0x2D :: padOnto done bits).reverse
    | none => done.reverse
  | c :: rest =>
    let b := UInt8.ofNat c.toNat
    match inside with
    | some bits =>
      if isDirect c then
        let done := padOnto done bits
        let done := if (sextet? b).isSome || c == '-' then 0x2D :: done else done
        encodeFrom none (b :: done) rest
      else
        let (done, bits) := writeUnits done bits c
        encodeFrom (some bits) done rest
    | none =>
      if c == '+' then encodeFrom none (0x2D :: 0x2B :: done) rest
      else if isDirect c then encodeFrom none (b :: done) rest
      else
        let (done, bits) := writeUnits (0x2B :: done) .none c
        encodeFrom (some bits) done rest

/-- The **bytes of a text**. -/
def encode (text : List Char) : Bytes := encodeFrom none [] text

/-! ## From bytes to text -/

/-- The letters being read: where their plus sign is, the bits that fill no unit yet, and the first
half of a surrogate pair. -/
structure Section where
  start : Nat
  bits : Bits
  half : Option Nat

/-- A character by its number; half of a surrogate pair alone is none. -/
def single (n : Nat) : Char := if 0xD800 ≤ n && n < 0xE000 then '\uFFFD' else Char.ofNat n

/-- A unit is read behind the first half of a pair, or without one. -/
def readUnit (done : List Char) (half : Option Nat) (unit : Nat) : List Char × Option Nat :=
  let isHigh := 0xD800 ≤ unit && unit < 0xDC00
  match half with
  | some high =>
    if 0xDC00 ≤ unit && unit < 0xE000 then
      (Char.ofNat (0x10000 + (high - 0xD800) * 1024 + (unit - 0xDC00)) :: done, none)
    else if isHigh then (single high :: done, some unit)
    else (single unit :: single high :: done, none)
  | none => if isHigh then (done, some unit) else (single unit :: done, none)

/-- Six more bits of a section. -/
def readSextet (done : List Char) (s : Section) (six : Nat) : List Char × Section :=
  let bits := s.bits.push 6 six
  if bits.count < 16 then (done, { s with bits := bits })
  else
    let (unit, bits) := bits.pop 16
    let (done, half) := readUnit done s.half unit
    (done, { s with bits := bits, half := half })

/-- Why a section cannot end: a letter too many, or bits that are not zero. -/
def leftover? (bits : Bits) : Option String :=
  if 6 ≤ bits.count then some "partial character in shift sequence"
  else if bits.value != 0 then some "non-zero padding bits in shift sequence"
  else none

/-- Reads byte by byte; a minus sign that ends a section may be left out with `skip`. -/
def decodeFrom (inside : Option Section) (offset : Nat) (skip : Bool) (done : List Char) :
    Bytes → Except Refusal (List Char)
  | [] =>
    match inside with
    | some s =>
      if s.half.isSome || (leftover? s.bits).isSome then
        .error ⟨s.start, offset - s.start, "unterminated shift sequence"⟩
      else .ok done.reverse
    | none => .ok done.reverse
  | b :: rest =>
    if skip then decodeFrom inside (offset + 1) false done rest
    else
      let plain (done : List Char) : Except Refusal (List Char) :=
        if b == 0x2B then
          match rest.head? with
          | some c =>
            if c == 0x2D then decodeFrom none (offset + 1) true ('+' :: done) rest
            else if (sextet? c).isNone then .error ⟨offset, 2, "ill-formed sequence"⟩
            else decodeFrom (some ⟨offset, .none, none⟩) (offset + 1) false done rest
          | none => decodeFrom (some ⟨offset, .none, none⟩) (offset + 1) false done rest
        else if b < 0x80 then
          decodeFrom none (offset + 1) false (Char.ofNat b.toNat :: done) rest
        else .error ⟨offset, 1, "unexpected special character"⟩
      match inside with
      | none => plain done
      | some s =>
        match sextet? b with
        | some six =>
          let (done, s) := readSextet done s six
          decodeFrom (some s) (offset + 1) false done rest
        | none =>
          match leftover? s.bits with
          | some reason => .error ⟨s.start, offset + 1 - s.start, reason⟩
          | none =>
            let done := match s.half with
              | some high => if b < 0x80 then single high :: done else done
              | none => done
            if b == 0x2D then decodeFrom none (offset + 1) false done rest else plain done

/-- The **text of the bytes**, or the first bytes that spell none. -/
def decode (bytes : Bytes) : Except Refusal (List Char) := decodeFrom none 0 false [] bytes

end Drift.Utf7
