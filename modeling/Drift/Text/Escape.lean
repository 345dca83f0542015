import Drift.Bytes
import Drift.Text.Hex
import Drift.Text.Refusal
import Drift.Unicode.Name

/-!
# Texts with escapes

Two encodings write characters as escapes: the one all that ASCII cannot print, the other, the raw
one, only those behind the first 256.

* `Escape.encode`, `Escape.encodeRaw` — the bytes of a text.
* `Escape.decode`, `Escape.decodeRaw` — the text of the bytes, or the first refused run.
-/

namespace Drift.Escape

/-! ## From text to bytes -/

/-- An escape of a letter and digits. -/
def escape (letter : Char) (width n : Nat) : List Char := '\\' :: letter :: (hex width n).toList

/-- A character behind the first 256. -/
def wide (c : Char) : List Char :=
  if c.toNat < 0x10000 then escape 'u' 4 c.toNat else escape 'U' 8 c.toNat

/-- A character as it is written. -/
def written (c : Char) : List Char :=
  if c == '\\' then ['\\', '\\']
  else if c == '\t' then ['\\', 't']
  else if c == '\n' then ['\\', 'n']
  else if c == '\r' then ['\\', 'r']
  else if 0x20 ≤ c.toNat && c.toNat < 0x7F then [c]
  else if c.toNat < 0x100 then escape 'x' 2 c.toNat
  else wide c

/-- A character as it is written raw. -/
def writtenRaw (c : Char) : List Char := if c.toNat < 0x100 then [c] else wide c

/-- The bytes of characters below 256. -/
def narrow (text : List Char) : Bytes := text.map fun c => UInt8.ofNat c.toNat

/-- The **bytes of a text**. -/
def encode (text : List Char) : Bytes := narrow (text.flatMap written)

/-- The **bytes of a raw text**. -/
def encodeRaw (text : List Char) : Bytes := narrow (text.flatMap writtenRaw)

/-! ## From bytes to text -/

/-- The value of a hexadecimal digit. -/
def digit? (b : UInt8) : Option Nat :=
  if 0x30 ≤ b && b ≤ 0x39 then some (b.toNat - 0x30)
  else if 0x41 ≤ b && b ≤ 0x46 then some (b.toNat - 0x41 + 10)
  else if 0x61 ≤ b && b ≤ 0x66 then some (b.toNat - 0x61 + 10)
  else none

/-- Reads digits onto a number; where one is missing, how many there are. -/
def digits (seen n : Nat) : (more : Nat) → Bytes → Except Nat Nat
  | 0, _ => .ok n
  | _ + 1, [] => .error seen
  | more + 1, b :: rest =>
    match digit? b with
    | some d => digits (seen + 1) (n * 16 + d) more rest
    | none => .error seen

/-- What stands behind a backslash. -/
inductive Item where
  /-- Characters, and how many bytes they take. -/
  | text (length : Nat) (text : List Char)
  /-- Bytes that are refused, from the backslash on. -/
  | refused (length : Nat) (reason : String)

/-- A character by its number; half of a surrogate pair alone is none. -/
def single (n : Nat) : Char := if 0xD800 ≤ n && n < 0xE000 then '\uFFFD' else Char.ofNat n

/-- An escape of a letter and some digits. -/
def numbered (width : Nat) (cut tooLarge : String) (rest : Bytes) : Item :=
  match digits 0 0 width rest with
  | .error seen => .refused (2 + seen) cut
  | .ok n => if 0x110000 ≤ n then .refused (2 + width) tooLarge else .text (1 + width) [single n]

/-- Up to three octal digits. -/
def octal (rest : Bytes) : Item :=
  let digits := (rest.take 3).takeWhile fun b => 0x30 ≤ b && b ≤ 0x37
  .text digits.length [Char.ofNat (digits.foldl (fun n b => n * 8 + (b.toNat - 0x30)) 0)]

/-- A character by its name in braces. -/
def named (rest : Bytes) : Item :=
  let malformed := "malformed \\N character escape"
  match rest with
  | 0x7B :: rest =>
    let name := rest.takeWhile (· != 0x7D)
    if name.isEmpty || name.length == rest.length then .refused (3 + name.length) malformed
    else
      match Unicode.ofName? (name.map fun b => Char.ofNat b.toNat) with
      | some c => .text (3 + name.length) [c]
      | none => .refused (4 + name.length) "unknown Unicode character name"
  | _ => .refused 2 malformed

/-- What the byte behind a backslash begins. -/
def escaped (b : UInt8) (rest : Bytes) : Item :=
  let plain (n : Nat) : Item := .text 1 [Char.ofNat n]
  if b == 0x0A then .text 1 []
  else if b == 0x5C || b == 0x27 || b == 0x22 then plain b.toNat
  else if b == 0x61 then plain 7
  else if b == 0x62 then plain 8
  else if b == 0x66 then plain 12
  else if b == 0x6E then plain 10
  else if b == 0x72 then plain 13
  else if b == 0x74 then plain 9
  else if b == 0x76 then plain 11
  else if 0x30 ≤ b && b ≤ 0x37 then octal (b :: rest)
  else if b == 0x78 then numbered 2 "truncated \\xXX escape" "" rest
  else if b == 0x75 then numbered 4 "truncated \\uXXXX escape" "" rest
  else if b == 0x55 then
    numbered 8 "truncated \\UXXXXXXXX escape" "illegal Unicode character" rest
  else if b == 0x4E then named rest
  else .text 1 ['\\', Char.ofNat b.toNat]

/-- What the byte behind a backslash begins in a raw text. -/
def escapedRaw (b : UInt8) (rest : Bytes) : Item :=
  if b == 0x75 then numbered 4 "truncated \\uXXXX escape" "" rest
  else if b == 0x55 then
    numbered 8 "truncated \\UXXXXXXXX escape" "\\Uxxxxxxxx out of range" rest
  else .text 1 ['\\', Char.ofNat b.toNat]

/-- Reads byte by byte; `skip` bytes are part of the escape read last. -/
def decodeFrom (escaped : UInt8 → Bytes → Item) (last : Item) (offset skip : Nat)
    (done : List Char) : Bytes → Except Refusal (List Char)
  | [] => .ok done.reverse
  | b :: rest =>
    match skip with
    | skip + 1 => decodeFrom escaped last (offset + 1) skip done rest
    | 0 =>
      if b != 0x5C then
        decodeFrom escaped last (offset + 1) 0 (Char.ofNat b.toNat :: done) rest
      else
        let item := match rest with
          | [] => last
          | c :: rest => escaped c rest
        match item with
        | .text length text =>
          decodeFrom escaped last (offset + 1) length (text.reverseAux done) rest
        | .refused length reason => .error ⟨offset, length, reason⟩

/-- The **text of the bytes**, or the first bytes that spell none. -/
def decode (bytes : Bytes) : Except Refusal (List Char) :=
  decodeFrom escaped (.refused 1 "\\ at end of string") 0 0 [] bytes

/-- The **raw text of the bytes**, or the first bytes that spell none. -/
def decodeRaw (bytes : Bytes) : Except Refusal (List Char) :=
  decodeFrom escapedRaw (.text 0 ['\\']) 0 0 [] bytes

end Drift.Escape
