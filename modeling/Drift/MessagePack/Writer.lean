import Drift.MessagePack.Value
import Drift.Text.Utf8

/-!
# Writing MessagePack

Every number and every length is written in the shortest of its forms.

* `MessagePack.nat`, `MessagePack.text`, `MessagePack.arrayHead` — the bytes of a number, of a text
  and of the head of an array.
* `MessagePack.pack` — the message that holds a value.
* `MessagePack.WriteFault` — what has no form.
-/

namespace Drift.MessagePack

/-- What is written behind its length. -/
inductive Sized where
  | text
  | binary
  | array
  | map
  | extension
  deriving DecidableEq, Repr

/-- What a message cannot hold. -/
inductive WriteFault where
  /-- A number above `2 ^ 64 - 1` or below `-2 ^ 63`. -/
  | numberTooLarge
  /-- Something with a length of `2 ^ 32` or more. -/
  | tooLong (what : Sized)
  /-- A value inside more than `depthLimit` others. -/
  | tooDeep
  deriving DecidableEq, Repr

/-- A number in its shortest form. -/
def nat (n : Nat) : Except WriteFault Bytes :=
  if n < 0x80 then .ok [UInt8.ofNat n]
  else if n < 0x100 then .ok (0xCC :: Bytes.bigEndian 1 n)
  else if n < 0x10000 then .ok (0xCD :: Bytes.bigEndian 2 n)
  else if n < 0x100000000 then .ok (0xCE :: Bytes.bigEndian 4 n)
  else if n < 0x10000000000000000 then .ok (0xCF :: Bytes.bigEndian 8 n)
  else .error .numberTooLarge

/-- A whole number in its shortest form. -/
def int (n : Int) : Except WriteFault Bytes :=
  if 0 ≤ n then nat n.toNat
  else if -0x20 ≤ n then .ok [UInt8.ofNat (n + 0x100).toNat]
  else if -0x80 ≤ n then .ok (0xD0 :: Bytes.bigEndian 1 (n + 0x100).toNat)
  else if -0x8000 ≤ n then .ok (0xD1 :: Bytes.bigEndian 2 (n + 0x10000).toNat)
  else if -0x80000000 ≤ n then .ok (0xD2 :: Bytes.bigEndian 4 (n + 0x100000000).toNat)
  else if -0x8000000000000000 ≤ n then
    .ok (0xD3 :: Bytes.bigEndian 8 (n + 0x10000000000000000).toNat)
  else .error .numberTooLarge

/-- A number in double precision. -/
def float (x : Double) : Bytes := 0xCB :: Bytes.bigEndian 8 x.bits.toNat

/-- The head of a text of `n` bytes. -/
def textHead (n : Nat) : Except WriteFault Bytes :=
  if n < 32 then .ok [UInt8.ofNat (0xA0 + n)]
  else if n < 0x100 then .ok (0xD9 :: Bytes.bigEndian 1 n)
  else if n < 0x10000 then .ok (0xDA :: Bytes.bigEndian 2 n)
  else if n < 0x100000000 then .ok (0xDB :: Bytes.bigEndian 4 n)
  else .error (.tooLong .text)

/-- A text. -/
def text (s : String) : Except WriteFault Bytes := do
  let bytes := Utf8.encodeString s
  let head ← textHead bytes.length
  return head ++ bytes

/-- The head of an array of `n` items. -/
def arrayHead (n : Nat) : Except WriteFault Bytes :=
  if n < 16 then .ok [UInt8.ofNat (0x90 + n)]
  else if n < 0x10000 then .ok (0xDC :: Bytes.bigEndian 2 n)
  else if n < 0x100000000 then .ok (0xDD :: Bytes.bigEndian 4 n)
  else .error (.tooLong .array)

/-- The head of a map of `n` pairs. -/
def mapHead (n : Nat) : Except WriteFault Bytes :=
  if n < 16 then .ok [UInt8.ofNat (0x80 + n)]
  else if n < 0x10000 then .ok (0xDE :: Bytes.bigEndian 2 n)
  else if n < 0x100000000 then .ok (0xDF :: Bytes.bigEndian 4 n)
  else .error (.tooLong .map)

/-- The head of `n` bytes. -/
def binaryHead (n : Nat) : Except WriteFault Bytes :=
  if n < 0x100 then .ok (0xC4 :: Bytes.bigEndian 1 n)
  else if n < 0x10000 then .ok (0xC5 :: Bytes.bigEndian 2 n)
  else if n < 0x100000000 then .ok (0xC6 :: Bytes.bigEndian 4 n)
  else .error (.tooLong .binary)

/-- The head of an extension of `n` bytes, up to its code. -/
def extensionHead (n : Nat) : Except WriteFault Bytes :=
  if n == 1 then .ok [0xD4]
  else if n == 2 then .ok [0xD5]
  else if n == 4 then .ok [0xD6]
  else if n == 8 then .ok [0xD7]
  else if n == 16 then .ok [0xD8]
  else if n < 0x100 then .ok (0xC7 :: Bytes.bigEndian 1 n)
  else if n < 0x10000 then .ok (0xC8 :: Bytes.bigEndian 2 n)
  else if n < 0x100000000 then .ok (0xC9 :: Bytes.bigEndian 4 n)
  else .error (.tooLong .extension)

/-- An extension: data with the code of its form. -/
def packExtension (code : UInt8) (data : Bytes) : Except WriteFault Bytes :=
  (extensionHead data.length).map fun head => head ++ code :: data

/-- The data of a moment: seconds alone when they fit 32 bits and no nanoseconds are left, both in
64 bits when that is enough, and else in 96 bits. -/
def momentData (seconds : Int) (nanoseconds : Nat) : Bytes :=
  if 0 ≤ seconds ∧ seconds < 0x400000000 then
    if nanoseconds = 0 ∧ seconds < 0x100000000 then Bytes.bigEndian 4 seconds.toNat
    else Bytes.bigEndian 8 (nanoseconds * 0x400000000 + seconds.toNat)
  else
    Bytes.bigEndian 4 nanoseconds
      ++ Bytes.bigEndian 8 (seconds % 0x10000000000000000).toNat

/-- The greatest count of values around another. -/
def depthLimit : Nat := 511

mutual

/-- A value inside `depth` others. -/
def packAt (depth : Nat) (v : Value) : Except WriteFault Bytes :=
  if depthLimit < depth then .error .tooDeep
  else match v with
    | .nil => .ok [0xC0]
    | .bool b => .ok [if b then 0xC3 else 0xC2]
    | .int n => int n
    | .float x => .ok (float x)
    | .text s => text s
    | .binary b => (binaryHead b.length).map (· ++ b)
    | .array items => do
      let head ← arrayHead items.length
      let body ← packItems (depth + 1) [] items
      return head ++ body
    | .map pairs => do
      let head ← mapHead pairs.length
      let body ← packPairs (depth + 1) [] pairs
      return head ++ body
    | .extension code data => packExtension (UInt8.ofNat code) data
    | .timestamp seconds nanoseconds => packExtension 0xFF (momentData seconds nanoseconds)

/-- The items of an array, behind those already written. -/
def packItems (depth : Nat) (done : List Bytes) : List Value → Except WriteFault Bytes
  | [] => .ok done.reverse.flatten
  | v :: rest =>
    match packAt depth v with
    | .error fault => .error fault
    | .ok bytes => packItems depth (bytes :: done) rest

/-- The pairs of a map, behind those already written. -/
def packPairs (depth : Nat) (done : List Bytes) : List (Value × Value) → Except WriteFault Bytes
  | [] => .ok done.reverse.flatten
  | (key, v) :: rest =>
    match packAt depth key, packAt depth v with
    | .error fault, _ => .error fault
    | _, .error fault => .error fault
    | .ok first, .ok second => packPairs depth (second :: first :: done) rest

end

/-- The **message that holds a value**. -/
def pack (v : Value) : Except WriteFault Bytes := packAt 0 v

end Drift.MessagePack
