import Drift.MessagePack.Value
import Drift.Text.Encoding

/-!
# Reading MessagePack

* `MessagePack.unpack` — the one value that a message holds, with nothing behind it.
* `MessagePack.read` — a value at the start of the bytes and what follows it, with a bound on the
  containers that may still be opened.
* `MessagePack.Fault` — why a message is refused. An array or map is refused by its head alone, as
  soon as it is nested too deep or announces more items than the message has bytes.
-/

namespace Drift.MessagePack

/-- Why a message is **refused**. -/
inductive Fault where
  /-- The bytes end inside a value. -/
  | incomplete
  /-- More bytes follow the value. -/
  | extraData
  /-- A value begins with the byte that begins none. -/
  | badFormat
  /-- Too many containers are open. -/
  | tooDeep
  /-- An array of more items than the limit. -/
  | arrayTooLong (count limit : Nat)
  /-- A map of more pairs than the limit. -/
  | mapTooLong (count limit : Nat)
  /-- An extension whose counted size exceeds the limit. -/
  | extensionTooLong (count limit : Nat)
  /-- A text that is not UTF-8. -/
  | badText (fault : Utf8.Fault)
  /-- A key that is neither a text nor bytes, by its kind. -/
  | badKey (kind : String)
  /-- An extension of a reserved code. -/
  | badCode
  /-- A timestamp of none of the three lengths. -/
  | badTimestamp (length : Nat)
  /-- A timestamp of a second or more of nanoseconds. -/
  | badNanoseconds
  deriving DecidableEq, Repr

namespace Fault

/-- The words for a count that goes beyond a limit. -/
def exceeds (count : Nat) (name : String) (limit : Nat) : String :=
  String.join [toString count, " exceeds ", name, "(", toString limit, ")"]

/-- The words for a fault. -/
def message : Fault → String
  | incomplete => "Unpack failed: incomplete input"
  | extraData => "unpack(b) received extra data."
  | badFormat => "FormatError"
  | tooDeep => "StackError"
  | arrayTooLong count limit => exceeds count "max_array_len" limit
  | mapTooLong count limit => exceeds count "max_map_len" limit
  | extensionTooLong count limit => exceeds count "max_ext_len" limit
  | badText fault => (Encoding.ofUtf8Fault fault).message
  | badKey kind => String.join [kind, " is not allowed for map key when strict_map_key=True"]
  | badCode => "code must be 0~127"
  | badTimestamp length =>
    String.join ["invalid timestamp data (length ", toString length, ")"]
  | badNanoseconds =>
    "nanoseconds must be a non-negative integer not greater than 999999999."

end Fault

/-- A function that reads something at the start of the bytes. -/
abbrev Reader (α : Type) := Bytes → Except Fault (α × Bytes)

/-! ## Parts of fixed size -/

/-- The next `n` bytes. -/
def taking (n : Nat) : Reader Bytes := fun bytes =>
  match bytes.take? n with
  | some found => .ok found
  | none => .error .incomplete

/-- A number of `width` bytes. -/
def unsigned (width : Nat) : Reader Nat := fun bytes =>
  match taking width bytes with
  | .ok (part, rest) => .ok (part.number, rest)
  | .error fault => .error fault

/-- A number of `width` bytes in two's complement. -/
def signed (width : Nat) : Reader Int := fun bytes =>
  match taking width bytes with
  | .ok (part, rest) => .ok (part.signed, rest)
  | .error fault => .error fault

/-! ## Heads -/

/-- What the first bytes of a value say. -/
inductive Head where
  /-- The value itself. -/
  | scalar (v : Value)
  /-- A text, bytes or an extension of so many bytes. -/
  | text (length : Nat)
  | binary (length : Nat)
  | extension (length : Nat)
  /-- A container of so many items or pairs. -/
  | array (count : Nat)
  | map (count : Nat)

/-- Turns what a reader found into a head. -/
def Reader.head {α : Type} (r : Reader α) (f : α → Head) : Reader Head := fun bytes =>
  match r bytes with
  | .ok (a, rest) => .ok (f a, rest)
  | .error fault => .error fault

/-- The head that begins with the byte `b`. -/
def headOf (b : UInt8) : Reader Head :=
  let n := b.toNat
  let here (h : Head) : Reader Head := fun rest => .ok (h, rest)
  if n < 0x80 then here (.scalar (.int n))
  else if n < 0x90 then here (.map (n - 0x80))
  else if n < 0xA0 then here (.array (n - 0x90))
  else if n < 0xC0 then here (.text (n - 0xA0))
  else if 0xE0 ≤ n then here (.scalar (.int ((n : Int) - 256)))
  else match n with
    | 0xC0 => here (.scalar .nil)
    | 0xC2 => here (.scalar (.bool false))
    | 0xC3 => here (.scalar (.bool true))
    | 0xC4 => (unsigned 1).head .binary
    | 0xC5 => (unsigned 2).head .binary
    | 0xC6 => (unsigned 4).head .binary
    | 0xC7 => (unsigned 1).head .extension
    | 0xC8 => (unsigned 2).head .extension
    | 0xC9 => (unsigned 4).head .extension
    | 0xCA => (unsigned 4).head fun bits => .scalar (.float (Double.ofSingle (UInt32.ofNat bits)))
    | 0xCB => (unsigned 8).head fun bits => .scalar (.float ⟨UInt64.ofNat bits⟩)
    | 0xCC => (unsigned 1).head fun n => .scalar (.int n)
    | 0xCD => (unsigned 2).head fun n => .scalar (.int n)
    | 0xCE => (unsigned 4).head fun n => .scalar (.int n)
    | 0xCF => (unsigned 8).head fun n => .scalar (.int n)
    | 0xD0 => (signed 1).head fun n => .scalar (.int n)
    | 0xD1 => (signed 2).head fun n => .scalar (.int n)
    | 0xD2 => (signed 4).head fun n => .scalar (.int n)
    | 0xD3 => (signed 8).head fun n => .scalar (.int n)
    | 0xD4 => here (.extension 1)
    | 0xD5 => here (.extension 2)
    | 0xD6 => here (.extension 4)
    | 0xD7 => here (.extension 8)
    | 0xD8 => here (.extension 16)
    | 0xD9 => (unsigned 1).head .text
    | 0xDA => (unsigned 2).head .text
    | 0xDB => (unsigned 4).head .text
    | 0xDC => (unsigned 2).head .array
    | 0xDD => (unsigned 4).head .array
    | 0xDE => (unsigned 2).head .map
    | 0xDF => (unsigned 4).head .map
    | _ => fun _ => .error .badFormat

/-- The head at the start of the bytes. -/
def head : Reader Head
  | [] => .error .incomplete
  | b :: rest => headOf b rest

/-! ## Extensions -/

/-- A timestamp: seconds alone, both numbers packed into 64 bits, or both in full. -/
def timestamp (data : Bytes) : Except Fault Value :=
  let build (seconds : Int) (nanoseconds : Nat) : Except Fault Value :=
    if 999999999 < nanoseconds then .error .badNanoseconds
    else .ok (.timestamp seconds nanoseconds)
  match data.length with
  | 4 => build data.number 0
  | 8 => build (data.number % 0x400000000 : Nat) (data.number / 0x400000000)
  | 12 => build (Bytes.signed (data.drop 4)) (Bytes.number (data.take 4))
  | length => .error (.badTimestamp length)

/-- An extension of a code byte and its data: code `-1` is a timestamp, the other negative codes are
reserved. -/
def extension (code : UInt8) (data : Bytes) : Except Fault Value :=
  if code.toNat < 128 then .ok (.extension code.toNat data)
  else if code = 0xFF then timestamp data
  else .error .badCode

/-- The extension of `length` data bytes, in a message of `total` bytes. A size of `2 ^ 32 - 1`
leaves no room for the code byte in its count, which then reads zero. -/
def readExtension (total length : Nat) : Reader Value := fun bytes =>
  if length = 0xFFFFFFFF then .error (.extensionTooLong 0 total)
  else match taking (length + 1) bytes with
    | .error fault => .error fault
    | .ok ([], _) => .error .incomplete
    | .ok (code :: data, rest) =>
      match extension code data with
      | .ok v => .ok (v, rest)
      | .error fault => .error fault

/-! ## Values -/

/-- The next `n` things of a reader, behind those already read. -/
def several {α : Type} (item : Reader α) : (n : Nat) → (done : List α) → Reader (List α)
  | 0, done, bytes => .ok (done.reverse, bytes)
  | n + 1, done, bytes =>
    match item bytes with
    | .error fault => .error fault
    | .ok (a, rest) => several item n (a :: done) rest

/-- A key and its value; the key is judged after the value is read. -/
def pair (item : Reader Value) : Reader (Value × Value) := fun bytes =>
  match item bytes with
  | .error fault => .error fault
  | .ok (key, rest) =>
    match item rest with
    | .error fault => .error fault
    | .ok (v, rest) =>
      match key with
      | .text _ | .binary _ => .ok ((key, v), rest)
      | _ => .error (.badKey key.literal.kind)

/-- The text of `length` bytes. -/
def readText (length : Nat) : Reader Value := fun bytes =>
  match taking length bytes with
  | .error fault => .error fault
  | .ok (part, rest) =>
    match Utf8.decodeString part with
    | .ok s => .ok (.text s, rest)
    | .error fault => .error (.badText fault)

def readBinary (length : Nat) : Reader Value := fun bytes =>
  match taking length bytes with
  | .error fault => .error fault
  | .ok (part, rest) => .ok (.binary part, rest)

/-- A container of `count` things, if they are no more than the limit. -/
def readRow {α : Type} (limit : Nat) (tooLong : Fault) (item : Reader α) (wrap : List α → Value)
    (count : Nat) : Reader Value := fun bytes =>
  if limit < count then .error tooLong
  else match several item count [] bytes with
    | .ok (things, rest) => .ok (wrap things, rest)
    | .error fault => .error fault

/-- An array in a message of `total` bytes: it announces no more items than there are bytes. -/
def readArray (total : Nat) (item : Reader Value) (count : Nat) : Reader Value :=
  readRow total (.arrayTooLong count total) item .array count

/-- A map, whose pairs take two bytes each. -/
def readMap (total : Nat) (item : Reader Value) (count : Nat) : Reader Value :=
  readRow (total / 2) (.mapTooLong count (total / 2)) (pair item) .map count

/-- Reads a value of a message of `total` bytes, its items by `inner`; without one, no container may
be opened. -/
def readWith (total : Nat) (inner : Option (Reader Value)) : Reader Value := fun bytes =>
  match head bytes with
  | .error fault => .error fault
  | .ok (.scalar v, rest) => .ok (v, rest)
  | .ok (.text length, rest) => readText length rest
  | .ok (.binary length, rest) => readBinary length rest
  | .ok (.extension length, rest) => readExtension total length rest
  | .ok (.array count, rest) =>
    match inner with
    | none => .error .tooDeep
    | some item => readArray total item count rest
  | .ok (.map count, rest) =>
    match inner with
    | none => .error .tooDeep
    | some item => readMap total item count rest

/-- Reads **a value** of a message of `total` bytes, when `room` more containers may be opened. -/
def read (total : Nat) : (room : Nat) → Reader Value
  | 0 => readWith total none
  | room + 1 => readWith total (some (read total room))

/-- The number of containers that may be open at once. -/
def maxDepth : Nat := 1024

/-- The **value of a message**, which must take all its bytes. -/
def unpack (message : Bytes) : Except Fault Value :=
  match read message.length maxDepth message with
  | .error fault => .error fault
  | .ok (v, []) => .ok v
  | .ok (_, _ :: _) => .error .extraData

end Drift.MessagePack
