import Drift.Adler32
import Drift.Deflate.Inflate

/-!
# Compressed streams

A stream is a head of two bytes, compressed data and the checksum of what it expands to.

* `Zlib.decompress` — what a stream expands to; bytes behind its end are ignored.
* `Zlib.compress` — a stream that expands to the given bytes, for one of the levels `-1` to `9`. It
  stores the bytes in blocks as they are; the level shows in the head alone.
* `Zlib.Fault` — why a stream is refused.
-/

namespace Drift.Zlib

/-- Why a stream is **refused**. -/
inductive Fault where
  /-- The head's check bits are wrong. -/
  | headCheck
  /-- The head names an unknown method. -/
  | method
  /-- The head names too large a window. -/
  | window
  /-- The stream needs a dictionary agreed on before. -/
  | dictionary
  /-- The compressed data is refused. -/
  | data (fault : Deflate.Fault)
  /-- The checksum is wrong. -/
  | checksum
  deriving DecidableEq, Repr

namespace Fault

/-- The words for a fault of compressed data. -/
def dataText : Deflate.Fault → String
  | .truncated => "incomplete or truncated stream"
  | .blockType => "invalid block type"
  | .storedLength => "invalid stored block lengths"
  | .tooManySymbols => "too many length or distance symbols"
  | .lengthCode => "invalid code lengths set"
  | .lengthRepeat => "invalid bit length repeat"
  | .missingEnd => "invalid code -- missing end-of-block"
  | .literalLengths => "invalid literal/lengths set"
  | .distanceLengths => "invalid distances set"
  | .literalCode => "invalid literal/length code"
  | .distanceCode => "invalid distance code"
  | .distanceTooFar => "invalid distance too far back"

/-- The words for a fault, with its number: 2 for a missing dictionary, -5 for data that ends too
early, -3 for everything else. -/
def message : Fault → String
  | dictionary => "Error 2 while decompressing data"
  | data .truncated => String.join ["Error -5 while decompressing data: ", dataText .truncated]
  | data fault => String.join ["Error -3 while decompressing data: ", dataText fault]
  | headCheck => "Error -3 while decompressing data: incorrect header check"
  | method => "Error -3 while decompressing data: unknown compression method"
  | window => "Error -3 while decompressing data: invalid window size"
  | checksum => "Error -3 while decompressing data: incorrect data check"

end Fault

/-! ## Reading -/

/-- Checks the head and gives what follows it. -/
def afterHead : Bytes → Except Fault Bytes
  | method :: flags :: rest =>
    if (method.toNat * 256 + flags.toNat) % 31 ≠ 0 then .error .headCheck
    else if method.toNat % 16 ≠ 8 then .error .method
    else if 7 < method.toNat / 16 then .error .window
    else if flags.toNat / 32 % 2 = 1 then
      .error (if 4 ≤ rest.length then .dictionary else .data .truncated)
    else .ok rest
  | _ => .error (.data .truncated)

/-- Checks the checksum behind the compressed data. -/
def checked (out : Bytes) (trailer : Bytes) : Except Fault Bytes :=
  match trailer.take? 4 with
  | none => .error (.data .truncated)
  | some (sum, _) => if sum.number = adler32 out then .ok out else .error .checksum

/-- What a **stream expands to**. -/
def decompress (stream : Bytes) : Except Fault Bytes :=
  match afterHead stream with
  | .error fault => .error fault
  | .ok rest =>
    match Deflate.inflate rest with
    | .error fault => .error (.data fault)
    | .ok (out, trailer) => checked out.toList trailer

/-! ## Writing -/

/-- The levels of compression; `-1` is the usual one. -/
structure Level where
  value : Int
  least : -1 ≤ value
  greatest : value ≤ 9

namespace Level

/-- Why a number is no level. -/
inductive Fault where
  /-- There is no level of this number. -/
  | unknown
  /-- The number does not fit into 32 bits. -/
  | outOfRange
  /-- It is no whole number. -/
  | noNumber
  deriving DecidableEq, Repr

/-- Numbers below this size, and its negative, fit into 32 bits. -/
def range : Nat := 1 <<< 31

/-- The level of a number from `-1` to `9`. -/
def ofInt (n : Int) : Except Fault Level :=
  if h : -1 ≤ n ∧ n ≤ 9 then .ok ⟨n, h.1, h.2⟩
  else if n < -range ∨ range ≤ n then .error .outOfRange
  else .error .unknown

/-- The head of a stream of the level. -/
def head (l : Level) : Bytes :=
  if l.value = -1 ∨ l.value = 6 then [0x78, 0x9C]
  else if l.value < 2 then [0x78, 0x01]
  else if l.value < 6 then [0x78, 0x5E]
  else [0x78, 0xDA]

end Level

/-- The greatest length of a stored block. -/
def blockSize : Nat := 65535

/-- The head of a stored block of `length` bytes. -/
def storedHead (last : Bool) (length : Nat) : Bytes :=
  [if last then 1 else 0, UInt8.ofNat length, UInt8.ofNat (length / 256),
   UInt8.ofNat (255 - length % 256), UInt8.ofNat (255 - length / 256)]

/-- The bytes in stored blocks, behind the blocks already made. -/
def storedOnto (done : List Bytes) (bytes : Bytes) : Bytes :=
  match _h : bytes.take? blockSize with
  | none =>
    ((storedHead true bytes.length ++ bytes) :: done).reverse.flatten
  | some (block, rest) =>
    if rest.isEmpty then ((storedHead true blockSize ++ block) :: done).reverse.flatten
    else storedOnto ((storedHead false blockSize ++ block) :: done) rest
  termination_by bytes.length
  decreasing_by
    have := Bytes.take?_eq_some_iff.1 ‹_›
    rw [this.1, List.length_append, this.2, blockSize]
    omega

/-- The **stream of some bytes**. -/
def compress (level : Level) (bytes : Bytes) : Bytes :=
  level.head ++ storedOnto [] bytes ++ Bytes.bigEndian 4 (adler32 bytes)

end Drift.Zlib
