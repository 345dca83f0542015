import Drift.Text.CodePage
import Drift.Text.DomainName
import Drift.Text.Escape
import Drift.Text.Hz
import Drift.Text.Iso2022
import Drift.Text.Utf7
import Drift.Text.Utf8

/-!
# Text encodings

* `Encoding` — the forms of Unicode, ASCII, Latin-1 and code pages, the encodings of East Asia,
  texts with escapes, and names of domains.
* `Encoding.encode`, `Encoding.decode` — from text to bytes and back.
* `Unencodable`, `Undecodable` — the first run of characters or bytes that an encoding refuses;
  `Encoding.Unfit` — why it refuses a text or bytes as a whole.
-/

namespace Drift

/-- Which byte of a unit comes first. -/
inductive ByteOrder where
  /-- The lowest one. -/
  | little
  /-- The highest one. -/
  | big
  deriving DecidableEq, Repr

/-- How text is laid down in bytes. -/
inductive Encoding where
  | utf8
  /-- UTF-8 behind a mark. -/
  | utf8Marked
  | ascii
  | latin1
  /-- Units of 16 bits; where no order is given, a mark tells it. -/
  | utf16 (order : Option ByteOrder)
  /-- Units of 32 bits; where no order is given, a mark tells it. -/
  | utf32 (order : Option ByteOrder)
  | page (p : CodePage)
  | multiByte (e : MultiByte)
  | iso2022 (e : Iso2022)
  | hz
  | utf7
  /-- Escapes for all that ASCII cannot print. -/
  | escaped
  /-- Escapes for the characters behind the first 256. -/
  | rawEscaped
  | punycode
  | domainName
  deriving DecidableEq, Repr

/-- The first run of code points that the encoding has no bytes for. -/
structure Unencodable where
  encoding : Encoding
  offset : Nat
  first : Nat
  length : Nat
  reason : String
  deriving DecidableEq, Repr

/-- The first run of bytes that stands for no character. -/
structure Undecodable where
  encoding : Encoding
  offset : Nat
  lead : UInt8
  length : Nat
  reason : String
  deriving DecidableEq, Repr

namespace Encoding

/-- The name by which messages call the encoding. -/
def name : Encoding → String
  | utf8 | utf8Marked => "utf-8"
  | ascii => "ascii"
  | latin1 => "latin-1"
  | utf16 none => "utf-16"
  | utf16 (some .little) => "utf-16-le"
  | utf16 (some .big) => "utf-16-be"
  | utf32 none => "utf-32"
  | utf32 (some .little) => "utf-32-le"
  | utf32 (some .big) => "utf-32-be"
  | page _ => "charmap"
  | multiByte e => e.name
  | iso2022 e => e.name
  | hz => "hz"
  | utf7 => "utf7"
  | escaped => "unicodeescape"
  | rawEscaped => "rawunicodeescape"
  | punycode => "punycode"
  | domainName => "idna"

/-! ## Refusals -/

/-- Whether text is to be written or read. -/
inductive Use where
  | encoding
  | decoding
  deriving DecidableEq, Repr

/-- Why a text or bytes are refused **as a whole**. -/
inductive Unfit where
  | punycode (fault : Punycode.Fault)
  | domainName (fault : DomainName.Fault)
  /-- A set is in use for single characters that cannot be. -/
  | brokenSet
  deriving DecidableEq, Repr

/-- The kind of failure that it is. -/
def Unfit.kind : Unfit → String
  | punycode _ | domainName _ => "UnicodeError"
  | brokenSet => "RuntimeError"

/-- The words for it by themselves. -/
def Unfit.reason : Unfit → String
  | punycode fault => fault.message
  | domainName fault => fault.message
  | brokenSet => "internal codec error"

/-- The words for a failure of an encoding of some name. -/
def failedMessage (use : Use) (name kind reason : String) : String :=
  let use := match use with
    | .encoding => "encoding"
    | .decoding => "decoding"
  String.join [use, " with '", name, "' codec failed (", kind, ": ", reason, ")"]

/-- The words for it, with the name of the encoding; those for a label that is not what its text is
encoded to stand alone. -/
def Unfit.message (use : Use) (name : String) : Unfit → String
  | domainName (.unequal label encoded) => (DomainName.Fault.unequal label encoded).message
  | unfit => failedMessage use name unfit.kind unfit.reason

/-- Why a text or bytes are refused: **a run** of them is, or all of it together. -/
inductive Refused (ρ : Type) where
  | run (r : ρ)
  | whole (u : Unfit)
  deriving DecidableEq, Repr

/-- The report of a refused run of characters. -/
def unencodable (e : Encoding) (text : List Char) (r : Refusal) : Refused Unencodable :=
  .run ⟨e, r.offset, ((text.drop r.offset).head?.map Char.toNat).getD 0, r.length, r.reason⟩

/-- The report of a refused run of bytes. -/
def undecodable (e : Encoding) (bytes : Bytes) (r : Refusal) : Refused Undecodable :=
  .run ⟨e, r.offset, (bytes.drop r.offset).head?.getD 0, r.length, r.reason⟩

/-- The report of bytes that are no name; a byte outside of ASCII is reported as ASCII does. -/
def ofPunycodeFault : Punycode.Fault → Refused Undecodable
  | .byte offset b => .run ⟨ascii, offset, b, 1, "ordinal not in range(128)"⟩
  | fault => .whole (.punycode fault)

/-- The report of bytes that are no name of a domain. -/
def ofDomainNameFault : DomainName.Fault → Refused Undecodable
  | .punycode (.byte offset b) => ofPunycodeFault (.byte offset b)
  | fault => .whole (.domainName fault)

/-- A code point that is no character by itself is shown as the mark for none. -/
def shownPoint (point : Nat) : Char :=
  if 0xD800 ≤ point && point < 0xE000 then '\uFFFD' else Char.ofNat point

/-! ## Units -/

/-- The bytes of a unit, from the first on. -/
def unitBytes (order : ByteOrder) (width n : Nat) : Bytes :=
  match order with
  | .big => Bytes.bigEndian width n
  | .little => (Bytes.bigEndian width n).reverse

/-- The unit that bytes spell. -/
def unit (order : ByteOrder) (bytes : Bytes) : Nat :=
  match order with
  | .big => bytes.number
  | .little => Bytes.number bytes.reverse

/-- The byte order mark of units of some bytes. -/
def mark (order : ByteOrder) (width : Nat) : Bytes := unitBytes order width 0xFEFF

/-- The byte order mark of UTF-8. -/
def mark8 : Bytes := [0xEF, 0xBB, 0xBF]

/-- One or two 16-bit units for a character. -/
def pairBytes (order : ByteOrder) (c : Char) : Bytes :=
  let n := c.toNat
  if n < 0x10000 then unitBytes order 2 n
  else
    unitBytes order 2 (0xD800 + (n - 0x10000) / 1024) ++
      unitBytes order 2 (0xDC00 + (n - 0x10000) % 1024)

/-! ## From text to bytes -/

/-- The byte of a character, in an encoding with one byte to a character. -/
def byte? (e : Encoding) (table : Array Char) (c : Char) : Option UInt8 :=
  match e with
  | page _ => CodePage.byte? table c
  | ascii => if c.toNat < 128 then some (UInt8.ofNat c.toNat) else none
  | _ => if c.toNat < 256 then some (UInt8.ofNat c.toNat) else none

/-- Why single bytes or characters are refused. -/
def narrowReason : Encoding → String
  | page _ => "character maps to <undefined>"
  | ascii => "ordinal not in range(128)"
  | _ => "ordinal not in range(256)"

/-- One byte for each character, behind the bytes already made. -/
def encodeNarrow (e : Encoding) (table : Array Char) (offset : Nat) (done : Bytes) :
    List Char → Except Unencodable Bytes
  | [] => .ok done.reverse
  | c :: cs =>
    match e.byte? table c with
    | some b => encodeNarrow e table (offset + 1) (b :: done) cs
    | none =>
      let length := 1 + (cs.takeWhile fun d => (e.byte? table d).isNone).length
      .error ⟨e, offset, c.toNat, length, e.narrowReason⟩

/-- The **bytes of a text**, or the first characters that have none. A mark that tells the order of
bytes is that of the little one. -/
def encode (e : Encoding) (text : List Char) : Except (Refused Unencodable) Bytes :=
  match e with
  | utf8 => .ok (Utf8.encode text)
  | utf8Marked => .ok (mark8 ++ Utf8.encode text)
  | utf16 (some order) => .ok (text.flatMap (pairBytes order))
  | utf16 none => .ok (mark .little 2 ++ text.flatMap (pairBytes .little))
  | utf32 (some order) => .ok (text.flatMap fun c => unitBytes order 4 c.toNat)
  | utf32 none => .ok (mark .little 4 ++ text.flatMap fun c => unitBytes .little 4 c.toNat)
  | page p => (encodeNarrow e p.table 0 [] text).mapError .run
  | ascii | latin1 => (encodeNarrow e #[] 0 [] text).mapError .run
  | multiByte m => (m.encode text).mapError (e.unencodable text)
  | iso2022 i => (i.encode text).mapError (e.unencodable text)
  | hz => (Hz.encode text).mapError (e.unencodable text)
  | utf7 => .ok (Utf7.encode text)
  | escaped => .ok (Escape.encode text)
  | rawEscaped => .ok (Escape.encodeRaw text)
  | punycode => .ok (Punycode.encode text)
  | domainName => (DomainName.encode text).mapError fun fault => .whole (.domainName fault)

/-! ## From bytes to text -/

/-- The character of a byte, in an encoding with one byte to a character. -/
def char? (e : Encoding) (table : Array Char) (b : UInt8) : Option Char :=
  match e with
  | page _ => CodePage.char? table b
  | ascii => if b < 128 then some (Char.ofNat b.toNat) else none
  | _ => some (Char.ofNat b.toNat)

/-- One character for each byte, behind the characters already read. -/
def decodeNarrow (e : Encoding) (table : Array Char) (offset : Nat) (done : List Char) :
    Bytes → Except Undecodable (List Char)
  | [] => .ok done.reverse
  | b :: bytes =>
    match e.char? table b with
    | some c => decodeNarrow e table (offset + 1) (c :: done) bytes
    | none => .error ⟨e, offset, b, 1, narrowReason e⟩

/-- A unit of 16 bits is a character, or a high unit and a low one together are. -/
def decodePairs (order : ByteOrder) (offset : Nat) (done : List Char) :
    Bytes → Except Undecodable (List Char)
  | [] => .ok done.reverse
  | [a] => .error ⟨utf16 order, offset, a, 1, "truncated data"⟩
  | a :: b :: rest =>
    let n := unit order [a, b]
    if n < 0xD800 || 0xE000 ≤ n then
      decodePairs order (offset + 2) (Char.ofNat n :: done) rest
    else if 0xDC00 ≤ n then .error ⟨utf16 order, offset, a, 2, "illegal encoding"⟩
    else match rest with
      | c :: d :: rest =>
        let m := unit order [c, d]
        if 0xDC00 ≤ m && m < 0xE000 then
          decodePairs order (offset + 4)
            (Char.ofNat (0x10000 + (n - 0xD800) * 1024 + (m - 0xDC00)) :: done) rest
        else .error ⟨utf16 order, offset, a, 2, "illegal UTF-16 surrogate"⟩
      | rest => .error ⟨utf16 order, offset, a, 2 + rest.length, "unexpected end of data"⟩

/-- A unit of 32 bits is a character. -/
def decodeUnits (order : ByteOrder) (offset : Nat) (done : List Char) :
    Bytes → Except Undecodable (List Char)
  | [] => .ok done.reverse
  | a :: b :: c :: d :: rest =>
    let n := unit order [a, b, c, d]
    if 0x110000 ≤ n then
      .error ⟨utf32 order, offset, a, 4, "code point not in range(0x110000)"⟩
    else if 0xD800 ≤ n && n < 0xE000 then
      .error
        ⟨utf32 order, offset, a, 4, "code point in surrogate code point range(0xd800, 0xe000)"⟩
    else decodeUnits order (offset + 4) (Char.ofNat n :: done) rest
  | a :: rest => .error ⟨utf32 order, offset, a, 1 + rest.length, "truncated data"⟩

/-- The order of bytes that a mark at the beginning tells, with the mark's length; without a mark it
is the little one. -/
def markedOrder (width : Nat) (bytes : Bytes) : ByteOrder × Nat :=
  if (mark .little width).isPrefixOf bytes then (.little, width)
  else if (mark .big width).isPrefixOf bytes then (.big, width)
  else (.little, 0)

/-- The reason given for each flaw of UTF-8. -/
def flawReason : Utf8.Flaw → String
  | .start => "invalid start byte"
  | .continuation => "invalid continuation byte"
  | .unfinished => "unexpected end of data"

/-- The report of a fault in UTF-8. -/
def ofUtf8Fault (f : Utf8.Fault) : Undecodable :=
  ⟨utf8, f.offset, f.lead, f.length, flawReason f.flaw⟩

/-- The text of UTF-8. -/
def decodeUtf8 (bytes : Bytes) : Except Undecodable (List Char) :=
  (Utf8.decode bytes).mapError ofUtf8Fault

/-- The **text of the bytes**, or why there is none. -/
def decode (e : Encoding) (bytes : Bytes) : Except (Refused Undecodable) (List Char) :=
  match e with
  | utf8 => (decodeUtf8 bytes).mapError .run
  | utf8Marked =>
    (decodeUtf8 (if mark8.isPrefixOf bytes then bytes.drop 3 else bytes)).mapError .run
  | utf16 (some order) => (decodePairs order 0 [] bytes).mapError .run
  | utf16 none =>
    let (order, length) := markedOrder 2 bytes
    (decodePairs order length [] (bytes.drop length)).mapError .run
  | utf32 (some order) => (decodeUnits order 0 [] bytes).mapError .run
  | utf32 none =>
    let (order, length) := markedOrder 4 bytes
    (decodeUnits order length [] (bytes.drop length)).mapError .run
  | page p => (decodeNarrow e p.table 0 [] bytes).mapError .run
  | ascii | latin1 => (decodeNarrow e #[] 0 [] bytes).mapError .run
  | multiByte m => (m.decode bytes).mapError (e.undecodable bytes)
  | iso2022 i =>
    (i.decode bytes).mapError fun
      | .refused run => e.undecodable bytes run
      | .broken => .whole .brokenSet
  | hz => (Hz.decode bytes).mapError (e.undecodable bytes)
  | utf7 => (Utf7.decode bytes).mapError (e.undecodable bytes)
  | escaped => (Escape.decode bytes).mapError (e.undecodable bytes)
  | rawEscaped => (Escape.decodeRaw bytes).mapError (e.undecodable bytes)
  | punycode =>
    ((Punycode.decode bytes).map fun points => points.map shownPoint).mapError ofPunycodeFault
  | domainName => (DomainName.decode bytes).mapError ofDomainNameFault

end Encoding

/-! ## Messages -/

/-- A code point as messages show it. -/
def escapedCode (point : Nat) : String :=
  if point < 0x100 then "\\x" ++ hex 2 point
  else if point < 0x10000 then "\\u" ++ hex 4 point
  else "\\U" ++ hex 8 point

/-- The place of a run: one offset, or the first and the last. -/
def runText (offset length : Nat) : String :=
  if length == 1 then toString offset
  else String.join [toString offset, "-", toString (offset + length - 1)]

namespace Unencodable

/-- The words for the run of characters. -/
def message (f : Unencodable) : String :=
  let run :=
    if f.length == 1 then String.join ["character '", escapedCode f.first, "'"] else "characters"
  String.join
    ["'", f.encoding.name, "' codec can't encode ", run, " in position ",
     runText f.offset f.length, ": ", f.reason]

end Unencodable

namespace Undecodable

/-- The words for the run of bytes. -/
def message (f : Undecodable) : String :=
  let run := if f.length == 1 then String.join ["byte 0x", hex 2 f.lead.toNat] else "bytes"
  String.join
    ["'", f.encoding.name, "' codec can't decode ", run, " in position ",
     runText f.offset f.length, ": ", f.reason]

end Undecodable

end Drift
