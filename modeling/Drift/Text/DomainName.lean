import Drift.Text.Nameprep
import Drift.Text.Punycode

/-!
# Names of domains

The labels of a name stand between dots. Those with characters outside of ASCII are prepared and
written in Punycode behind the letters `xn--`.

* `DomainName.encode` — the bytes of a name.
* `DomainName.decode` — the name that bytes stand for.
-/

namespace Drift.DomainName

/-- Why a text or bytes are no name. -/
inductive Fault where
  /-- A label has no characters or too many. -/
  | size
  /-- The last label has too many characters. -/
  | long
  /-- A label begins with the letters that are kept for encoded ones. -/
  | prefixed
  | unprepared (fault : Nameprep.Fault)
  /-- A label holds half of a surrogate pair. -/
  | half (point : Nat)
  /-- A label is no Punycode. -/
  | punycode (fault : Punycode.Fault)
  /-- A label is not what its text is encoded to. -/
  | unequal (label encoded : Bytes)
  deriving DecidableEq, Repr

/-- The words for it. What is wrong inside of Punycode is told as its own decoder tells it. -/
def Fault.message : Fault → String
  | size => "label empty or too long"
  | long => "label too long"
  | prefixed => "Label starts with ACE prefix"
  | unprepared fault => fault.message
  | half point => String.join ["Invalid character '\\u", hex 4 point, "'"]
  | punycode fault =>
    String.join ["decoding with 'punycode' codec failed (UnicodeError: ", fault.message, ")"]
  | unequal label encoded =>
    String.join
      ["('IDNA does not round-trip', ", Literal.quoteBytes label, ", ",
       Literal.quoteBytes encoded, ")"]

/-- The letters that begin an encoded label. -/
def marker : Bytes := [0x78, 0x6E, 0x2D, 0x2D]

/-- All characters belong to ASCII. -/
def isAscii (text : List Char) : Bool := text.all (·.toNat < 0x80)

/-- The bytes of ASCII characters. -/
def asciiBytes (text : List Char) : Bytes := text.map fun c => UInt8.ofNat c.toNat

/-- A label of allowed length. -/
def sized (label : Bytes) : Except Fault Bytes :=
  if 0 < label.length && label.length < 64 then .ok label else .error .size

/-! ## From text to bytes -/

/-- A prepared label. -/
def encodePrepared (label : List Char) : Except Fault Bytes :=
  if isAscii label then sized (asciiBytes label)
  else if marker.isPrefixOf (asciiBytes (label.takeWhile (·.toNat < 0x80))) then .error .prefixed
  else sized (marker ++ Punycode.encode label)

/-- The **bytes of a label**. -/
def encodeLabel (label : List Char) : Except Fault Bytes :=
  if isAscii label then sized (asciiBytes label)
  else
    match Nameprep.prepare label with
    | .error fault => .error (.unprepared fault)
    | .ok label => encodePrepared label

/-- The parts of a list between separators. -/
def splitAt {α : Type} (separates : α → Bool) (part : List α) : List α → List (List α)
  | [] => [part.reverse]
  | a :: rest =>
    if separates a then part.reverse :: splitAt separates [] rest
    else splitAt separates (a :: part) rest

/-- The labels, and whether a separator stands behind the last one. -/
def labelsOf {α : Type} (parts : List (List α)) : List (List α) × Bool :=
  if parts.getLast?.any List.isEmpty then (parts.dropLast, true) else (parts, false)

/-- The dots of East Asian scripts separate labels as well. -/
def isDot (c : Char) : Bool := c == '.' || c == '\u3002' || c == '\uFF0E' || c == '\uFF61'

/-- All results behind those already there, or the first fault. -/
def collect {α β : Type} (f : α → Except Fault β) (done : List β) :
    List α → Except Fault (List β)
  | [] => .ok done.reverse
  | a :: rest =>
    match f a with
    | .error fault => .error fault
    | .ok b => collect f (b :: done) rest

/-- A name in ASCII is written as it is, if its labels have an allowed length. -/
def checkAscii (text : List Char) : Except Fault Bytes :=
  let labels := splitAt (· == '.') [] text
  if labels.dropLast.any fun label => label.isEmpty || 64 ≤ label.length then .error .size
  else if labels.getLast?.any (64 ≤ ·.length) then .error .long
  else .ok (asciiBytes text)

/-- The **bytes of a name**. -/
def encode (text : List Char) : Except Fault Bytes :=
  if text.isEmpty then .ok []
  else if isAscii text then checkAscii text
  else
    let (labels, trailing) := labelsOf (splitAt isDot [] text)
    match collect encodeLabel [] labels with
    | .error fault => .error fault
    | .ok labels => .ok (List.intercalate [0x2E] labels ++ if trailing then [0x2E] else [])

/-! ## From bytes to text -/

/-- The bytes of a label by its code points: among them may be half of a surrogate pair, which is
prohibited like the characters before it. -/
def encodePoints (points : List Nat) : Except Fault Bytes :=
  let isHalf (point : Nat) : Bool := 0xD800 ≤ point && point < 0xE000
  match points.find? isHalf with
  | none => encodeLabel (points.map Char.ofNat)
  | some half =>
    let before := (points.takeWhile fun point => !isHalf point).map Char.ofNat
    match Nameprep.prohibited? (Nameprep.mapped before) with
    | some c => .error (.unprepared (.prohibited c))
    | none => .error (.half half)

/-- The bytes as ASCII characters. -/
def ofAscii (bytes : Bytes) : Except Fault (List Char) :=
  match Punycode.asciiOnly bytes with
  | .ok bytes => .ok (bytes.map fun b => Char.ofNat b.toNat)
  | .error fault => .error (.punycode fault)

/-- The small form of an ASCII letter. -/
def small (b : UInt8) : UInt8 := if 0x41 ≤ b && b ≤ 0x5A then b + 0x20 else b

/-- The **text of a label**: an encoded label must be what its text is encoded to. -/
def decodeLabel (label : Bytes) : Except Fault (List Char) :=
  if !marker.isPrefixOf label then ofAscii label
  else
    match Punycode.decode (label.drop marker.length) with
    | .error fault => .error (.punycode fault)
    | .ok points =>
      match encodePoints points with
      | .error fault => .error fault
      | .ok encoded =>
        if label.map small == encoded then .ok (points.map Char.ofNat)
        else .error (.unequal label encoded)

/-- Some of the bytes are the letters of an encoded label. -/
def hasMarker : Bytes → Bool
  | [] => false
  | b :: rest => marker.isPrefixOf (b :: rest) || hasMarker rest

/-- The **name that bytes stand for**. -/
def decode (bytes : Bytes) : Except Fault (List Char) :=
  if bytes.all (· < 0x80) && !hasMarker bytes then ofAscii bytes
  else
    let (labels, trailing) := labelsOf (splitAt (· == 0x2E) [] bytes)
    match collect decodeLabel [] labels with
    | .error fault => .error fault
    | .ok labels => .ok (List.intercalate ['.'] labels ++ if trailing then ['.'] else [])

end Drift.DomainName
