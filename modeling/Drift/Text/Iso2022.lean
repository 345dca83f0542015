import Drift.Text.MultiByte

/-!
# Encodings that switch between sets

In the encodings of ISO 2022, escape sequences name the sets of characters that the following bytes
are codes of.

* `Iso2022` — the encodings by name; `Designation` — the sets and how sequences name them.
* `Iso2022.encode`, `Iso2022.decode` — from text to bytes and back, or the first refused run.
-/

namespace Drift

/-- An encoding that **escape sequences** switch from one set of characters to another. -/
inductive Iso2022 where
  | jp
  | jp1
  | jp2
  | jp2004
  | jp3
  | jpExt
  | kr
  deriving DecidableEq, Repr

/-- A set of characters that escape sequences can name. -/
inductive Designation where
  | jisX0201Latin
  | jisX0201Kana
  | jisX0208
  /-- JIS X 0208 as its first edition is named. -/
  | jisX0208Old
  | jisX0212
  | first (edition : JisX0213)
  /-- The codes for two characters of the first plane of JIS X 0213, which go before other sets when
  characters are written. -/
  | firstPairs (edition : JisX0213)
  | second (edition : JisX0213)
  | gb2312
  | ksX1001
  | latin1
  | greek
  deriving DecidableEq, Repr

namespace Designation

/-- The byte that names the set at the end of a sequence. -/
def mark : Designation → UInt8
  | jisX0201Latin => 0x4A
  | jisX0201Kana => 0x49
  | jisX0208 => 0x42
  | jisX0208Old => 0x40
  | jisX0212 => 0x44
  | first .initial | firstPairs .initial => 0x4F
  | first .revised | firstPairs .revised => 0x51
  | second _ => 0x50
  | gb2312 => 0x41
  | ksX1001 => 0x43
  | latin1 => 0x41
  | greek => 0x46

/-- The set is a part of another one and only for writing. -/
def isPart : Designation → Bool
  | firstPairs _ => true
  | _ => false

/-- The codes of the set have two bytes. -/
def isWide : Designation → Bool
  | jisX0201Latin | jisX0201Kana | latin1 | greek => false
  | _ => true

open CharacterSet

/-- The codes of a set; those of the Western sets are not looked up here. -/
def index : Designation → CodeIndex
  | jisX0201Latin =>
    .ofCodes (ascii.map fun (code, c) =>
      (code, if c == '\\' then '¥' else if c == '~' then '‾' else c))
  | jisX0201Kana => .ofCodes (kana 0x21)
  | jisX0208 | jisX0208Old => .ofCodes CharacterSet.jisX0208.codes
  | jisX0212 => .ofCodes CharacterSet.jisX0212.codes
  | first edition =>
    (CodeIndex.ofCodes
      (edition.first.map fun (code, c) => (code, if code == 0x2232 then '~' else c))).pairing
      JisX0213.pairs JisX0213.closed
  | firstPairs _ => (CodeIndex.ofCodes []).pairing JisX0213.pairs JisX0213.closed
  | second edition =>
    ((CodeIndex.ofCodes JisX0213.revised.second).reading edition.unwritten).writing
      edition.rewritten
  | gb2312 => .ofCodes CharacterSet.gb2312.codes
  | ksX1001 => .ofCodes CharacterSet.ksX1001.codes
  | latin1 | greek => .ofCodes []

end Designation

namespace Iso2022

/-- The name by which messages call the encoding. -/
def name : Iso2022 → String
  | jp => "iso2022_jp"
  | jp1 => "iso2022_jp_1"
  | jp2 => "iso2022_jp_2"
  | jp2004 => "iso2022_jp_2004"
  | jp3 => "iso2022_jp_3"
  | jpExt => "iso2022_jp_ext"
  | kr => "iso2022_kr"

/-- The sets of an encoding, in the order in which they are tried for a character. -/
def designations : Iso2022 → List Designation
  | jp => [.jisX0208, .jisX0201Latin, .jisX0208Old]
  | jp1 => [.jisX0208, .jisX0212, .jisX0201Latin, .jisX0208Old]
  | jp2 =>
    [.jisX0208, .jisX0212, .ksX1001, .gb2312, .jisX0201Latin, .jisX0208Old, .latin1, .greek]
  | jp2004 => [.firstPairs .revised, .jisX0208, .first .revised, .second .revised]
  | jp3 => [.firstPairs .initial, .jisX0208, .first .initial, .second .initial]
  | jpExt => [.jisX0208, .jisX0212, .jisX0201Latin, .jisX0201Kana, .jisX0208Old]
  | kr => [.ksX1001]

/-- Two bytes shift between two sets, one of which is named by sequences of its own. -/
def shifts (e : Iso2022) : Bool := e == kr

/-- A third set can be named, for single characters. -/
def hasThird (e : Iso2022) : Bool := e == jp2

/-- The sets of an encoding with their codes. -/
def indices (e : Iso2022) : List (Designation × CodeIndex) :=
  e.designations.map fun d => (d, d.index)

/-! ## From text to bytes -/

/-- The byte at the beginning of a sequence. -/
def esc : UInt8 := 0x1B

/-- The byte that shifts to the second set. -/
def shiftOut : UInt8 := 0x0E

/-- The byte that shifts back to the first set. -/
def shiftIn : UInt8 := 0x0F

/-- What a writer has named so far: the first set and the second one, where it is not ASCII, and
whether the second one is shifted to. -/
structure Named where
  first : Option Designation
  second : Option Designation
  shifted : Bool

/-- The sequence that names a set: the first set or the second one. -/
def naming (d : Designation) (second : Bool) : Bytes :=
  let place : UInt8 := if second then 0x29 else 0x28
  if !d.isWide then [esc, place, d.mark]
  else if d == .jisX0208 && !second then [esc, 0x24, d.mark]
  else [esc, 0x24, place, d.mark]

/-- The sequence that names ASCII. -/
def namingAscii : Bytes := [esc, 0x28, 0x42]

/-- The bytes before an ASCII character, and what is named behind them. -/
def toAscii (named : Named) : Bytes × Named :=
  ((if named.first.isSome then namingAscii else []) ++ (if named.shifted then [shiftIn] else []),
   { named with first := none, shifted := false })

/-- The bytes before a character of a set, and what is named behind them. -/
def toSet (e : Iso2022) (named : Named) (d : Designation) : Bytes × Named :=
  if e.shifts then
    ((if named.second == some d then [] else naming d true)
      ++ (if named.shifted then [] else [shiftOut]),
     { named with second := some d, shifted := true })
  else
    (if named.first.map (·.mark) == some d.mark then [] else naming d false,
     { named with first := some d })

/-- The first set that has the character at the beginning of a text, with its code and how many
characters this stands for. -/
def find? (indices : List (Designation × CodeIndex)) (c : Char) (rest : List Char) :
    Option (Designation × Nat × Nat) :=
  indices.findSome? fun (d, index) => (index.next? c rest).map fun found => (d, found)

/-- Writes character by character; `skip` characters are part of the code written last. -/
def encodeFrom (e : Iso2022) (indices : List (Designation × CodeIndex)) (named : Named)
    (offset skip : Nat) (done : Bytes) : List Char → Except Refusal Bytes
  | [] =>
    let done := if named.shifted then shiftIn :: done else done
    .ok ((if named.first.isSome then namingAscii.reverseAux done else done).reverse)
  | c :: rest =>
    match skip with
    | skip + 1 => encodeFrom e indices named (offset + 1) skip done rest
    | 0 =>
      if c.toNat < 0x80 then
        let (before, named) := toAscii named
        encodeFrom e indices named (offset + 1) 0
          (UInt8.ofNat c.toNat :: before.reverseAux done) rest
      else
        match find? indices c rest with
        | some (d, code, length) =>
          let (before, named) := e.toSet named d
          encodeFrom e indices named (offset + 1) (length - 1)
            (MultiByte.writeOnto (before.reverseAux done) code) rest
        | none => .error ⟨offset, 1, MultiByte.illegal⟩

/-- The **bytes of a text**, or the first character that has none. -/
def encode (e : Iso2022) (text : List Char) : Except Refusal Bytes :=
  encodeFrom e e.indices ⟨none, none, false⟩ 0 0 [] text

/-! ## From bytes to text -/

/-- What the sequences read so far have named: three sets, where they are not ASCII, and whether the
second one is shifted to; and whether a foreign sequence goes on. -/
structure Reading where
  first : Option Designation
  second : Option Designation
  third : Option Designation
  shifted : Bool
  foreign : Bool

/-- What stands at a place in the bytes. -/
inductive Item where
  /-- A sequence of some bytes, and the state behind it. -/
  | switch (length : Nat) (state : Reading)
  /-- Bytes that stand for characters. -/
  | text (length : Nat) (text : List Char)
  /-- Bytes that are refused. -/
  | illegal (length : Nat)
  /-- The bytes end too early. -/
  | incomplete
  /-- A set is named for single characters that cannot be. -/
  | broken

/-- The byte ends a sequence. -/
def isFinal (b : UInt8) : Bool := 0x40 ≤ b && b ≤ 0x5A

/-- How many bytes a sequence has that begins before the given bytes: a sequence for the first
edition of JIS X 0208 may have a prefix. Nothing if the bytes end too early, and 0 if the sequence
does not end. -/
def sequenceLength (e : Iso2022) : (fuel seen : Nat) → Bytes → Option Nat
  | 0, _, _ => some 0
  | fuel + 1, seen, bytes =>
    if 16 ≤ seen then some 0
    else match bytes with
      | [] => none
      | b :: rest =>
        if isFinal b then some (seen + 1)
        else if !e.shifts && b == 0x26 && rest.head? == some 0x40 then
          sequenceLength e fuel (seen + 3) (rest.drop 2)
        else sequenceLength e fuel (seen + 1) rest

/-- A place for a set. -/
inductive Place where
  | first
  | second
  | third
  deriving DecidableEq, Repr

/-- Names a set. -/
def Reading.name (state : Reading) (place : Place) (set : Option Designation) : Reading :=
  match place with
  | .first => { state with first := set }
  | .second => { state with second := set }
  | .third => { state with third := set }

/-- The set that a byte names in an encoding, where nothing stands for ASCII. -/
def named? (e : Iso2022) (wide : Bool) (mark : UInt8) : Option (Option Designation) :=
  if !wide && mark == 0x42 then some none
  else
    (e.designations.find? fun d => !d.isPart && d.isWide == wide && d.mark == mark).map some

/-- The place and the mark that a full sequence names, and whether codes have two bytes. -/
def sequence? (e : Iso2022) : Bytes → Option (Place × Bool × UInt8)
  | [0x1B, 0x24, mark] => some (.first, true, mark)
  | [0x1B, 0x28, mark] => some (.first, false, mark)
  | [0x1B, 0x29, mark] => some (.second, false, mark)
  | [0x1B, 0x2E, mark] => if e.hasThird then some (.third, false, mark) else none
  | [0x1B, 0x24, 0x28, mark] => some (.first, true, mark)
  | [0x1B, 0x24, 0x29, mark] => some (.second, true, mark)
  | [0x1B, _, _, 0x1B, 0x24, 0x42] => if e.shifts then none else some (.first, true, 0x42)
  | _ => none

/-- An escape sequence that names a set, from its first byte on. -/
def readSequence (e : Iso2022) (state : Reading) (bytes : Bytes) : Item :=
  match e.sequenceLength 16 1 (bytes.drop 1) with
  | none => .incomplete
  | some 0 => .illegal 1
  | some length =>
    match e.sequence? (bytes.take length) with
    | none => .illegal length
    | some (place, wide, mark) =>
      match e.named? wide mark with
      | some set => .switch length (state.name place set)
      | none => .illegal length

/-- The Greek letter of a byte of ISO 8859-7, as of its first edition. -/
def greek? (b : Nat) : Option Char :=
  if b < 0xA0 then some (Char.ofNat b)
  else if [0xA0, 0xA3, 0xA6, 0xA7, 0xA8, 0xA9, 0xAB, 0xAC, 0xAD, 0xB0, 0xB1, 0xB2, 0xB3, 0xB7, 0xBB,
      0xBD].contains b then some (Char.ofNat b)
  else if 0xB4 ≤ b && b ≤ 0xFE && b != 0xD2 then some (Char.ofNat (0x2D0 + b))
  else if b == 0xA1 then some '\u2018'
  else if b == 0xA2 then some '\u2019'
  else if b == 0xAF then some '\u2015'
  else none

/-- A single character of the third set, by its byte. -/
def readThird (state : Reading) (b : UInt8) : Item :=
  let item (c : Option Char) : Item :=
    match c with
    | some c => .text 3 [c]
    | none => .illegal 3
  match state.third with
  | none => item (if b < 0x80 then some (Char.ofNat b.toNat) else none)
  | some .latin1 => item (if b < 0x80 then some (Char.ofNat (b.toNat + 0x80)) else none)
  | some .greek => item (greek? (b ^^^ 0x80).toNat)
  | some _ => .broken

/-- A character of the set that is in use. -/
def readCode (indices : List (Designation × CodeIndex)) (set : Designation) (bytes : Bytes) :
    Item :=
  let width := if set.isWide then 2 else 1
  match Bytes.take? width bytes with
  | none => .incomplete
  | some (code, _) =>
    match indices.find? (·.1 == set) with
    | none => .illegal width
    | some (_, index) =>
      match index.text? code.number with
      | some text => .text width text
      | none => .illegal width

/-- What stands **at a place in the bytes**. -/
def read (e : Iso2022) (indices : List (Designation × CodeIndex)) (state : Reading) (b : UInt8)
    (rest : Bytes) : Item :=
  let plain : Item := .text 1 [Char.ofNat b.toNat]
  if state.foreign then plain
  else if b == esc then
    match rest with
    | [] => .incomplete
    | c :: rest' =>
      if c == 0x28 || c == 0x29 || c == 0x24 || c == 0x2E || c == 0x26 then
        e.readSequence state (b :: rest)
      else if e.hasThird && c == 0x4E then
        match rest' with
        | [] => .incomplete
        | d :: _ => readThird state d
      else plain
  else if e.shifts && b == shiftIn then .switch 1 { state with shifted := false }
  else if e.shifts && b == shiftOut then .switch 1 { state with shifted := true }
  else if b < 0x20 then plain
  else if 0x80 ≤ b then .illegal 1
  else
    match if state.shifted then state.second else state.first with
    | none => plain
    | some set => readCode indices set (b :: rest)

/-- The state behind a byte that stands for a character by itself: a foreign sequence begins with an
escape and ends with a letter, and a line ends what is shifted to. -/
def Reading.after (state : Reading) (b : UInt8) : Reading :=
  if state.foreign then { state with foreign := !isFinal b }
  else if b == esc then { state with foreign := true }
  else if b == 0x0A then { state with shifted := false }
  else state

/-- Why bytes are not read. -/
inductive Fault where
  | refused (run : Refusal)
  /-- A set is in use for single characters that cannot be. -/
  | broken
  deriving DecidableEq, Repr

/-- Reads byte by byte; `skip` bytes are part of what was read last. -/
def decodeFrom (e : Iso2022) (indices : List (Designation × CodeIndex)) (state : Reading)
    (offset skip : Nat) (done : List Char) : Bytes → Except Fault (List Char)
  | [] => .ok done.reverse
  | b :: rest =>
    match skip with
    | skip + 1 => decodeFrom e indices state (offset + 1) skip done rest
    | 0 =>
      match e.read indices state b rest with
      | .switch length state =>
        decodeFrom e indices state (offset + 1) (length - 1) done rest
      | .text length text =>
        let state := if length == 1 then state.after b else state
        decodeFrom e indices state (offset + 1) (length - 1) (text.reverseAux done) rest
      | .illegal length => .error (.refused ⟨offset, length, MultiByte.illegal⟩)
      | .incomplete => .error (.refused ⟨offset, 1 + rest.length, MultiByte.incomplete⟩)
      | .broken => .error .broken

/-- The **text of the bytes**, or why there is none. -/
def decode (e : Iso2022) (bytes : Bytes) : Except Fault (List Char) :=
  decodeFrom e e.indices ⟨none, none, none, false, false⟩ 0 0 [] bytes

end Iso2022

end Drift
