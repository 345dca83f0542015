import Drift.Bytes
import Drift.Text.CharacterSet.Chinese
import Drift.Text.CharacterSet.Japanese
import Drift.Text.CharacterSet.Korean
import Drift.Text.Refusal

/-!
# Encodings with codes of several bytes

Each code stands for itself wherever it is: no code before it changes its meaning.

* `MultiByte` — the encodings by name; `MultiByte.index` — their codes.
* `MultiByte.encode`, `MultiByte.decode` — from text to bytes and back, or the first refused run.
-/

namespace Drift

/-- An encoding with **codes of one or more bytes** that mean the same wherever they are. -/
inductive MultiByte where
  | big5
  | big5Hkscs
  | cp932
  | cp949
  | cp950
  | eucJis (edition : JisX0213)
  | eucJp
  | eucKr
  | gb18030
  | gb2312
  | gbk
  | johab
  | shiftJis
  | shiftJisX0213 (edition : JisX0213)
  deriving DecidableEq, Repr

namespace MultiByte

open CharacterSet

/-- The name by which messages call the encoding. -/
def name : MultiByte → String
  | big5 => "big5"
  | big5Hkscs => "big5hkscs"
  | cp932 => "cp932"
  | cp949 => "cp949"
  | cp950 => "cp950"
  | eucJis .initial => "euc_jisx0213"
  | eucJis .revised => "euc_jis_2004"
  | eucJp => "euc_jp"
  | eucKr => "euc_kr"
  | gb18030 => "gb18030"
  | gb2312 => "gb2312"
  | gbk => "gbk"
  | johab => "johab"
  | shiftJis => "shift_jis"
  | shiftJisX0213 .initial => "shift_jisx0213"
  | shiftJisX0213 .revised => "shift_jis_2004"

/-! ## Codes -/

/-- The look-up of codes with the codes for two characters, moved to where an encoding has them. -/
def paired (place : Nat → Nat) (codes : List (Nat × Char)) : CodeIndex :=
  let moved (pairs : List PairCode) : List PairCode :=
    pairs.map fun pair => { pair with code := place pair.code }
  (CodeIndex.ofCodes codes).pairing (moved JisX0213.pairs) (moved JisX0213.closed)

/-- The codes of Shift JIS in an edition of JIS X 0213. Yen sign and overline stand at the codes
where ASCII has a backslash and a tilde, and these at the codes of their wide forms. -/
def shiftJisCodes (edition : JisX0213) : List (Nat × Char) :=
  let plain := ascii.map fun (code, c) =>
    (code, if c == '\\' then '¥' else if c == '~' then '‾' else c)
  let first := edition.first.map fun (code, c) =>
    (code, if code == 0x2140 then '\\' else if code == 0x2232 then '~' else c)
  plain ++ kana 0xA1 ++ shifted id first ++ shifted JisX0213.secondRow edition.second

/-- The yen sign and the overline are written as the bytes of a backslash and a tilde. -/
def asAscii : List (Char × Nat) := [('¥', 0x5C), ('‾', 0x7E)]

/-- The **codes of an encoding** and the ones that only writing uses. -/
def index : MultiByte → CodeIndex
  | big5 => .ofCodes (ascii ++ big5Codes)
  | big5Hkscs => (CodeIndex.ofCodes (ascii ++ CharacterSet.big5Hkscs)).pairing hkscsPairs []
  | cp932 => .ofCodes CharacterSet.cp932
  | cp949 => .ofCodes (ascii ++ CharacterSet.cp949)
  | cp950 =>
    (CodeIndex.ofCodes (ascii ++ CharacterSet.cp950)).writing [('十', 0xA451), ('卅', 0xA4CA)]
  | eucJis edition =>
    (paired (· + 0x8080)
      (ascii ++ kana 0x8EA1 ++ high edition.first ++ third edition.second
        ++ third jisX0212.codes)).reading edition.unwritten
  | eucJp =>
    (CodeIndex.ofCodes
      (ascii ++ kana 0x8EA1 ++ high jisX0208.codes ++ third jisX0212.codes)).writing asAscii
  | eucKr => .ofCodes (ascii ++ high ksX1001.codes ++ spelled)
  | gb18030 => .ofCodes (ascii ++ CharacterSet.gb18030)
  | gb2312 => .ofCodes (ascii ++ high CharacterSet.gb2312.codes)
  | gbk => .ofCodes (ascii ++ CharacterSet.gbk)
  | johab => .ofCodes (ascii ++ CharacterSet.johab)
  | shiftJis =>
    (CodeIndex.ofCodes (ascii ++ kana 0xA1 ++ shifted id jisX0208.codes)).writing asAscii
  | shiftJisX0213 edition =>
    paired (fun code => shiftCode (code / 256 - 0x21) (code % 256 - 0x21)) (shiftJisCodes edition)

/-- The bytes of a code, behind those already written, of which the last one comes first. -/
def writeOnto (done : Bytes) (code : Nat) : Bytes :=
  let width :=
    if code < 0x100 then 1 else if code < 0x10000 then 2 else if code < 0x1000000 then 3
    else if code < 0x100000000 then 4 else 8
  (Bytes.bigEndian width code).reverseAux done

/-- **How many bytes** the code has that begins with a byte, as far as this byte and the next one
tell. -/
def width (e : MultiByte) (b : UInt8) (next : Option UInt8) : Nat :=
  let between (low high : UInt8) : Bool := low ≤ b && b ≤ high
  match e with
  | shiftJis => if between 0x81 0x9F || between 0xE0 0xEA then 2 else 1
  | cp932 | shiftJisX0213 _ => if between 0x81 0x9F || between 0xE0 0xFC then 2 else 1
  | eucJp | eucJis _ => if b < 0x80 then 1 else if b == 0x8F then 3 else 2
  | eucKr => if b < 0x80 then 1 else if b == 0xA4 && next == some 0xD4 then 8 else 2
  | gb18030 =>
    if b < 0x80 then 1 else if next.any fun c => 0x30 ≤ c && c ≤ 0x39 then 4 else 2
  | _ => if b < 0x80 then 1 else 2

/-- The character behind the basic plane at a code of four bytes. -/
def supplementary? (code : Nat) : Option Char :=
  let fits (b low high : Nat) : Bool := low ≤ b && b ≤ high
  let (a, b, c, d) := (code / 0x1000000, code / 0x10000 % 256, code / 256 % 256, code % 256)
  if fits a 0x90 0xFE && fits b 0x30 0x39 && fits c 0x81 0xFE && fits d 0x30 0x39 then
    let n := (((a - 0x81) * 10 + b - 0x30) * 126 + c - 0x81) * 10 + d - 0x30
    let point := 0x10000 + (n - supplementary)
    if point < 0x110000 then some (Char.ofNat point) else none
  else none

/-- The characters that a code stands for. -/
def text? (e : MultiByte) (index : CodeIndex) (code : Nat) : Option (List Char) :=
  match e with
  | gb18030 => index.text? code <|> (supplementary? code).map fun c => [c]
  | _ => index.text? code

/-- The code at the beginning of a text, and how many characters it stands for. -/
def next? (e : MultiByte) (index : CodeIndex) (c : Char) (rest : List Char) : Option (Nat × Nat) :=
  match e with
  | gb18030 =>
    if c.toNat < 0x10000 then index.next? c rest
    else some (fourByteCode (supplementary + (c.toNat - 0x10000)), 1)
  | _ => index.next? c rest

/-- How many bytes are refused together where a code stands for nothing: one, and both of a code
that a later edition has. -/
def refused (e : MultiByte) (code : Nat) : Nat :=
  match e with
  | eucJis .initial => if JisX0213.recent.any (· + 0x8080 == code) then 2 else 1
  | shiftJisX0213 .initial =>
    if JisX0213.recent.any fun c => shiftCode (c / 256 - 0x21) (c % 256 - 0x21) == code then 2
    else 1
  | _ => 1

/-! ## From text to bytes -/

/-- Why a code or a character is refused. -/
def illegal : String := "illegal multibyte sequence"

/-- Why the last bytes are refused that begin a longer code. -/
def incomplete : String := "incomplete multibyte sequence"

/-- Writes character by character; `skip` characters are part of the code written last. -/
def encodeFrom (e : MultiByte) (index : CodeIndex) (offset skip : Nat) (done : Bytes) :
    List Char → Except Refusal Bytes
  | [] => .ok done.reverse
  | c :: rest =>
    match skip with
    | skip + 1 => encodeFrom e index (offset + 1) skip done rest
    | 0 =>
      match e.next? index c rest with
      | some (code, length) =>
        encodeFrom e index (offset + 1) (length - 1) (writeOnto done code) rest
      | none => .error ⟨offset, 1, illegal⟩

/-- The **bytes of a text**, or the first character that has none. -/
def encode (e : MultiByte) (text : List Char) : Except Refusal Bytes :=
  encodeFrom e e.index 0 0 [] text

/-! ## From bytes to text -/

/-- Reads byte by byte; `skip` bytes are part of the code read last. -/
def decodeFrom (e : MultiByte) (index : CodeIndex) (offset skip : Nat) (done : List Char) :
    Bytes → Except Refusal (List Char)
  | [] => .ok done.reverse
  | b :: rest =>
    match skip with
    | skip + 1 => decodeFrom e index (offset + 1) skip done rest
    | 0 =>
      let width := e.width b rest.head?
      match Bytes.take? (width - 1) rest with
      | none => .error ⟨offset, 1 + rest.length, incomplete⟩
      | some (more, _) =>
        let code := Bytes.number (b :: more)
        match e.text? index code with
        | some text => decodeFrom e index (offset + 1) (width - 1) (text.reverseAux done) rest
        | none => .error ⟨offset, e.refused code, illegal⟩

/-- The **text of the bytes**, or the first bytes that stand for none. -/
def decode (e : MultiByte) (bytes : Bytes) : Except Refusal (List Char) :=
  decodeFrom e e.index 0 0 [] bytes

end MultiByte

end Drift
