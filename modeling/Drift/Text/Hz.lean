import Drift.Text.MultiByte

/-!
# The encoding HZ

Hanzi of GB 2312 stand between `~` with an opening brace and `~` with a closing one; outside of
these, two tildes stand for one.

* `Hz.encode`, `Hz.decode` — from text to bytes and back, or the first refused run.
-/

namespace Drift.Hz

/-- The bytes before hanzi. -/
def opening : Bytes := [0x7E, 0x7B]

/-- The bytes behind hanzi. -/
def closing : Bytes := [0x7E, 0x7D]

/-- The codes of the hanzi. -/
def index : CodeIndex := .ofCodes CharacterSet.gb2312.codes

/-- Writes character by character, inside or outside of hanzi. -/
def encodeFrom (index : CodeIndex) (inside : Bool) (offset : Nat) (done : Bytes) :
    List Char → Except Refusal Bytes
  | [] => .ok (if inside then closing.reverseAux done else done).reverse
  | c :: rest =>
    if c.toNat < 0x80 then
      let done := UInt8.ofNat c.toNat :: if inside then closing.reverseAux done else done
      encodeFrom index false (offset + 1) (if c == '~' then 0x7E :: done else done) rest
    else
      match index.code? c with
      | some code =>
        let done := if inside then done else opening.reverseAux done
        encodeFrom index true (offset + 1) (MultiByte.writeOnto done code) rest
      | none => .error ⟨offset, 1, MultiByte.illegal⟩

/-- The **bytes of a text**, or the first character that has none. -/
def encode (text : List Char) : Except Refusal Bytes := encodeFrom index false 0 [] text

/-- Reads byte by byte, inside or outside of hanzi. -/
def decodeFrom (index : CodeIndex) (inside : Bool) (offset : Nat) (done : List Char) :
    Bytes → Except Refusal (List Char)
  | [] => .ok done.reverse
  | [b] =>
    if 0x80 ≤ b then .error ⟨offset, 1, MultiByte.illegal⟩
    else if inside || b == 0x7E then .error ⟨offset, 1, MultiByte.incomplete⟩
    else .ok (Char.ofNat b.toNat :: done).reverse
  | b :: c :: rest =>
    if b == 0x7E then
      if !inside && c == 0x7E then decodeFrom index inside (offset + 2) ('~' :: done) rest
      else if !inside && c == 0x7B then decodeFrom index true (offset + 2) done rest
      else if !inside && c == 0x0A then decodeFrom index inside (offset + 2) done rest
      else if inside && c == 0x7D then decodeFrom index false (offset + 2) done rest
      else .error ⟨offset, 1, MultiByte.illegal⟩
    else if 0x80 ≤ b then .error ⟨offset, 1, MultiByte.illegal⟩
    else if inside then
      match index.text? (b.toNat * 256 + c.toNat) with
      | some text => decodeFrom index inside (offset + 2) (text.reverseAux done) rest
      | none => .error ⟨offset, 1, MultiByte.illegal⟩
    else decodeFrom index inside (offset + 1) (Char.ofNat b.toNat :: done) (c :: rest)

/-- The **text of the bytes**, or the first bytes that stand for none. -/
def decode (bytes : Bytes) : Except Refusal (List Char) := decodeFrom index false 0 [] bytes

end Drift.Hz
