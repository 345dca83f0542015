import Drift.Extensions
import Drift.Point

/-!
# Arguments of any kind

A caller may hand over a value of any kind where texts are needed. What it is shows when it is used.

* `Argument.text`, `Argument.parts` — the text that a value is, and the parts that it has.
* `Argument.extensions` — the arguments that name extensions.
* `Argument.areComments` — whether nodes of some kinds are comments.
* `Argument.repeated` — a value over and over.
* `Argument.bytes` — the bytes that a text spells in hexadecimal digits.
-/

namespace Drift.Argument

/-- The text that a value is, when it is asked for an operation that texts have. -/
def text (operation : String) : Literal → Except Fault String
  | .text s => .ok s
  | v => .error (.argument (.lacks v.kind operation))

/-- The text that a value is, when nothing else will do. -/
def onlyText : Literal → Except Fault String
  | .text s => .ok s
  | _ => .error .wrongForm

/-- The text of a path. -/
def path : Literal → Except Fault String
  | .text s => .ok s
  | v => .error (.argument (.noPath v.kind))

/-- The **parts of a value**. -/
def parts (v : Literal) : Except Fault (List Literal) :=
  match Point.parts? v with
  | some vs => .ok vs
  | none => .error (.argument (.noParts v.kind))

/-- The parts of a value, which must be this many. -/
def exactly (n : Nat) (v : Literal) : Except Fault (List Literal) := do
  let vs ← parts v
  if vs.length < n then throw (.argument (.tooFewParts n vs.length))
  if n < vs.length then throw (.argument (.tooManyParts n))
  return vs

/-- The arguments that **name extensions**: the parts of a value, each a text. -/
def extensions (v : Literal) : Except Fault (List String) := do (← parts v).mapM (text "split")

/-- A value that can be looked up. -/
def fixed (v : Literal) : Except Fault Literal := if v.isFixed then .ok v else .error .wrongForm

/-- Values that can be looked up. -/
def allFixed (v : Literal) : Except Fault (List Literal) := do (← parts v).mapM fixed

/-- Whether nodes of some kinds **are comments**, given the kinds that are. -/
def areComments (comments kinds : List Literal) : Except Fault (List Bool) :=
  kinds.mapM fun kind => return comments.any ((← fixed kind).same)

/-- How often a value says that another one comes. -/
def count : Literal → Except Fault Nat
  | .int n => .ok n.toNat
  | .bool b => .ok (if b then 1 else 0)
  | _ => .error .wrongForm

/-- A text or a list **over and over**. -/
def repeated (v times : Literal) : Except Fault Literal :=
  match v with
  | .text s => return .text (String.join (List.replicate (← count times) s))
  | .list items => return .list (List.replicate (← count times) items).flatten
  | _ => .error .wrongForm

/-! ## Digits -/

/-- A blank that may stand before the digits of a byte. -/
def isGap (c : Char) : Bool := c == ' ' || '\t' ≤ c && c ≤ '\r'

/-- The bytes that pairs of digits spell, behind those already read; else the index of the first
character that does not belong. -/
def bytesOnto (done : Bytes) (index : Nat) : List Char → Except Nat Bytes
  | [] => .ok done.reverse
  | [c] =>
    if isGap c then .ok done.reverse
    else .error (if (Json.hexValue? c).isSome then index + 1 else index)
  | c :: d :: rest =>
    if isGap c then bytesOnto done (index + 1) (d :: rest)
    else
      match Json.hexValue? c, Json.hexValue? d with
      | some high, some low => bytesOnto (UInt8.ofNat (high * 16 + low) :: done) (index + 2) rest
      | some _, none => .error (index + 1)
      | none, _ => .error index

/-- The **bytes that a text spells** in hexadecimal digits. A character beyond ASCII is found before
any other that does not belong. -/
def bytes (digits : String) : Except Fault Bytes :=
  let cs := digits.toList
  match cs.findIdx? (0x80 ≤ ·.toNat) with
  | some index => .error (.argument (.noBytes index))
  | none => (bytesOnto [] 0 cs).mapError fun index => .argument (.noBytes index)

end Drift.Argument
