import Drift.MessagePack.Reader
import Drift.MessagePack.Writer
import Drift.Region

/-!
# Snapshot payloads

A snapshot's payload is one message: an array of the mark `control-log`, the format version and the
list of regions; a region is an array of its path, annotation, content, start and end.

* `Snapshot.encode` — the payload of a list of regions.
* `Snapshot.decode` — the regions of a payload; every part is checked, the first fault is named.
* `Snapshot.Fault` — why a payload is refused.
-/

namespace Drift.Snapshot

/-- The first element of every payload. -/
def mark : String := "control-log"

/-- The format version that is written, and the only one that is read. -/
def version : Nat := 1

/-! ## Writing -/

open MessagePack in
/-- A position: an array of row and column. -/
def encodePosition (p : Position) : Except WriteFault Bytes := do
  let head ← arrayHead 2
  let row ← nat p.row
  let column ← nat p.column
  return head ++ row ++ column

open MessagePack in
/-- A region: an array of its five parts. -/
def encodeRegion (r : Region) : Except WriteFault Bytes := do
  let head ← arrayHead 5
  let path ← text r.path
  let comment ← text r.comment
  let content ← text r.content
  let start ← encodePosition r.start
  let stop ← encodePosition r.stop
  return head ++ path ++ comment ++ content ++ start ++ stop

/-- The regions one after the other, behind those already written. -/
def encodeOnto (done : List Bytes) : List Region → Except MessagePack.WriteFault Bytes
  | [] => .ok done.reverse.flatten
  | r :: rest =>
    match encodeRegion r with
    | .error fault => .error fault
    | .ok bytes => encodeOnto (bytes :: done) rest

open MessagePack in
/-- The **payload** of a list of regions. -/
def encode (regions : List Region) : Except WriteFault Bytes := do
  let head ← arrayHead 3
  let name ← text mark
  let number ← nat version
  let count ← arrayHead regions.length
  let body ← encodeOnto [] regions
  return head ++ name ++ number ++ count ++ body

/-! ## Reading -/

/-- One of the two positions of a region. -/
inductive Corner where
  | start
  | stop
  deriving DecidableEq, Repr

/-- Why a payload is **refused**. -/
inductive Fault where
  /-- It is no message. -/
  | message (fault : MessagePack.Fault)
  /-- It is no array of three that begins with the mark. -/
  | notALog
  /-- Its version is this one. -/
  | version (found : MessagePack.Value)
  /-- Its third element is no list. -/
  | noRegions
  /-- The region of this index is no array of five. -/
  | fields (index : Nat)
  /-- One of the first three parts of the region is no text. -/
  | texts (index : Nat)
  /-- A position of the region is no pair of non-negative whole numbers. -/
  | position (index : Nat) (corner : Corner)

namespace Fault

/-- The words for a fault. -/
def reason : Fault → String
  | message fault => fault.message
  | notALog => "not a control log"
  | version found =>
    String.join
      ["unsupported snapshot version ", found.literal.render, " (expected ",
       toString Snapshot.version, ")"]
  | noRegions => "region list missing"
  | fields index => String.join ["region ", toString index, ": expected 5 fields"]
  | texts index =>
    String.join ["region ", toString index, ": path, annotation and content must be strings"]
  | position index .start => String.join ["region ", toString index, ": malformed start position"]
  | position index .stop => String.join ["region ", toString index, ": malformed end position"]

end Fault

open MessagePack (Value)

/-- A position: a pair of whole numbers that are not negative. -/
def position? (v : Value) : Option Position :=
  match v.parts? with
  | some [.int row, .int column] =>
    if 0 ≤ row ∧ 0 ≤ column then some ⟨row.toNat, column.toNat⟩ else none
  | _ => none

/-- The region of an index, checked part by part. -/
def decodeRegion (index : Nat) (v : Value) : Except Fault Region :=
  match v.parts? with
  | some [path, comment, content, start, stop] =>
    match path, comment, content with
    | .text path, .text comment, .text content =>
      match position? start with
      | none => .error (.position index .start)
      | some start =>
        match position? stop with
        | none => .error (.position index .stop)
        | some stop => .ok ⟨path, comment, content, start, stop⟩
    | _, _, _ => .error (.texts index)
  | _ => .error (.fields index)

/-- The regions from an index on, behind those already read. -/
def decodeOnto (done : List Region) (index : Nat) : List Value → Except Fault (List Region)
  | [] => .ok done.reverse
  | v :: rest =>
    match decodeRegion index v with
    | .error fault => .error fault
    | .ok r => decodeOnto (r :: done) (index + 1) rest

/-- The regions of a payload's value. -/
def ofValue (v : Value) : Except Fault (List Region) :=
  match v.parts? with
  | some [.text name, number, list] =>
    if name ≠ mark then .error .notALog
    else if !number.isOne then .error (.version number)
    else match list.parts? with
      | none => .error .noRegions
      | some items => decodeOnto [] 0 items
  | _ => .error .notALog

/-- The **regions of a payload**. -/
def decode (payload : Bytes) : Except Fault (List Region) :=
  match MessagePack.unpack payload with
  | .error fault => .error (.message fault)
  | .ok v => ofValue v

end Drift.Snapshot
