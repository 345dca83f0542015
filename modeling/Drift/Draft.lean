import Drift.Extraction
import Drift.Json.Literal
import Drift.Point
import Drift.Report
import Drift.Snapshot.Stream

/-!
# Drafts of regions

A caller may describe a region by values of any kind. Such a draft is told apart from others,
recorded and reported as a region is, as far as its values allow.

* `Draft` — the parts of a region, whatever they are; `Draft.ofParts` checks its points only, and
  `Draft.ofRegion` is the draft of a region.
* `Draft.between`, `Draft.common` — how lists of drafts differ, when their parts can be looked up.
* `Draft.encode` — the payload of a list of drafts; that of regions is theirs (`encode_ofRegion`).
* `Draft.record`, `Draft.listing`, `Draft.report` — drafts as literals and as text.
-/

namespace Drift

namespace Point

/-- The point of a list of two numbers. -/
def ofPair : Literal → Except Fault Point
  | .list [row, column] => ofCoordinates row column
  | _ => .error .wrongForm

/-- The points are equal, number by number. -/
def same (p q : Point) : Bool := p.row.same q.row && p.column.same q.column

/-- The point as a list. -/
def literal (p : Point) : Literal := .list [p.row, p.column]

/-- The point as a dictionary. -/
def record (p : Point) : Literal := .dict [(.text "row", p.row), (.text "column", p.column)]

end Point

/-- The **parts of a region**, whatever they are; only the points are numbers. -/
structure Draft where
  path : Literal
  comment : Literal
  content : Literal
  start : Point
  stop : Point

namespace Draft

/-- The draft of some parts. The first point is found to be one before the second is looked at. -/
def ofParts (path comment content start stop : Literal) : Except Fault Draft := do
  let start ← Point.ofPair start
  let stop ← Point.ofPair stop
  return ⟨path, comment, content, start, stop⟩

/-- The **draft of a region**. -/
def ofRegion (r : Region) : Draft where
  path := .text r.path
  comment := .text r.comment
  content := .text r.content
  start := .ofPosition r.start
  stop := .ofPosition r.stop

/-- The numbers of the first and the last line. -/
def lineRange (d : Draft) : Literal × Literal := (d.start.line, d.stop.line)

/-- The draft as a list of its parts. -/
def literal (d : Draft) : Literal :=
  .list [d.path, d.comment, d.content, d.start.literal, d.stop.literal]

/-- The draft **as a dictionary**. -/
def record (d : Draft) : Literal :=
  .dict
    [(.text "path", d.path), (.text "annotation", d.comment), (.text "content", d.content),
     (.text "start", d.start.record), (.text "end", d.stop.record)]

/-! ## Comparing -/

/-- Two drafts are equal when all their parts are. -/
instance : BEq Draft where
  beq a b :=
    a.path.same b.path && a.comment.same b.comment && a.content.same b.content
      && a.start.same b.start && a.stop.same b.stop

/-- The draft can be looked up: none of its parts can change. -/
def isFixed (d : Draft) : Bool := d.path.isFixed && d.comment.isFixed && d.content.isFixed

/-- The drafts, if all of them can be looked up. -/
def fixed (ds : List Draft) : Except Fault (List Draft) :=
  if ds.all isFixed then .ok ds else .error .wrongForm

/-- How many different drafts there are. -/
def distinct (ds : List Draft) : Except Fault Nat := return (← fixed ds).eraseDups.length

/-- What lies **between an old and a new list** of drafts. -/
def between (old new : List Draft) : Except Fault (Difference Draft) :=
  return .between (← fixed old) (← fixed new)

/-- The drafts of an old list that a new one has as well. -/
def common (old new : List Draft) : Except Fault (List Draft) :=
  return Drift.common (← fixed old) (← fixed new)

/-! ## Recording -/

/-- The **payload** of a list of drafts. -/
def encode (ds : List Draft) : Except MessagePack.WriteFault Bytes :=
  MessagePack.pack
    (.array [.text Snapshot.mark, .int Snapshot.version,
      .array (ds.map fun d => .ofLiteral d.literal)])

section

open MessagePack

theorem packAt_text {depth : Nat} (h : depth ≤ depthLimit) (s : String) :
    packAt depth (.text s) = text s := by
  rw [packAt, if_neg (Nat.not_lt.2 h)]

theorem packAt_nat {depth : Nat} (h : depth ≤ depthLimit) (n : Nat) :
    packAt depth (.int n) = nat n := by
  rw [packAt, if_neg (Nat.not_lt.2 h)]
  show MessagePack.int n = nat n
  rw [MessagePack.int, if_pos (Int.natCast_nonneg n), Int.toNat_natCast]

theorem packAt_position {depth : Nat} (h : depth < depthLimit) (p : Position) :
    packAt depth (.ofLiteral (Point.ofPosition p).literal) = Snapshot.encodePosition p := by
  show packAt depth (.array [.int p.row, .int p.column]) = _
  rw [packAt, if_neg (Nat.not_lt.2 (Nat.le_of_lt h))]
  simp only [packItems, packAt_nat h, Snapshot.encodePosition, List.length_cons, List.length_nil]
  cases arrayHead 2 <;> cases nat p.row <;> cases nat p.column <;>
    simp [bind, Except.bind, pure, Except.pure]

theorem packAt_ofRegion {depth : Nat} (h : depth + 1 < depthLimit) (r : Region) :
    packAt depth (.ofLiteral (ofRegion r).literal) = Snapshot.encodeRegion r := by
  have h' : depth + 1 ≤ depthLimit := Nat.le_of_lt h
  show packAt depth (.array [.text r.path, .text r.comment, .text r.content,
    .ofLiteral (Point.ofPosition r.start).literal,
    .ofLiteral (Point.ofPosition r.stop).literal]) = _
  rw [packAt, if_neg (Nat.not_lt.2 (Nat.le_of_succ_le h'))]
  simp only [packItems, packAt_text h', packAt_position h, Snapshot.encodeRegion,
    List.length_cons, List.length_nil]
  cases arrayHead 5 <;> cases text r.path <;> cases text r.comment <;> cases text r.content <;>
    cases Snapshot.encodePosition r.start <;> cases Snapshot.encodePosition r.stop <;>
    simp [bind, Except.bind, pure, Except.pure]

theorem packItems_ofRegion {depth : Nat} (h : depth + 1 < depthLimit) (done : List Bytes)
    (rs : List Region) :
    packItems depth done (rs.map fun r => .ofLiteral (ofRegion r).literal)
      = Snapshot.encodeOnto done rs := by
  induction rs generalizing done with
  | nil => rw [List.map_nil, packItems, Snapshot.encodeOnto]
  | cons r rs ih =>
    rw [List.map_cons, packItems, Snapshot.encodeOnto, packAt_ofRegion h]
    cases Snapshot.encodeRegion r with
    | error fault => rfl
    | ok bytes => exact ih _

/-- The payload of the drafts of regions is **the payload of the regions**. -/
theorem encode_ofRegion (rs : List Region) : encode (rs.map ofRegion) = Snapshot.encode rs := by
  rw [encode, pack, packAt, if_neg (by decide), Snapshot.encode]
  simp only [packItems, List.map_map, Function.comp_def]
  rw [packAt_text (by decide), packAt_nat (by decide), packAt, if_neg (by decide)]
  simp only [packItems_ofRegion (by decide : 1 + 1 + 1 < depthLimit), List.length_map,
    List.length_cons, List.length_nil]
  cases arrayHead 3 <;> cases text Snapshot.mark <;> cases nat Snapshot.version <;>
    cases arrayHead rs.length <;> cases Snapshot.encodeOnto [] rs <;>
    simp [bind, Except.bind, pure, Except.pure]

end

/-! ## Reporting -/

/-- The least number that has too many digits to be written. -/
def digitBound : Nat := Nat.pow 10 Json.digitLimit

/-- The value can be written. -/
def isWritable : Literal → Bool
  | .int n => n.natAbs < digitBound
  | _ => true

/-- The line of a changed draft. -/
def line (mark : Char) (d : Draft) : String :=
  Report.changeLine mark d.path.inSentence d.lineRange.1.inSentence d.lineRange.2.inSentence

/-- The **lines of a difference** between drafts, if all their numbers can be written. -/
def report (d : Difference Draft) : Except Fault (List String) :=
  if (d.removed ++ d.added).all fun d => isWritable d.lineRange.1 && isWritable d.lineRange.2 then
    .ok (Report.linesBy line d)
  else .error .tooManyDigits

mutual

/-- None of the numbers in a value has too many digits to be written. -/
def isPrintable : Json.Value → Bool
  | .int n => n.natAbs < digitBound
  | .list items => itemsPrintable items
  | .object members => membersPrintable members
  | _ => true

/-- Neither has any in the items of a list. -/
def itemsPrintable : List Json.Value → Bool
  | [] => true
  | v :: vs => isPrintable v && itemsPrintable vs

/-- Neither has any in the members of an object. -/
def membersPrintable : Json.Members → Bool
  | [] => true
  | (_, v) :: ms => isPrintable v && membersPrintable ms

end

/-- Drafts as an **indented JSON list**, if their parts have a form in JSON and all their numbers can
be written. -/
def listing (ds : List Draft) : Except Fault String :=
  match Json.ofItems? (ds.map record) with
  | none => .error .wrongForm
  | some items =>
    if itemsPrintable items then .ok (Json.render Report.listingStyle (.list items))
    else .error .tooManyDigits

end Draft

/-! ## Trees -/

namespace Literal

/-- The offset that a value stands for; without one it is the given end of the data. -/
def offset (absent : Int) : Literal → Except Fault Int
  | none => .ok absent
  | int n => .ok n
  | bool b => .ok (if b then 1 else 0)
  | _ => .error .wrongForm

/-- The number of a row's line, counted from one. -/
def lineOfRow : Literal → Except Fault Literal
  | bool b => .ok (.int (if b then 2 else 1))
  | int n => .ok (.int (n + 1))
  | float x => .ok (.float x.addOne)
  | _ => .error .wrongForm

end Literal

/-- **Values of any kind** measure a tree as far as they are numbers. -/
instance : Measure Literal Draft where
  slice bytes start stop :=
    return bytes.slice (← start.offset 0) (← stop.offset bytes.length)
  line := Literal.lineOfRow
  region path comment content start stop := do
    let start ← Point.ofCoordinates start.1 start.2
    let stop ← Point.ofCoordinates stop.1 stop.2
    return ⟨.text path, .text comment, .text content, start, stop⟩

end Drift
