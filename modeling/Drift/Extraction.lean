import Drift.ControlComment
import Drift.Logged
import Drift.Source
import Drift.SyntaxTree

/-!
# Extraction

* `Measure` — how the numbers that a tree is measured in lead to bytes, lines and regions.
* `Finding` — what a comment turns out to be: no annotation, an annotation with nothing to mark, or
  a region.
* `Extraction.extract` — the regions of one source, by the syntax tree that a parser gives for its
  bytes.
* `Extraction.extractAll` — the regions of several sources, in their order.
-/

namespace Drift

/-! ## Measures -/

/-- How numbers of kind `ν`, in which trees are measured, **lead to regions** of kind `ρ`. -/
class Measure (ν : Type) (ρ : outParam Type) where
  /-- The bytes between two offsets. -/
  slice : Bytes → (start stop : ν) → Except Fault Bytes
  /-- The number of a row's line, counted from one. -/
  line : (row : ν) → Except Fault Literal
  /-- The region between two points. -/
  region : (path comment content : String) → (start stop : ν × ν) → Except Fault ρ

/-- The position of a point of a tree. -/
def Position.ofPair (point : Int × Int) : Except Fault Position :=
  (ofCoordinates point.1 point.2).mapError .point

/-- The region between two points of a tree, each of which has to be a position. -/
def Region.ofPairs (path comment content : String) (start stop : Int × Int) :
    Except Fault Region := do
  let start ← Position.ofPair start
  let stop ← Position.ofPair stop
  return ⟨path, comment, content, start, stop⟩

/-- **Whole numbers** count bytes, rows and columns. -/
instance : Measure Int Region where
  slice bytes start stop := .ok (bytes.slice start stop)
  line row := .ok (.int (row + 1))
  region := Region.ofPairs

variable {ν ρ : Type}

/-- A parser gives a tree for the bytes of a source, or none. -/
abbrev Parse (ν : Type) := Bytes → Option (Tree ν)

/-- What a comment turns out to be. -/
inductive Finding (ρ : Type) where
  /-- It is no control annotation. -/
  | remark
  /-- It is an annotation with nothing to mark, in this line. -/
  | alone (line : Literal)
  /-- It marks a region. -/
  | region (r : ρ)

namespace Extraction

/-! ## One comment -/

/-- The comments below the root of a tree, given the kinds that are comments. -/
def comments (kinds : List String) (t : Tree ν) : List (Location ν) :=
  walk (fun l => if ControlComment.isComment kinds l.tree.kind then some l else none) (.root t)

variable [Measure ν ρ]

/-- The text of a node, which is UTF-8 whatever the source's encoding. -/
def nodeText (bytes : Bytes) (t : Tree ν) : Except Fault String := do
  let part ← Measure.slice bytes t.span.startByte t.span.stopByte
  (Utf8.decodeString part).mapError fun fault => .undecodable (Encoding.ofUtf8Fault fault)

/-- The region that an annotation marks. -/
def regionOf (path comment : String) (bytes : Bytes) (target : Tree ν) : Except Fault ρ := do
  let content ← nodeText bytes target
  Measure.region path comment content target.span.startPoint target.span.stopPoint

/-- What a comment **turns out to be**. -/
def judge (path : String) (bytes : Bytes) (comment : Location ν) : Except Fault (Finding ρ) := do
  let text ← nodeText bytes comment.tree
  if !ControlComment.isControl text then return .remark
  match comment.nextNamedSibling? with
  | none => return .alone (← Measure.line comment.tree.span.startPoint.1)
  | some target => return .region (← regionOf path text bytes target.tree)

/-! ## Sources -/

/-- What the comments turn out to be, up to the first that fails, behind those already judged. -/
def judgeOnto (path : String) (bytes : Bytes) (done : List (Finding ρ)) :
    List (Location ν) → List (Finding ρ) × Option Fault
  | [] => (done.reverse, none)
  | l :: rest =>
    match judge path bytes l with
    | .error fault => (done.reverse, some fault)
    | .ok finding => judgeOnto path bytes (finding :: done) rest

/-- The event of a finding. -/
def eventOf? (path : String) : Finding ρ → Option Event
  | .alone line => some (.annotationWithoutSibling path line)
  | _ => none

/-- The region of a finding. -/
def regionOf? : Finding ρ → Option ρ
  | .region r => some r
  | _ => none

/-- The regions of a source with the given bytes and tree. -/
def extractFrom (kinds : List String) (path : String) (bytes : Bytes) (t : Tree ν) :
    Logged (List ρ) :=
  let (findings, fault) := judgeOnto path bytes [] (comments kinds t)
  let events := findings.filterMap (eventOf? path)
  let regions := findings.filterMap regionOf?
  match fault with
  | some f => ⟨events, .error (.fault f)⟩
  | none => ⟨events ++ [.fileExtracted path regions.length], .ok regions⟩

/-- The **regions of one source**. A source that the parser gives no tree for has none. -/
def extract (kinds : List String) (parse : Parse ν) (s : Source) : Logged (List ρ) :=
  match s.bytes with
  | .error fault => .fail (.fault fault)
  | .ok bytes =>
    match parse bytes with
    | none => ⟨[.parseFailed s.path], .ok []⟩
    | some t => extractFrom kinds s.path bytes t

/-- The **regions of several sources**, each with its parser. -/
def extractAll (kinds : List String) (sources : List (Source × Parse ν)) : Logged (List ρ) :=
  Logged.concat (fun (s, parse) => extract kinds parse s) sources

end Extraction

end Drift
