/-!
# Paths

* `Path` — where a path starts and the names on its way; `Path.ofString` leaves out empty parts and
  single dots, and keeps double dots.
* `Path.text` — the path as text; the path without parts that starts here is a dot.
* `Path.join`, `Path.child`, `Path.parent`, `Path.name` — moving between paths.
* `Path.extension` — the part of the last name behind its last dot.
-/

namespace Drift

/-- Where a path **starts**. -/
inductive Anchor where
  /-- In the current directory. -/
  | here
  /-- At the root. -/
  | root
  /-- At the root, written with two slashes. -/
  | doubleRoot
  deriving DecidableEq, Repr

/-- A **path**: where it starts, and the names on its way. -/
structure Path where
  anchor : Anchor
  parts : List String
  deriving DecidableEq, Repr

namespace Path

/-! ## From text and back -/

/-- The anchor of a text: exactly two slashes at its beginning are kept apart from one, and more
count as one. -/
def anchorOf : List Char → Anchor
  | '/' :: '/' :: '/' :: _ => .root
  | '/' :: '/' :: _ => .doubleRoot
  | '/' :: _ => .root
  | _ => .here

/-- The names between the slashes. Empty names and single dots lead nowhere and are left out. -/
def partsOf (s : List Char) : List String :=
  ((s.splitOn '/').filter fun part => part ≠ [] ∧ part ≠ ['.']).map String.ofList

/-- The path that a text spells. -/
def ofString (s : String) : Path := ⟨anchorOf s.toList, partsOf s.toList⟩

/-- The text of an anchor. -/
def anchorText : Anchor → String
  | .here => ""
  | .root => "/"
  | .doubleRoot => "//"

/-- The path **as text**. -/
def text (p : Path) : String :=
  match p.anchor, p.parts with
  | .here, [] => "."
  | anchor, parts => anchorText anchor ++ "/".intercalate parts

/-- The length of the text in bytes. -/
def byteLength (p : Path) : Nat := p.text.utf8ByteSize

/-- The path starts at the root. -/
def isAbsolute (p : Path) : Bool := p.anchor != .here

/-! ## Moving about -/

/-- The path `q` seen from `p`. -/
def join (p q : Path) : Path := if q.isAbsolute then q else ⟨p.anchor, p.parts ++ q.parts⟩

/-- The path one name further down. -/
def child (p : Path) (name : String) : Path := ⟨p.anchor, p.parts ++ [name]⟩

/-- The path without its last name. -/
def parent (p : Path) : Path := ⟨p.anchor, p.parts.dropLast⟩

/-- The last name, empty when there is none. -/
def name (p : Path) : String := p.parts.getLast?.getD ""

/-! ## Extensions -/

/-- The part of a name behind its last dot, empty when there is no dot, when it is the first
character, or when it is the last one. -/
def extensionOf (name : List Char) : List Char :=
  let tail := (name.reverse.takeWhile (· != '.')).reverse
  if tail.length + 1 < name.length then tail else []

/-- The **extension** of the last name. -/
def extension (p : Path) : List Char := extensionOf p.name.toList

end Path

end Drift
