import Drift.Double.Shortest
import Drift.Json.Value
import Drift.Text.Hex

/-!
# Writing JSON

* `Json.Style` — whether characters beyond ASCII are escaped, whether keys are sorted, and whether
  lists and objects spread over several lines.
* `Json.render`, `Json.characters` — a value as text; over several lines with two spaces to a level,
  where an empty list or object stays on one line.
-/

namespace Drift.Json

/-- The choices of a writer. -/
structure Style where
  /-- Everything but printable ASCII is written as escapes. -/
  escapeNonAscii : Bool
  /-- The keys of every object are sorted. -/
  sortKeys : Bool
  /-- Lists and objects spread over several lines. -/
  indented : Bool := true

/-! ## Strings -/

/-- The text `s` behind the text `done`, whose last character comes first; so every text here is
built. -/
def put (s : List Char) (done : List Char) : List Char := s.reverseAux done

/-- A 16-bit unit as an escape. -/
def unitEscape (n : Nat) : List Char := '\\' :: 'u' :: (hex 4 n).toList

/-- A character as one or two escaped units. -/
def escaped (c : Char) : List Char :=
  let n := c.toNat
  if n < 0x10000 then unitEscape n
  else unitEscape (0xD800 + (n - 0x10000) / 1024) ++ unitEscape (0xDC00 + (n - 0x10000) % 1024)

/-- A character inside a JSON string. -/
def stringChar (style : Style) (c : Char) : List Char :=
  if c == '"' then ['\\', '"']
  else if c == '\\' then ['\\', '\\']
  else if c == '\n' then ['\\', 'n']
  else if c == '\r' then ['\\', 'r']
  else if c == '\t' then ['\\', 't']
  else if c == '\x08' then ['\\', 'b']
  else if c == '\x0c' then ['\\', 'f']
  else if c.toNat < 0x20 then escaped c
  else if style.escapeNonAscii && 0x7F ≤ c.toNat then escaped c
  else [c]

/-- A code point inside a JSON string. Half of a surrogate pair is a unit of its own. -/
def stringPoint (style : Style) (point : Nat) : List Char :=
  if isHalf point then unitEscape point else stringChar style (Char.ofNat point)

/-- The characters of a JSON string without its quotes. -/
def putText (style : Style) (done : List Char) : Text → List Char
  | .plain s => s.toList.foldl (fun done c => put (stringChar style c) done) done
  | .broken points => points.foldl (fun done point => put (stringPoint style point) done) done

/-- A JSON string. -/
def putString (style : Style) (t : Text) (done : List Char) : List Char :=
  '"' :: putText style ('"' :: done) t

/-! ## Values -/

/-- Numbers are laid out as in literals; the undefined and the infinite number have names. -/
def floatLayout : Layout where
  least := -4
  bound := 16
  whole := ".0"
  exponentWidth := 2
  undefined := "NaN"
  infinite := "Infinity"

/-- Blanks. -/
def putBlanks : Nat → List Char → List Char
  | 0, done => done
  | n + 1, done => putBlanks n (' ' :: done)

/-- What stands behind an opening bracket and before a closing one: the start of a line at a
level. -/
def putEdge (style : Style) (level : Nat) (done : List Char) : List Char :=
  if style.indented then putBlanks (2 * level) ('\n' :: done) else done

/-- A comma and what stands behind it. -/
def putComma (style : Style) (level : Nat) (done : List Char) : List Char :=
  if style.indented then putEdge style level (',' :: done) else ' ' :: ',' :: done

/-- A key, and what stands between it and its value. -/
def putKey (style : Style) (key : Text) (done : List Char) : List Char :=
  ' ' :: ':' :: putString style key done

mutual

/-- A value at a level of indentation. -/
def putValue (style : Style) (level : Nat) (done : List Char) : Value → List Char
  | .null => put "null".toList done
  | .bool true => put "true".toList done
  | .bool false => put "false".toList done
  | .int n => put (toString n).toList done
  | .float x => put (x.text floatLayout).toList done
  | .text t => putString style t done
  | .list [] => ']' :: '[' :: done
  | .list (v :: rest) =>
    let first := putValue style (level + 1) (putEdge style (level + 1) ('[' :: done)) v
    ']' :: putEdge style level (putItems style (level + 1) first rest)
  | .object [] => '\x7d' :: '\x7b' :: done
  | .object ((key, v) :: rest) =>
    let opened := putKey style key (putEdge style (level + 1) ('\x7b' :: done))
    let first := putValue style (level + 1) opened v
    '\x7d' :: putEdge style level (putMembers style (level + 1) first rest)

/-- The items of a list behind the first one. -/
def putItems (style : Style) (level : Nat) (done : List Char) : List Value → List Char
  | [] => done
  | v :: rest => putItems style level (putValue style level (putComma style level done) v) rest

/-- The members of an object behind the first one. -/
def putMembers (style : Style) (level : Nat) (done : List Char) :
    Members → List Char
  | [] => done
  | (key, v) :: rest =>
    putMembers style level
      (putValue style level (putKey style key (putComma style level done)) v) rest

end

/-! ## The order of keys -/

mutual

/-- The value with the keys of every object in ascending order. -/
def sorted : Value → Value
  | .list items => .list (sortedItems [] items)
  | .object members =>
    .object ((sortedMembers [] members).mergeSort fun a b => a.1.precedes b.1)
  | v => v

/-- The items of a list, each of them sorted, behind those before them. -/
def sortedItems (done : List Value) : List Value → List Value
  | [] => done.reverse
  | v :: rest => sortedItems (sorted v :: done) rest

/-- The members of an object with each value sorted, behind those before them. -/
def sortedMembers (done : Members) : Members → Members
  | [] => done.reverse
  | (key, v) :: rest => sortedMembers ((key, sorted v) :: done) rest

end

/-- The characters of the JSON text of a value. -/
def characters (style : Style) (v : Value) : List Char :=
  (putValue style 0 [] (if style.sortKeys then sorted v else v)).reverse

/-- The value **as JSON text**. -/
def render (style : Style) (v : Value) : String := String.ofList (characters style v)

end Drift.Json
