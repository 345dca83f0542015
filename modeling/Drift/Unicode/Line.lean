import Drift.Unicode.CharSet

/-!
# Lines

* `Unicode.endsLine` — the characters behind which a line ends.
* `Unicode.lines` — the lines of a text, without the characters that end them.
-/

namespace Drift.Unicode

/-- The characters that end a line: those from line feed to carriage return, three of the
information separators, the next line, and the line and paragraph separators. -/
def lineEnds : CharSet :=
  [(0xA, 0xD), (0x1C, 0x1E), (0x85, 0x85), (0x2028, 0x2029)]

/-- A line ends behind the character. -/
def endsLine (c : Char) : Bool := lineEnds.contains c

/-- The lines of a text. The line that has begun is `current`, its last character first; the lines
before it are `done`, the last one first. -/
def linesFrom (done : List (List Char)) (current : List Char) : List Char → List (List Char)
  | [] => (if current.isEmpty then done else current.reverse :: done).reverse
  | '\r' :: '\n' :: rest => linesFrom (current.reverse :: done) [] rest
  | c :: rest =>
    if endsLine c then linesFrom (current.reverse :: done) [] rest
    else linesFrom done (c :: current) rest

/-- The **lines of a text**. A carriage return and the line feed behind it end one line, and nothing
follows the last end. -/
def lines (s : List Char) : List (List Char) := linesFrom [] [] s

end Drift.Unicode
