import Drift.Terminal.Emoji
import Drift.Unicode.Width

/-!
# Messages

What the program says in its own words may hold marks of style: names in brackets. A text that is
passed on in a message keeps its brackets, but names of emoji in it become emoji, and control
characters do not get through.

* `Terminal.pieces` — the parts of a text that are shown one by one: what looks like a mark of style
  is a part, so are the backslashes before it, and so is what stands between.
* `Terminal.message`, `Terminal.messageAfter` — a text as it is shown, alone or behind a heading.
* `Terminal.report` — a text that stands for itself, but sets no colours.
-/

namespace Drift.Terminal

/-! ## Marks of style -/

/-- A style can begin with this character. -/
def opensStyle (c : Char) : Bool :=
  ('a' ≤ c && c ≤ 'z') || c == '#' || c == '/' || c == '@'

/-- What follows an opening bracket is the name of a style, up to the closing bracket. -/
def isStyle : List Char → Bool
  | [] => false
  | c :: rest =>
    opensStyle c &&
      match rest.dropWhile fun d => d != '[' && d != ']' with
      | ']' :: _ => true
      | _ => false

/-- The parts of a text. The part that has begun is `current`, its last character first; it is a
mark of style if `inMark` says so. The parts before it are `done`, the last one first. -/
def piecesFrom (done : List (List Char)) (current : List Char) (inMark : Bool) :
    List Char → List (List Char)
  | [] => (current.reverse :: done).reverse
  | c :: rest =>
    if inMark then
      if c == ']' then piecesFrom ((c :: current).reverse :: done) [] false rest
      else piecesFrom done (c :: current) true rest
    else if c == '[' && isStyle rest then
      let slashes := current.takeWhile (· == '\\')
      let before := (current.dropWhile (· == '\\')).reverse
      piecesFrom (slashes :: before :: done) [c] true rest
    else piecesFrom done (c :: current) false rest

/-- The **parts of a text** that are shown one by one. -/
def pieces (s : List Char) : List (List Char) := piecesFrom [] [] false s

/-! ## Characters -/

/-- The text without the backslashes directly before opening brackets, behind the text before it,
whose last character comes first. -/
def unescapeOnto (done : List Char) : List Char → List Char
  | [] => done.reverse
  | '\\' :: '[' :: rest => unescapeOnto ('[' :: done) rest
  | c :: rest => unescapeOnto (c :: done) rest

/-- A part of a text as it is shown. -/
def showPiece (piece : List Char) : List Char := Emoji.replace (unescapeOnto [] piece)

/-- A single backslash at the very end is written twice. -/
def closeBackslash (s : List Char) : List Char :=
  match s.reverse with
  | '\\' :: '\\' :: _ => s
  | '\\' :: _ => s ++ ['\\']
  | _ => s

/-- A character that would move the cursor or ring the bell. -/
def isControl (c : Char) : Bool :=
  c == '\x07' || c == '\x08' || c == '\x0b' || c == '\x0c' || c == '\r'

/-! ## Tabulators -/

/-- The columns between the stops of tabulators. -/
def tabWidth : Nat := 8

/-- The parts of a line between its tabulators, from a column on. A tabulator is a blank, followed
by as many as it takes to the next stop. -/
def alignFrom (column : Nat) : List (List Char) → List Char
  | [] => []
  | [last] => last
  | part :: rest =>
    let column := column + Unicode.cells (part ++ [' '])
    let fill := (tabWidth - column % tabWidth) % tabWidth
    part ++ ' ' :: List.replicate fill ' ' ++ alignFrom (column + fill) rest

/-- The lines of a text with blanks in the place of tabulators. -/
def expandTabs (s : List Char) : List Char :=
  ['\n'].intercalate ((s.splitOn '\n').map fun line => alignFrom 0 (line.splitOn '\t'))

/-! ## Messages -/

/-- A text as it is shown **behind a heading** of the program's own. -/
def messageAfter (heading : String) (s : String) : String :=
  let shown := (pieces (closeBackslash s.toList)).flatMap showPiece
  String.ofList (expandTabs (heading.toList ++ shown.filter (!isControl ·)))

/-- A text **as it is shown**. -/
def message (s : String) : String := messageAfter "" s

/-! ## Reports -/

/-- What follows the opening of a sequence that sets a colour, behind its end; nothing when it is no
such sequence. -/
def afterColour (s : List Char) : Option (List Char) :=
  match s.dropWhile fun c => c == ';' || c == '?' || c.isDigit with
  | c :: rest => if c.isAlpha then some rest else none
  | [] => none

theorem length_afterColour {s rest : List Char} (h : afterColour s = some rest) :
    rest.length < s.length := by
  unfold afterColour at h
  split at h
  · next c after hs =>
    split at h
    · cases h
      have := congrArg List.length hs
      have := (List.dropWhile_suffix (l := s) fun c => c == ';' || c == '?' || c.isDigit).length_le
      simp only [List.length_cons] at *
      omega
    · cases h
  · cases h

/-- The text without sequences that set colours, behind the text before it, whose last character
comes first. -/
def plainOnto (done : List Char) : List Char → List Char
  | '\x1b' :: '[' :: code =>
    match _h : afterColour code with
    | some after => plainOnto done after
    | none => plainOnto ('[' :: '\x1b' :: done) code
  | c :: rest => plainOnto (c :: done) rest
  | [] => done.reverse
  termination_by s => s.length
  decreasing_by
    · have := length_afterColour _h
      simp only [List.length_cons]
      omega
    · simp only [List.length_cons]
      omega
    · simp

/-- A text that stands for itself, **without colours**. -/
def report (s : String) : String := String.ofList (plainOnto [] s.toList)

end Drift.Terminal
