/-!
# Tables

* `Terminal.Table` — a title, headings and rows of texts.
* `Terminal.narrowed` — the widths of columns when there is less room than they ask for: the widest
  give way first.
* `Terminal.fill` — a text on lines of a width, word by word; what is wider is cut.
* `Table.lines` — the table in a frame, in the room that there is.
-/

namespace Drift.Terminal

/-- A **table**, whose rows have as many texts as there are headings. -/
structure Table where
  title : String
  headings : List String
  rows : List (List String)

/-! ## Widths -/

/-- The quotient rounded to the nearest whole number, and a half to an even one. -/
def roundedShare (total sharers : Nat) : Nat :=
  let share := total / sharers
  let left := 2 * (total % sharers)
  if left < sharers then share
  else if sharers < left then share + 1
  else share + share % 2

/-- Takes what there is too much from the columns of the greatest width, from each its share of what
is left, but no more than `most`. -/
def give (most widest : Nat) : (excess sharers : Nat) → List Nat → List Nat
  | _, _, [] => []
  | excess, sharers, w :: ws =>
    if w = widest then
      let share := min most (roundedShare excess sharers)
      (w - share) :: give most widest (excess - share) (sharers - 1) ws
    else w :: give most widest excess sharers ws

/-- The room that columns take. -/
def total (widths : List Nat) : Nat := widths.foldl (· + ·) 0

/-- Narrows the widest columns to the width of the next ones, as often as it takes. -/
def narrowFor (room : Nat) : (rounds : Nat) → List Nat → List Nat
  | 0, widths => widths
  | rounds + 1, widths =>
    let excess := total widths - room
    if excess = 0 then widths
    else
      let widest := widths.foldl max 0
      let next := (widths.filter (· != widest)).foldl max 0
      narrowFor room rounds
        (give (min excess (widest - next)) widest excess (widths.count widest) widths)

/-- The widths of columns **in the room that there is**. Every round takes something away, so there
are no more rounds than there is width. -/
def narrowed (room : Nat) (widths : List Nat) : List Nat := narrowFor room (total widths) widths

/-! ## Texts in columns -/

/-- The words of a text, each with the blanks behind it. -/
def words : List Char → List (List Char)
  | [] => []
  | c :: rest =>
    match words rest with
    | (d :: word) :: others =>
      if c = ' ' ∧ d ≠ ' ' then [c] :: (d :: word) :: others else (c :: d :: word) :: others
    | others => [c] :: others

/-- The text without the blanks at its end. -/
def trimmed (cs : List Char) : List Char := (cs.reverse.dropWhile (· == ' ')).reverse

/-- Lays words on lines, behind the lines that are full and the one that has begun. A word that is
too wide for any line takes no room from the words behind it when it comes first. -/
def layOnto (width : Nat) (done : List (List Char)) (line : List Char) (used : Nat) :
    List (List Char) → List (List Char)
  | [] => (line :: done).reverse
  | word :: rest =>
    if used + (trimmed word).length ≤ width then
      layOnto width done (line ++ word) (used + word.length) rest
    else if used = 0 then layOnto width done (line ++ word) used rest
    else layOnto width (line :: done) word word.length rest

/-- A line cut or filled up to a width; where it is cut there are three dots. -/
def fit (width : Nat) (line : List Char) : List Char :=
  let line := trimmed line
  if line.length ≤ width then line.rightpad width ' ' else line.take (width - 1) ++ ['…']

/-- A text **on lines of a width**; none where there is no width. -/
def fill (width : Nat) (text : String) : List (List Char) :=
  if width = 0 then [] else (layOnto width [] [] 0 (words text.toList)).map (fit width)

/-! ## Rows and frames -/

/-- The lines of a cell of a width, with a blank on either side. -/
def cell (width : Nat) (text : String) : List (List Char) :=
  (fill (width - 2) text).map fun line => ' ' :: line ++ [' ']

/-- The lines of a cell, filled up to a height above or below. -/
def raised (below : Bool) (height width : Nat) (lines : List (List Char)) : List (List Char) :=
  let blanks := List.replicate (height - lines.length) (List.replicate width ' ')
  if below then blanks ++ lines else lines ++ blanks

/-- The lines of a row between bars. -/
def row (bar : Char) (below : Bool) (widths : List Nat) (texts : List String) : List String :=
  let cells := (widths.zip texts).map fun (w, text) => (w, cell w text)
  let height := (cells.map (·.2.length)).foldl max 1
  let columns := cells.map fun (w, lines) => raised below height w lines
  (List.range height).map fun i =>
    String.ofList (columns.flatMap (fun lines => bar :: lines.getD i []) ++ [bar])

/-- A line across the table. -/
def rule (left across middle right : Char) (widths : List Nat) : String :=
  String.ofList
    (left :: [middle].intercalate (widths.map fun w => List.replicate w across) ++ [right])

/-- The width that a column asks for: that of its widest text and a blank on either side, but no
more than there is room. -/
def width (room : Nat) (texts : List String) : Nat :=
  max 1 (min room ((texts.map String.length).foldl max 0 + 2))

/-- The **table in a frame**, on a screen of some width. The title is not cut. -/
def Table.lines (t : Table) (columns : Nat) : List String :=
  let texts := t.headings.mapIdx fun i heading => heading :: t.rows.map fun r => r.getD i ""
  let room := columns - (t.headings.length + 1)
  let widths := narrowed room (texts.map (width room))
  t.title :: rule '┏' '━' '┳' '┓' widths :: row '┃' true widths t.headings
    ++ rule '┡' '━' '╇' '┩' widths :: t.rows.flatMap (row '│' false widths)
    ++ [rule '└' '─' '┴' '┘' widths]

end Drift.Terminal
