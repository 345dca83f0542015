import Drift.Text.CharacterSet

/-!
# Where codes lie

* `CharacterSet.grid` — the codes of two bytes in given ranges, in their order.
* `CharacterSet.high` — codes with the highest bit of both bytes set.
* `CharacterSet.shiftCode` — the place of a row and a cell among the codes of Shift JIS.
-/

namespace Drift.CharacterSet

/-- The numbers from the first to the last. -/
def span (first last : Nat) : List Nat := List.range' first (last + 1 - first)

/-- The codes of two bytes, **row by row**. -/
def grid (leads trails : List Nat) : List Nat :=
  leads.flatMap fun lead => trails.map fun trail => lead * 256 + trail

/-- The codes with the highest bits of both bytes set. -/
def high (codes : List (Nat × Char)) : List (Nat × Char) :=
  codes.map fun (code, c) => (code + 0x8080, c)

/-- The codes with the highest bits of both bytes set, behind a byte that calls the third set. -/
def third (codes : List (Nat × Char)) : List (Nat × Char) :=
  codes.map fun (code, c) => (code + 0x8F8080, c)

/-- Consecutive characters at the given codes. -/
def consecutive (codes : List Nat) (first : Nat) : List (Nat × Char) :=
  (codes.zipIdx first).map fun (code, point) => (code, Char.ofNat point)

/-- The **code of Shift JIS** for a cell, both counted from 0: two rows share a lead byte. -/
def shiftCode (row cell : Nat) : Nat :=
  let half := row / 2
  let lead := if half < 0x1F then 0x81 + half else 0xC1 + half
  let trail :=
    if row % 2 == 1 then 0x9F + cell else if cell < 0x3F then 0x40 + cell else 0x41 + cell
  lead * 256 + trail

/-- The codes of rows and cells, moved to their places in Shift JIS. -/
def shifted (row : Nat → Nat) (codes : List (Nat × Char)) : List (Nat × Char) :=
  codes.map fun (code, c) => (shiftCode (row (code / 256 - 0x21)) (code % 256 - 0x21), c)

/-- The ASCII characters. -/
def ascii : List (Nat × Char) := consecutive (span 0 0x7F) 0

/-- The halfwidth katakana, from a code on. -/
def kana (first : Nat) : List (Nat × Char) := consecutive (span first (first + 62)) 0xFF61

end Drift.CharacterSet
