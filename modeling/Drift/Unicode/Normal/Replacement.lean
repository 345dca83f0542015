import Drift.Text.CharacterSet

/-!
# Replacements of characters

* `Unicode.Replacement` — texts for consecutive characters.
* `Unicode.Replacement.index` — a look-up of texts by characters.
-/

namespace Drift.Unicode

/-- The texts that stand **in the place of consecutive characters**, with bars between the texts. -/
structure Replacement where
  /-- The number of the first character. -/
  first : Nat
  texts : String
  deriving DecidableEq, Repr

namespace Replacement

/-- The parts of a text between bars, with the part being read, of which the last character comes
first. -/
def parts (part : List Char) : List Char → List (List Char)
  | [] => [part.reverse]
  | c :: rest => if c == '|' then part.reverse :: parts [] rest else parts (c :: part) rest

/-- The characters of a run with their texts. -/
def entries (r : Replacement) : List (Nat × List Char) :=
  ((parts [] r.texts.toList).zipIdx r.first).map fun (text, n) => (n, text)

/-- Texts by the numbers of characters. -/
abbrev Index := Std.HashMap Nat (List Char)

/-- A **look-up** of the texts for characters: one character each, and several. -/
def index (single : List Strip) (several : List Replacement) : Index :=
  several.foldl (fun index r => r.entries.foldl (fun index (n, text) => index.insert n text) index)
    ((CharacterSet.codes single).foldl (fun index (n, c) => index.insert n [c]) ∅)

/-- The text in the place of a character. -/
def Index.text (index : Index) (c : Char) : List Char := (index[c.toNat]?).getD [c]

end Replacement

end Drift.Unicode
