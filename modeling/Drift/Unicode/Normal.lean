import Drift.Unicode.Normal.Classes
import Drift.Unicode.Normal.Compositions
import Drift.Unicode.Normal.Decompositions

/-!
# Normal forms

* `Unicode.Normalizer` — the tables; `Unicode.Normalizer.run` — the text in its compatible normal
  form: every character is taken apart as far as possible, marks are put in order, and letters and
  marks are put together again.
-/

namespace Drift.Unicode

/-- The tables that normal forms need. -/
structure Normalizer where
  decompositions : Replacement.Index
  /-- What two characters give together, by their common number. -/
  compositions : Std.HashMap Nat Char

/-- The number of two characters. -/
def pairNumber (a b : Char) : Nat := a.toNat * 0x200000 + b.toNat

/-- The pairs of a text, one for each of consecutive characters. -/
def pairsFrom (n : Nat) : List Char → List (Nat × Char)
  | a :: b :: rest => (pairNumber a b, Char.ofNat n) :: pairsFrom (n + 1) rest
  | _ => []

/-- The tables. -/
def normalizer : Normalizer where
  decompositions := Replacement.index singleDecompositions severalDecompositions
  compositions :=
    compositions.foldl
      (fun index s =>
        (pairsFrom s.first s.characters.toList).foldl
          (fun index (pair, c) => index.insert pair c) index) ∅

namespace Normalizer

/-! ## Taking apart -/

/-- The parts of a character; Hangul syllables have theirs by their numbers. -/
def parts (t : Normalizer) (c : Char) : List Char :=
  let n := c.toNat
  if 0xAC00 ≤ n && n < 0xD7A4 then
    let s := n - 0xAC00
    let letters := [Char.ofNat (0x1100 + s / 588), Char.ofNat (0x1161 + s % 588 / 28)]
    if s % 28 == 0 then letters else letters ++ [Char.ofNat (0x11A7 + s % 28)]
  else t.decompositions.text c

/-- Puts a mark in front of the marks of higher classes, in a text of which the last character comes
first. -/
def insertMark (c : Char) (n : Nat) : List Char → List Char
  | [] => [c]
  | d :: rest => if n < markClass d then d :: insertMark c n rest else c :: d :: rest

/-- The marks of each letter **in the order of their classes**. -/
def ordered (text : List Char) : List Char :=
  (text.foldl
    (fun done c =>
      let n := markClass c
      if n == 0 then c :: done else insertMark c n done) []).reverse

/-! ## Putting together -/

/-- The text being put together: what is finished, the last letter, the marks that stay behind it,
and the class of the last of these. Of lists the last item comes first. -/
structure Joining where
  done : List Char
  letter : Option Char
  marks : List Char
  last : Nat

/-- All that has been read. -/
def Joining.finished (j : Joining) : List Char :=
  match j.letter with
  | some letter => j.marks ++ letter :: j.done
  | none => j.marks ++ j.done

/-- The syllable that two letters give, or that a syllable without an end and a letter give. -/
def syllable? (a b : Char) : Option Char :=
  let (m, n) := (a.toNat, b.toNat)
  if 0x1100 ≤ m && m < 0x1113 && 0x1161 ≤ n && n < 0x1176 then
    some (Char.ofNat (0xAC00 + (m - 0x1100) * 588 + (n - 0x1161) * 28))
  else if 0xAC00 ≤ m && m < 0xD7A4 && (m - 0xAC00) % 28 == 0 && 0x11A8 ≤ n && n < 0x11C3 then
    some (Char.ofNat (m + (n - 0x11A7)))
  else none

/-- What a letter gives together with a character behind it. -/
def joined? (t : Normalizer) (a b : Char) : Option Char :=
  syllable? a b <|> t.compositions[pairNumber a b]?

/-- One more character: it joins the last letter, if nothing between them keeps it from that. -/
def Joining.step (t : Normalizer) (j : Joining) (c : Char) : Joining :=
  let n := markClass c
  let near := if j.marks.isEmpty then true else j.last < n
  match if near then j.letter.bind (t.joined? · c) else none with
  | some letter => { j with letter := some letter }
  | none =>
    if n == 0 then ⟨j.finished, some c, [], 0⟩ else { j with marks := c :: j.marks, last := n }

/-- The text in its **compatible normal form**. -/
def run (t : Normalizer) (text : List Char) : List Char :=
  (((ordered (text.flatMap t.parts)).foldl (Joining.step t) ⟨[], none, [], 0⟩).finished).reverse

end Normalizer

end Drift.Unicode
