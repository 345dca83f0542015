import Std.Data.HashMap

/-!
# Sets of characters with codes

* `Strip` — characters at consecutive codes; `CharacterSet` — a set, strip by strip.
* `CharacterSet.codes` — the codes of a set with their characters; `CharacterSet.amended` — codes of
  which some have other characters.
* `CodeIndex` — a look-up of both: `CodeIndex.text?` and `CodeIndex.code?`.
-/

namespace Drift

/-- Characters at **consecutive codes**. A blank stands at a code without a character. -/
structure Strip where
  /-- The code of the first character. -/
  first : Nat
  characters : String
  deriving DecidableEq, Repr

/-- A set of characters, strip by strip. -/
abbrev CharacterSet := List Strip

/-- The codes of a strip with their characters. -/
def Strip.codes (s : Strip) : List (Nat × Char) :=
  (s.characters.toList.zipIdx s.first).filterMap fun (c, code) =>
    if c == ' ' then none else some (code, c)

/-- The **codes of a set** with their characters. -/
def CharacterSet.codes (s : CharacterSet) : List (Nat × Char) := s.flatMap Strip.codes

/-! ## Look-up -/

/-- A code for two characters together. -/
structure PairCode where
  code : Nat
  first : Char
  second : Char
  deriving DecidableEq, Repr

/-- What the codes stand for, and by which codes characters are written. -/
structure CodeIndex where
  chars : Std.HashMap Nat Char
  /-- The codes by the numbers of their characters. -/
  codes : Std.HashMap Nat Nat
  pairs : List PairCode
  /-- Codes that are written for two characters but stand for the first of them. -/
  closed : List PairCode

namespace CodeIndex

/-- The look-up of codes with their characters. Of several codes for one character the first is
written, and of several characters for one code the first is read. -/
def ofCodes (codes : List (Nat × Char)) : CodeIndex where
  chars := codes.foldl (fun chars (code, c) => chars.insertIfNew code c) ∅
  codes := codes.foldl (fun index (code, c) => index.insertIfNew c.toNat code) ∅
  pairs := []
  closed := []

/-- The look-up with codes that only writing uses, before all others. -/
def writing (index : CodeIndex) (written : List (Char × Nat)) : CodeIndex :=
  { index with
    codes := written.foldl (fun codes (c, code) => codes.insert c.toNat code) index.codes }

/-- The look-up without the codes by which some characters are written. -/
def reading (index : CodeIndex) (unwritten : List Char) : CodeIndex :=
  { index with codes := unwritten.foldl (fun codes c => codes.erase c.toNat) index.codes }

/-- The look-up with codes for two characters. -/
def pairing (index : CodeIndex) (pairs closed : List PairCode) : CodeIndex :=
  { index with pairs := pairs, closed := closed }

/-- The characters that a code stands for. -/
def text? (index : CodeIndex) (code : Nat) : Option (List Char) :=
  match index.pairs.find? (·.code == code) with
  | some pair => some [pair.first, pair.second]
  | none => (index.chars[code]?).map fun c => [c]

/-- The code that is written for two characters together. -/
def pair? (index : CodeIndex) (c d : Char) : Option Nat :=
  let isPair (pair : PairCode) : Bool := pair.first == c && pair.second == d
  (index.pairs.find? isPair <|> index.closed.find? isPair).map (·.code)

/-- The code of a character. -/
def code? (index : CodeIndex) (c : Char) : Option Nat := index.codes[c.toNat]?

/-- The code at the beginning of a text, and how many characters it stands for. -/
def next? (index : CodeIndex) (c : Char) (rest : List Char) : Option (Nat × Nat) :=
  match rest.head?.bind (index.pair? c) with
  | some code => some (code, 2)
  | none => (index.code? c).map fun code => (code, 1)

end CodeIndex

/-- Codes of which some **have other characters**, with further codes. The old characters of such
codes are still written by them, where they have no other codes. -/
def CharacterSet.amended (codes changes further : List (Nat × Char)) : List (Nat × Char) :=
  let changed := CodeIndex.ofCodes changes
  (codes.filter fun (code, _) => (changed.text? code).isNone) ++ changes ++ further ++ codes

end Drift
