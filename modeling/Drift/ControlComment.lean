import Drift.Unicode.Blank
import Drift.Unicode.Word

/-!
# Control comments

A comment is a control annotation when one of its lines begins with the word `control`, behind
delimiters only, and a blank and a word follow.

* `ControlComment.isComment` — whether nodes of a kind are comments.
* `ControlComment.find` — what follows the word `control` on the first line that begins with it.
* `ControlComment.isControl`, `ControlComment.identifiers` — whether a text is a control annotation,
  and the identifiers that it names.
-/

namespace Drift.ControlComment

/-! ## Comments -/

/-- The kinds of nodes that are comments. -/
def commentKinds : List String := ["comment", "line_comment", "block_comment"]

/-- A node of this kind is a comment, given the kinds that are. -/
def isComment (kinds : List String) (kind : String) : Bool := kinds.contains kind

/-! ## The keyword -/

/-- The word that opens an annotation. -/
def keyword : List Char := ['c', 'o', 'n', 't', 'r', 'o', 'l']

/-- A character that may stand before the keyword: no word character and no line end. -/
def isDelimiter (c : Char) : Bool := !Unicode.isWord c && c != '\n'

/-- A blank and a word character come next. -/
def startsIdentifier : List Char → Bool
  | blank :: c :: _ => Unicode.isBlank blank && Unicode.isWord c
  | _ => false

/-- What follows the keyword, when the text begins with delimiters, the keyword, a blank and a word
character. -/
def afterKeyword? (text : List Char) : Option (List Char) :=
  let rest := text.dropWhile isDelimiter
  if keyword.isPrefixOf rest && startsIdentifier (rest.drop keyword.length) then
    some (rest.drop keyword.length)
  else none

/-- The text behind its first line end. -/
def nextLine? : List Char → Option (List Char)
  | [] => none
  | c :: rest => if c = '\n' then some rest else nextLine? rest

theorem length_nextLine? {text rest : List Char} (h : nextLine? text = some rest) :
    rest.length < text.length := by
  induction text with
  | nil => cases h
  | cons c text ih =>
    simp only [nextLine?] at h
    split at h
    · cases h
      exact Nat.lt_succ_self _
    · exact Nat.lt_succ_of_lt (ih h)

/-- What follows the keyword on the **first line** that it opens. -/
def find (text : List Char) : Option (List Char) :=
  match afterKeyword? text with
  | some rest => some rest
  | none =>
    match _h : nextLine? text with
    | none => none
    | some rest => find rest
  termination_by text.length
  decreasing_by exact length_nextLine? ‹_›

/-! ## Identifiers -/

/-- A character inside an identifier. -/
def isIdentifierChar (c : Char) : Bool := Unicode.isWord c || c == '-'

/-- The run of identifiers at the start of a text, as long as it goes on: each of them behind one
blank, a word character, and then word characters and hyphens. -/
def leadingRun : List Char → List Char
  | blank :: c :: rest =>
    if Unicode.isBlank blank && Unicode.isWord c then
      blank :: c :: (rest.takeWhile isIdentifierChar ++ leadingRun (rest.dropWhile isIdentifierChar))
    else []
  | _ => []
  termination_by text => text.length
  decreasing_by
    have := (List.dropWhile_sublist isIdentifierChar (l := rest)).length_le
    simp only [List.length_cons]
    omega

/-- The run of identifiers at the start of a text, of which there must be one at least. -/
def run? (text : List Char) : Option (List Char) :=
  match leadingRun text with
  | [] => none
  | run => some run

/-- The text is a **control annotation**. -/
def isControl (text : String) : Bool := (find text.toList).isSome

/-- The identifiers that an annotation names, if they are **found once more** behind the keyword:
what decides whether a text is an annotation ends a word at a hyphen, so the identifiers are read
again from the first one on. -/
def identifiers? (text : String) : Option (List String) :=
  match find text.toList with
  | none => some []
  | some rest => (run? rest).map fun run => (Unicode.words run).map String.ofList

/-- The **identifiers** that an annotation names. -/
def identifiers (text : String) : List String := (identifiers? text).getD []

end Drift.ControlComment
