import Drift.Literal
import Drift.Text.Nameprep.Folding
import Drift.Text.Nameprep.Sets
import Drift.Unicode.Case
import Drift.Unicode.Normal

/-!
# Prepared names

Before a name is compared or encoded, letters are folded to small ones and the text is brought to
its normal form.

* `Nameprep.prepare` — the name that a text is prepared to, or why it is none.
-/

namespace Drift.Nameprep

/-- Why a text is no name. -/
inductive Fault where
  /-- A character is prohibited. -/
  | prohibited (c : Char)
  /-- Letters of both directions are mixed. -/
  | mixed
  /-- A name from right to left does not begin and end with such letters. -/
  | ends
  deriving DecidableEq, Repr

/-- The words for it. -/
def Fault.message : Fault → String
  | prohibited c => String.join ["Invalid character ", Literal.quote c.toString]
  | mixed => "Violation of BIDI requirement 2"
  | ends => "Violation of BIDI requirement 3"

/-- The letters of which folding is more than the small form. -/
def foldings : Unicode.Replacement.Index := Unicode.Replacement.index singleFoldings severalFoldings

/-- A character **folded**. -/
def fold (index : Unicode.Replacement.Index) (c : Char) : List Char :=
  match index[c.toNat]? with
  | some text => text
  | none => Unicode.lower [c]

/-- The text folded and in its normal form, without the characters that are left out. -/
def mapped (text : List Char) : List Char :=
  Unicode.normalizer.run ((text.filter fun c => !dropped.contains c).flatMap (fold foldings))

/-- The first prohibited character. -/
def prohibited? (text : List Char) : Option Char := text.find? prohibited.contains

/-- Names from right to left hold no letters from left to right, and begin and end with letters of
their own direction. -/
def checkDirection (text : List Char) : Except Fault (List Char) :=
  if !text.any rightToLeft.contains then .ok text
  else if text.any leftToRight.contains then .error .mixed
  else if (text.head?.any rightToLeft.contains) && (text.getLast?.any rightToLeft.contains) then
    .ok text
  else .error .ends

/-- The **name that a text is prepared to**, or why it is none. -/
def prepare (text : List Char) : Except Fault (List Char) :=
  let text := mapped text
  match prohibited? text with
  | some c => .error (.prohibited c)
  | none => checkDirection text

end Drift.Nameprep
