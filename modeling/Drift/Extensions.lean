import Drift.Unicode.Blank
import Drift.Unicode.Case

/-!
# File extensions

* `Extensions.normalize` — the extensions that some arguments name, in small letters, without the
  leading dots, sorted and without repetitions. An argument may name several, between commas.
-/

namespace Drift.Extensions

/-- An extension without blanks around it and dots before it, in small letters. -/
def normalForm (part : List Char) : List Char :=
  Unicode.lower ((Unicode.strip part).dropWhile (· == '.'))

/-- Inserts a text in ascending order, unless it is there. -/
def insert (e : String) : List String → List String
  | [] => [e]
  | d :: rest => if e = d then d :: rest else if e < d then e :: d :: rest else d :: insert e rest

/-- The extensions that one argument names. -/
def ofArgument (argument : String) : List String :=
  (((argument.toList.splitOn ',').map normalForm).filter (!·.isEmpty)).map String.ofList

/-- The **extensions that the arguments name**. -/
def normalize (arguments : List String) : List String :=
  (arguments.flatMap ofArgument).foldl (fun set e => insert e set) []

end Drift.Extensions
