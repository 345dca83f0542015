import Drift.Event
import Drift.Json.Literal

/-!
# Notes for a terminal

* `Terminal.noteLine`, `Terminal.noteObject?` — a note as a line or as a JSON object.
-/

namespace Drift.Terminal

/-! ## Notes -/

/-- A text that is shown in quotes among the fields of a note. -/
def needsQuotes (s : String) : Bool :=
  s.toList.any fun c =>
    c == ' ' || c == '\t' || c == '\n' || c == '\r' || c == '=' || c == '"' || c == '\''

/-- The mark that stands for the time of a note. -/
def timeMark : String := "<time>"

/-- The mark that stands for a duration or a size. -/
def measureMark : String := "<n>"

/-- The value of a field. -/
def detailText : Detail → String
  | .measure => measureMark
  | .value (.text s) => if needsQuotes s then Literal.quote s else s
  | .value v => v.render

/-- The fields in the order of their names. -/
def fieldTexts (fields : List (String × Detail)) : List String :=
  (fields.mergeSort fun a b => decide (a.1 ≤ b.1)).map fun (name, v) => name ++ "=" ++ detailText v

/-- A text, filled up with blanks. -/
def padTo (width : Nat) (s : String) : String := String.ofList (s.toList.rightpad width ' ')

/-- The **line of a note**, with or without the part of the program that it comes from. -/
def noteLine (withOrigin : Bool) (n : Note) : String :=
  " ".intercalate
    ([timeMark, "[" ++ padTo 9 n.level.name ++ "]", padTo 30 n.name]
      ++ (if withOrigin then ["[" ++ n.origin ++ "]"] else []) ++ fieldTexts n.fields)

/-- The fields as members of a JSON object, without those whose number says nothing, if each of
them has a JSON value. -/
def noteMembers? : List (String × Detail) → Option Json.Members
  | [] => some []
  | (_, .measure) :: rest => noteMembers? rest
  | (name, .value v) :: rest => do
    let v ← Json.ofLiteral? v
    let others ← noteMembers? rest
    return (name, v) :: others

/-- The **note as a JSON object**, if all its fields have JSON values. -/
def noteObject? (n : Note) : Option Json.Value :=
  (noteMembers? n.fields).map fun fields =>
    .object
      (("message", .text n.name) :: ("level", .text n.level.name)
        :: ("logger", .text n.origin) :: fields)

end Drift.Terminal
