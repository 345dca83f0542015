import Drift.Event
import Drift.Json.Value
import Drift.Keyed
import Drift.Numeral
import Drift.Unicode.Case

/-!
# Settings

* `Settings` — what the user can set; `Settings.Field` names each of them.
* `Settings.levelOf`, … — the values that each field takes.
* `Settings.ofSources` — for each field the value of the first source that supplies one, or its
  default. Only this value is checked.
* `Settings.ofEnvironment`, `Settings.ofFile`, `Settings.ofPresent` — variables, members of a file
  and overrides as sources; `Settings.Convention` says how variables name fields.
-/

namespace Drift

/-- How notes are shown. -/
inductive LogFormat where
  | console
  | json
  deriving DecidableEq, Repr

/-- What the user can **set**. -/
structure Settings where
  logLevel : Level
  logFormat : LogFormat
  logPath : Json.Text
  compressionLevel : Fin 10
  deriving DecidableEq, Repr

namespace Settings

/-! ## Fields -/

/-- The name of a setting. -/
inductive Field where
  | logLevel
  | logFormat
  | logPath
  | compressionLevel
  deriving DecidableEq, Repr

namespace Field

/-- The name as it is written. -/
def name : Field → String
  | logLevel => "log_level"
  | logFormat => "log_format"
  | logPath => "log_path"
  | compressionLevel => "compression_level"

/-- All fields, in the order in which they are checked. -/
def all : List Field := [logLevel, logFormat, logPath, compressionLevel]

/-- The field of that name. -/
def ofName? (name : String) : Option Field := all.find? (·.name == name)

end Field

/-! ## Values -/

/-- Why a value **does not fit** its field. -/
inductive Flaw where
  | noLevel
  | noFormat
  | noText
  | noCharacters
  | noNumber
  | noNumeral
  | oversized
  | fractional
  | infinite
  | tooSmall
  | tooGreat
  deriving DecidableEq, Repr

/-- The words for a flaw. -/
def Flaw.message : Flaw → String
  | noLevel => "Input should be 'DEBUG', 'INFO', 'WARNING', 'ERROR' or 'CRITICAL'"
  | noFormat => "Input should be 'console' or 'json'"
  | noText => "Input should be a valid string"
  | noCharacters =>
    "Input should be a valid string, unable to parse raw data as a unicode string"
  | noNumber => "Input should be a valid integer"
  | noNumeral => "Input should be a valid integer, unable to parse string as an integer"
  | oversized => "Unable to parse input string as an integer, exceeded maximum size"
  | fractional => "Input should be a valid integer, got a number with a fractional part"
  | infinite => "Input should be a finite number"
  | tooSmall => "Input should be greater than or equal to 0"
  | tooGreat => "Input should be less than or equal to 9"

/-- The name of a level among the settings. -/
def levelName : Level → String
  | .debug => "DEBUG"
  | .info => "INFO"
  | .warning => "WARNING"
  | .error => "ERROR"
  | .critical => "CRITICAL"

/-- The name of a format. -/
def formatName : LogFormat → String
  | .console => "console"
  | .json => "json"

/-- The text in small letters. -/
def inSmallLetters (s : String) : String := String.ofList (Unicode.lower s.toList)

/-- A level by its name, in any letter case. -/
def levelOf : Json.Value → Except Flaw Level
  | .text (.broken _) => .error .noCharacters
  | .text (.plain s) =>
    let name := String.ofList (s.toList.flatMap Unicode.asciiCapitals)
    match [Level.debug, .info, .warning, .error, .critical].find? (levelName · == name) with
    | some l => .ok l
    | none => .error .noLevel
  | _ => .error .noLevel

/-- A format by its name, in any letter case. -/
def formatOf : Json.Value → Except Flaw LogFormat
  | .text (.broken _) => .error .noCharacters
  | .text (.plain s) =>
    let name := inSmallLetters s
    match [LogFormat.console, .json].find? (formatName · == name) with
    | some f => .ok f
    | none => .error .noFormat
  | _ => .error .noFormat

/-- A text. -/
def textOf : Json.Value → Except Flaw Json.Text
  | .text t => .ok t
  | _ => .error .noText

/-- Numbers with a fraction of zeros are read below this size. -/
def floatLimit : Nat := 1 <<< 63

/-- A whole number: also one that is written as a text, that has a fraction of zeros, or a truth
value. -/
def numberOf : Json.Value → Except Flaw Int
  | .bool b => .ok (if b then 1 else 0)
  | .int n => .ok n
  | .float x =>
    if x.isFinite then
      match x.toInt? with
      | some n => if n.natAbs < floatLimit then .ok n else .error .oversized
      | none => .error .fractional
    else .error .infinite
  | .text (.broken _) => .error .noCharacters
  | .text (.plain s) =>
    match Numeral.toInt s with
    | .ok n => .ok n
    | .error .malformed => .error .noNumeral
    | .error .tooLong => .error .oversized
  | .null | .list _ | .object _ => .error .noNumber

/-- A whole number from zero to nine. -/
def digitOf (v : Json.Value) : Except Flaw (Fin 10) :=
  match numberOf v with
  | .error flaw => .error flaw
  | .ok n =>
    if n < 0 then .error .tooSmall
    else if h : n.toNat < 10 then .ok ⟨n.toNat, h⟩
    else .error .tooGreat

/-! ## Sources -/

/-- A source supplies values for some fields. -/
abbrev Supply := Field → Option Json.Value

/-- The value of the first source that supplies one. -/
def supplied (sources : List Supply) (f : Field) : Option Json.Value :=
  sources.findSome? (· f)

/-- The value of a field: the supplied one if it fits, or the default if none is supplied. -/
def choose {α : Type} (f : Field) (check : Json.Value → Except Flaw α) (default : α)
    (v : Option Json.Value) : Except (Field × Flaw) α :=
  match v with
  | none => .ok default
  | some v => (check v).mapError (f, ·)

/-- The settings **from sources**, the first of which counts most; or the first field whose value
does not fit. -/
def ofSources (sources : List Supply) : Except (Field × Flaw) Settings := do
  let logLevel ← choose .logLevel levelOf .warning (supplied sources .logLevel)
  let logFormat ← choose .logFormat formatOf .console (supplied sources .logFormat)
  let logPath ← choose .logPath textOf ".control-log" (supplied sources .logPath)
  let compressionLevel ← choose .compressionLevel digitOf 6 (supplied sources .compressionLevel)
  return ⟨logLevel, logFormat, logPath, compressionLevel⟩

/-- The settings **when nothing is set**. -/
def defaults : Settings := ⟨.warning, .console, ".control-log", 6⟩

/-- The words for a value that does not fit. -/
def flawText (flaw : Field × Flaw) : String := flaw.1.name ++ ": " ++ flaw.2.message

/-! ## As JSON -/

/-- The value of a field. -/
def value (s : Settings) : Field → Json.Value
  | .logLevel => .text (levelName s.logLevel)
  | .logFormat => .text (formatName s.logFormat)
  | .logPath => .text s.logPath
  | .compressionLevel => .int s.compressionLevel.val

/-- The settings as a JSON object. -/
def record (s : Settings) : Json.Value := .object (Field.all.map fun f => (f.name, s.value f))

/-! ## Members and variables as sources -/

/-- The members of an object supply the fields that they are named for. -/
def ofMembers (members : Json.Members) : Supply := fun f => Keyed.get? members f.name

/-- The members of a file supply the fields that they are named for, in any letter case; the first
of several counts. -/
def ofFile (members : Json.Members) : Supply := fun f =>
  (members.find? fun m => m.1.string?.any fun name => inSmallLetters name == f.name).map (·.2)

/-- A value is there unless it is null. -/
def isPresent : Json.Value → Bool
  | .null => false
  | _ => true

/-- The members of an object that are not null supply fields as those of a file do. -/
def ofPresent (members : Json.Members) : Supply := ofFile (members.filter fun m => isPresent m.2)

/-- The variables of an environment. -/
abbrev Variables := List (String × String)

/-- The **accounts** of a machine. -/
structure Accounts where
  /-- The directory of the user who runs the program, a tilde if the user has no account. -/
  own : String := "~"
  /-- The directories of all users, by their names. -/
  named : List (String × String) := []

/-- The **environment** of a program. -/
structure Environment where
  vars : Variables
  accounts : Accounts := {}

/-- How variables **name fields** and give them values. -/
structure Convention where
  /-- What stands in front of a field's name. -/
  lead : String := "CONTROL_"
  /-- The letter case counts. -/
  exact : Bool := false
  /-- Variables without characters are passed over. -/
  skipsEmpty : Bool := false
  /-- The text that stands for null, if one does. -/
  nullText : Option String := none

namespace Convention

/-- A variable of this name is meant for the field. -/
def isNamedFor (c : Convention) (f : Field) (name : String) : Bool :=
  let own := c.lead ++ f.name
  if c.exact then name == own else inSmallLetters name == inSmallLetters own

/-- The value that the text of a variable gives. -/
def valueOf (c : Convention) (text : String) : Json.Value :=
  if c.nullText == some text then .null else .text text

end Convention

/-- A variable supplies the field that it is named for; the last of several counts. -/
def ofVariables (c : Convention) (env : Environment) : Supply := fun f =>
  (env.vars.reverse.find? fun v =>
    c.isNamedFor f v.1 && !(c.skipsEmpty && v.2.isEmpty)).map fun v => c.valueOf v.2

/-- A variable supplies the field that it is named for, in any letter case. -/
def ofEnvironment (env : Environment) : Supply := ofVariables {} env

/-- The value says nothing: it is null, false, zero, or without parts. -/
def isVoid : Json.Value → Bool
  | .null => true
  | .bool b => !b
  | .int n => n == 0
  | .float x => x.isZero
  | .text t => t == .plain ""
  | .list items => items.isEmpty
  | .object members => members.isEmpty

/-- An override of this name that is not null. -/
def override? (overrides : Json.Members) (name : String) : Option Json.Value :=
  (Keyed.get? overrides (.plain name)).filter isPresent

/-- The convention that overrides ask for, besides supplying fields; none if what they want in front
of the names is no text. -/
def conventionOf? (overrides : Json.Members) : Option Convention :=
  let given := override? overrides
  let rest : Convention :=
    { exact := (given "_case_sensitive").any (!isVoid ·)
      skipsEmpty := (given "_env_ignore_empty").any (!isVoid ·)
      nullText := match given "_env_parse_none_str" with
        | some (.text t) => t.string?
        | _ => none }
  match given "_env_prefix" with
  | none => some rest
  | some (.text t) => some { rest with lead := t.shown }
  | some _ => none

end Settings

end Drift
