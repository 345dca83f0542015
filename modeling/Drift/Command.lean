import Drift.Command.Arguments

/-!
# Commands

* `Command` — what the user can ask for.
* `Invocation` — a command line as far as it can be read before the settings are known: the settings
  that it overrides, the group of commands, and the rest.
* `Invocation.parse`, `Group.parse` — reading the first part and the rest.
-/

namespace Drift

/-- What the user **asks for**. -/
inductive Command where
  /-- Record the regions below a directory, or compare them with what was recorded. -/
  | code (directory language : String) (extensions : List String) (output : Option String)
    (diff : Bool)
  /-- Print what was recorded. -/
  | log (path : Option String)
  | listParsers
  | checkParser (language : String)
  | setField (field value : String)
  | showSettings
  | showPath
  deriving DecidableEq, Repr

/-- Why a command line gives **no command**. -/
inductive NoCommand where
  /-- It is malformed. -/
  | misused
  /-- It asks for help. -/
  | help
  deriving DecidableEq, Repr

/-- The commands by their **first word**. -/
inductive Group where
  | code
  | log
  | parser
  | config
  deriving DecidableEq, Repr

/-- A command line, **read up to its first word**. -/
structure Invocation where
  logLevel : Option String
  logFormat : Option String
  group : Group
  rest : List String

/-- The option that asks for help. -/
def helpSwitch : Switch := ⟨"--help", none, false⟩

/-- The arguments of a command line, unless it is malformed or asks for help. -/
def Arguments.accept (switches : List Switch) (optionsFirst : Bool) (line : List String) :
    Except NoCommand Arguments :=
  match Arguments.scan (helpSwitch :: switches) optionsFirst line with
  | .none => .error .misused
  | some a => if a.has helpSwitch.name then .error .help else .ok a

namespace Group

/-- The group of that name. -/
def ofName? : String → Option Group
  | "code" => some code
  | "log" => some log
  | "parser" => some parser
  | "config" => some config
  | _ => none

/-! ## Single commands -/

/-- The text can name a file: no name of a file holds the character NUL. -/
def isFileName (s : String) : Bool := !s.toList.contains '\x00'

/-- Reads the arguments of `code`. -/
def parseCode (line : List String) : Except NoCommand Command := do
  let a ← Arguments.accept
    [⟨"--lang", none, true⟩, ⟨"--ext", none, true⟩, ⟨"--output-file", some 'o', true⟩,
     ⟨"--diff", none, false⟩] false line
  match a.others, a.value? "--lang", a.values "--ext" with
  | [directory], some language, e :: es =>
    let output := a.value? "--output-file"
    if isFileName directory && output.all isFileName then
      .ok (.code directory language (e :: es) output (a.has "--diff"))
    else .error .misused
  | _, _, _ => .error .misused

/-- Reads the arguments of `log`. -/
def parseLog (line : List String) : Except NoCommand Command := do
  let a ← Arguments.accept [⟨"--log-path", some 'l', true⟩] false line
  let path := a.value? "--log-path"
  match a.others with
  | [] => if path.all isFileName then .ok (.log path) else .error .misused
  | _ => .error .misused

/-- Reads the arguments of a command without options. -/
def parsePlain (ofArguments : List String → Option Command) (line : List String) :
    Except NoCommand Command := do
  let a ← Arguments.accept [] false line
  match ofArguments a.others with
  | some c => .ok c
  | none => .error .misused

/-! ## Groups of commands -/

/-- Reads the second word of a group, and then the arguments of the command. -/
def parseSecond (ofName? : String → Option (List String → Option Command)) (line : List String) :
    Except NoCommand Command := do
  let a ← Arguments.accept [] true line
  match a.others with
  | [] => .error .misused
  | name :: rest =>
    match ofName? name with
    | none => .error .misused
    | some ofArguments => parsePlain ofArguments rest

/-- The commands about parsers, by the second word. -/
def parserCommand : String → Option (List String → Option Command)
  | "list" => some fun
    | [] => some .listParsers
    | _ => none
  | "check" => some fun
    | [language] => some (.checkParser language)
    | _ => none
  | _ => none

/-- The commands about the configuration, by the second word. -/
def configCommand : String → Option (List String → Option Command)
  | "set" => some fun
    | [field, value] => some (.setField field value)
    | _ => none
  | "show" => some fun
    | [] => some .showSettings
    | _ => none
  | "path" => some fun
    | [] => some .showPath
    | _ => none
  | _ => none

/-- Reads what follows the **first word** of a command line. -/
def parse : Group → List String → Except NoCommand Command
  | code => parseCode
  | log => parseLog
  | parser => parseSecond parserCommand
  | config => parseSecond configCommand

end Group

/-- Reads a command line **up to its first word**. -/
def Invocation.parse (line : List String) : Except NoCommand Invocation := do
  let a ← Arguments.accept [⟨"--log-level", none, true⟩, ⟨"--log-format", none, true⟩] true line
  match a.others with
  | [] => .error .misused
  | name :: rest =>
    match Group.ofName? name with
    | none => .error .misused
    | some group => .ok ⟨a.value? "--log-level", a.value? "--log-format", group, rest⟩

end Drift
