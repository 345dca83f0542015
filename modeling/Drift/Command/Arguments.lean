/-!
# Command line arguments

* `Switch` — how an option is written, and whether a value follows it.
* `Arguments.scan` — the options and the other arguments of a command line, or nothing when it is
  malformed. A value follows its option as the next argument, behind an equals sign, or directly
  behind a single letter; two dashes end the options.
-/

namespace Drift

/-- An **option** of a command. -/
structure Switch where
  /-- The long spelling, by which the option is known. -/
  name : String
  /-- The letter of the short spelling. -/
  letter : Option Char
  /-- A value follows. -/
  takesValue : Bool

/-- The arguments of a command line **by what they are**: options with their values, and the others,
each in their order. -/
structure Arguments where
  options : List (String × String)
  others : List String

namespace Arguments

/-- No arguments. -/
def none : Arguments := ⟨[], []⟩

/-- What an argument that begins with a dash gives: options that are complete, and the name of one
that still waits for its value. -/
structure Reading where
  options : List (String × String)
  waiting : Option String

/-- The argument begins with a dash and is more than that. -/
def isSwitch (argument : List Char) : Bool :=
  match argument with
  | '-' :: _ :: _ => true
  | _ => false

/-- Reads options by their letters. A letter that takes a value takes the rest. -/
def readLetters (switches : List Switch) : List Char → Option Reading
  | [] => some ⟨[], .none⟩
  | c :: rest =>
    match switches.find? (·.letter == some c) with
    | .none => .none
    | some s =>
      if s.takesValue then
        if rest.isEmpty then some ⟨[], some s.name⟩
        else some ⟨[(s.name, String.ofList rest)], .none⟩
      else (readLetters switches rest).map fun r => { r with options := (s.name, "") :: r.options }

/-- Reads an argument that begins with a dash. -/
def readSwitch (switches : List Switch) (argument : List Char) : Option Reading :=
  let name := String.ofList (argument.takeWhile (· != '='))
  match switches.find? (·.name == name), argument.dropWhile (· != '=') with
  | some s, '=' :: value =>
    if s.takesValue then some ⟨[(s.name, String.ofList value)], .none⟩ else .none
  | some s, _ => some (if s.takesValue then ⟨[], some s.name⟩ else ⟨[(s.name, "")], .none⟩)
  | .none, _ =>
    match argument with
    | '-' :: '-' :: _ => .none
    | _ => readLetters switches argument.tail

/-- Reads on behind what has been read so far. When options must stand in front, the first argument
that is none ends them. -/
def scanFrom (switches : List Switch) (optionsFirst : Bool) (found : Arguments) :
    List String → Option Arguments
  | [] => some found
  | argument :: rest =>
    if argument = "--" then some { found with others := found.others ++ rest }
    else if isSwitch argument.toList then
      match readSwitch switches argument.toList with
      | .none => .none
      | some ⟨options, .none⟩ =>
        scanFrom switches optionsFirst { found with options := found.options ++ options } rest
      | some ⟨options, some name⟩ =>
        match rest with
        | [] => .none
        | value :: rest =>
          scanFrom switches optionsFirst
            { found with options := found.options ++ options ++ [(name, value)] } rest
    else if optionsFirst then some { found with others := argument :: rest }
    else scanFrom switches optionsFirst { found with others := found.others ++ [argument] } rest

/-- The **options and the other arguments** of a command line. -/
def scan (switches : List Switch) (optionsFirst : Bool) (line : List String) : Option Arguments :=
  scanFrom switches optionsFirst none line

/-- The option is there. -/
def has (a : Arguments) (name : String) : Bool := a.options.any (·.1 == name)

/-- All values of an option. -/
def values (a : Arguments) (name : String) : List String :=
  (a.options.filter (·.1 == name)).map (·.2)

/-- The last value of an option. -/
def value? (a : Arguments) (name : String) : Option String := (a.values name).getLast?

end Arguments

end Drift
