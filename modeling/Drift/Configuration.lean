import Drift.FileSystem
import Drift.Json.Parser
import Drift.Json.Printer
import Drift.Settings

/-!
# The configuration file

* `Configuration.path` — where the file is, by the environment.
* `Configuration.load` — the settings from overrides, the environment and the file.
* `Configuration.read`, `Configuration.store` — the object that the file holds, and the file with
  one field set.
-/

namespace Drift.Configuration

open Settings (Environment Field)

/-! ## Where it is -/

/-- The text without the slashes at its end. -/
def withoutSlashes (s : String) : String :=
  String.ofList (s.toList.reverse.dropWhile (· == '/')).reverse

/-- The user's directory: that of the variable `HOME`, else that of the account. At its end there is
no slash. -/
def home (env : Environment) : String :=
  withoutSlashes ((Keyed.get? env.vars "HOME").getD env.accounts.own)

/-- The directory of the file: the one that a variable names, else one for this program among the
user's configurations. -/
def directory (env : Environment) : Path :=
  match Keyed.get? env.vars "CONTROL_CONFIG_DIR" with
  | some d => if d = "" then common else Path.ofString d
  | none => common
where
  /-- The directory for this program. -/
  common : Path :=
    let configurations := (Keyed.get? env.vars "XDG_CONFIG_HOME").getD (home env ++ "/.config")
    (Path.ofString configurations).child "control"

/-- The **configuration file**. -/
def path (env : Environment) : Path := (directory env).child "config.json"

/-- The directory that a name behind a tilde stands for: the user's own, or that of an account. -/
def homeOf? (env : Environment) (name : String) : Option String :=
  if name = "" then some (home env)
  else (Keyed.get? env.accounts.named name).map withoutSlashes

/-- A first name that begins with a tilde stands for the directory of a user, which must not begin
with a tilde itself. -/
def expandHome (env : Environment) (p : Path) : Except Fault Path :=
  match p.anchor, p.parts with
  | .here, first :: rest =>
    match first.toList with
    | '~' :: name =>
      match homeOf? env (String.ofList name) with
      | none => .error .noHome
      | some directory =>
        if directory.toList.head? = some '~' then .error .noHome
        else .ok ((Path.ofString (directory ++ "/")).join ⟨.here, rest⟩)
    | _ => .ok p
  | _, _ => .ok p

/-! ## What it holds -/

/-- The text of a file. -/
def readText (fs : FileSystem) (p : Path) : Except Fault (List Char) :=
  match fs.read p with
  | .error fault => .error fault
  | .ok bytes => (Encoding.decodeUtf8 bytes).mapError .undecodable

/-- The text with every line end as a line feed, behind the text before it, whose last character
comes first. -/
def plainLineEndsOnto (done : List Char) : List Char → List Char
  | [] => done.reverse
  | '\r' :: '\n' :: rest => plainLineEndsOnto ('\n' :: done) rest
  | '\r' :: rest => plainLineEndsOnto ('\n' :: done) rest
  | c :: rest => plainLineEndsOnto (c :: done) rest

/-- The value of a JSON text, whose lines may end in any way. -/
def parse (text : List Char) : Except Fault Json.Value :=
  let text := plainLineEndsOnto [] text
  (Json.parse text).mapError (.json text)

/-- The two parts of a value that stands for a pair: an array of two items, a text of two
characters, or the keys of an object of two. -/
def pairOf (index : Nat) : Json.Value → Except Fault (Json.Value × Json.Value)
  | .list [k, v] => .ok (k, v)
  | .list items => .error (.notAPair index items.length)
  | .object [(k, _), (v, _)] => .ok (.text k, .text v)
  | .object members => .error (.notAPair index members.length)
  | .text t =>
    match t.points with
    | [k, v] => .ok (.text (.ofPoints [k]), .text (.ofPoints [v]))
    | points => .error (.notAPair index points.length)
  | _ => .error .wrongForm

/-- The members that a list of pairs spells, with a mark for keys that are no texts. A key is a
single value. -/
def membersOfPairs (index : Nat) (done : Json.Members) (others : Bool) :
    List Json.Value → Except Fault (Json.Members × Bool)
  | [] => .ok (done, others)
  | v :: rest =>
    match pairOf index v with
    | .error fault => .error fault
    | .ok (.text key, v) => membersOfPairs (index + 1) (Keyed.put key v done) others rest
    | .ok (.list _, _) | .ok (.object _, _) => .error .wrongForm
    | .ok _ => membersOfPairs (index + 1) done true rest

/-- The members that a value spells: those of an object, or those of a list of pairs. -/
def membersOf : Json.Value → Except Fault Json.Members
  | .object members => .ok members
  | .list items =>
    match membersOfPairs 0 [] false items with
    | .error fault => .error fault
    | .ok (members, others) => if others then .error .keyWithoutText else .ok members
  | .text t => if t = .plain "" then .ok [] else .error (.notAPair 0 1)
  | _ => .error .wrongForm

/-- The report that the configuration cannot be loaded. -/
def notLoaded (env : Environment) : Issue :=
  .configuration ("Could not load configuration from " ++ (path env).text) []

/-- The members of the file, none when there is no file or when it is blank. -/
def members (env : Environment) (fs : FileSystem) : Except Fault Json.Members := do
  let file ← expandHome env (path env)
  if !(← fs.isFile file) then return []
  let text ← readText fs file
  if text.all Unicode.isBlank then return []
  membersOf (← parse text)

/-- A malformed file is reported; any other fault is passed on. -/
def unloadable (env : Environment) : Fault → Failure
  | .json _ (.malformed ..) => .issue (notLoaded env)
  | fault => .fault fault

/-! ## Loading -/

/-- The report that a value does not fit its field. -/
def notFitting (flaw : Field × Settings.Flaw) : Issue :=
  .configuration ("Invalid configuration: " ++ Settings.flawText flaw) []

/-- The **settings** from overrides, the environment, the file and the defaults. -/
def load (env : Environment) (fs : FileSystem) (overrides : Json.Members) :
    Except Failure Settings := do
  let file ← (members env fs).mapError (unloadable env)
  match Settings.conventionOf? overrides with
  | none => .error (.issue (notLoaded env))
  | some convention =>
    (Settings.ofSources
      [Settings.ofPresent overrides, Settings.ofVariables convention env,
        Settings.ofFile file]).mapError fun flaw => .issue (notFitting flaw)

/-! ## Reading and storing -/

/-- The report that the file cannot be read. -/
def notReadable (env : Environment) : Issue :=
  .configuration ("Config file is not readable: " ++ (path env).text) []

/-- The report that the file holds no object. -/
def notAnObject (env : Environment) : Issue :=
  .configuration ("Config file must hold a JSON object: " ++ (path env).text) []

/-- The **object that the file holds**, an empty one when there is no file. -/
def read (env : Environment) (fs : FileSystem) : Except Failure Json.Members := do
  if !(← (fs.isFile (path env)).mapError .fault) then return []
  let text ← (readText fs (path env)).mapError fun fault =>
    match fault with
    | .file .. => .issue (notReadable env)
    | fault => .fault fault
  match parse text with
  | .error (.json _ (.malformed ..)) => .error (.issue (notReadable env))
  | .error fault => .error (.fault fault)
  | .ok (.object members) => .ok members
  | .ok _ => .error (.issue (notAnObject env))

/-- The keys of the file are sorted, and characters beyond ASCII are escaped. -/
def fileStyle : Json.Style where
  escapeNonAscii := true
  sortKeys := true

/-- The content of a file that holds the members. -/
def content (members : Json.Members) : Bytes :=
  Utf8.encode (Json.characters fileStyle (.object members) ++ ['\n'])

/-- The value of a field as it is stored, if the given one fits the field. -/
def normalized (env : Environment) (fs : FileSystem) (f : Field) (given : Json.Value) :
    Except Failure Json.Value := do
  let file ← (members env fs).mapError .fault
  let settings ← (Settings.ofSources
    [Settings.ofMembers [(f.name, given)], Settings.ofEnvironment env,
      Settings.ofFile file]).mapError fun flaw =>
        .issue (.configuration ("Invalid value for " ++ f.name ++ ": " ++ Settings.flawText flaw)
          [("field", .text f.name)])
  return settings.value f

/-- The report that there is no such field. -/
def noField (field : Literal) : Issue :=
  .configuration ("Invalid field: " ++ field.inSentence) [("field", field)]

/-- The members with a field set, and the field's value. -/
def update (env : Environment) (fs : FileSystem) (field : String) (given : Json.Value) :
    Except Failure (Json.Members × Json.Value) := do
  match Field.ofName? field with
  | none => .error (.issue (noField (.text field)))
  | some f =>
    let old ← read env fs
    let v ← normalized env fs f given
    return (Keyed.put (.plain f.name) v old, v)

/-- Sets a field in the file to any value that fits it. -/
def storeValue (env : Environment) (fs : FileSystem) (field : String) (given : Json.Value) :
    FileSystem × Except Failure Json.Value :=
  match update env fs field given with
  | .error failure => (fs, .error failure)
  | .ok (new, v) =>
    match fs.makeDirectories (path env).parent with
    | (fs, .error fault) => (fs, .error (.fault fault))
    | (fs, .ok ()) =>
      match fs.write (path env) (content new) with
      | .error fault => (fs, .error (.fault fault))
      | .ok fs => (fs, .ok v)

/-- **Sets a field** in the file, which is made with its directory when it is missing; gives the
value that is stored. -/
def store (env : Environment) (fs : FileSystem) (field text : String) :
    FileSystem × Except Failure Json.Value :=
  storeValue env fs field (.text text)

end Drift.Configuration
