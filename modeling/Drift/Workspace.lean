import Drift.Argument
import Drift.Command.Run
import Drift.Draft

/-!
# Workspaces

* `Workspace` — files, an environment and grammars, with what has been prepared and recorded so far.
* `Step` — one thing done in a workspace; `Answer` — what it gives.
* `Workspace.step` — the workspace after a step, with the answer and the events.
-/

namespace Drift

/-- Files, an environment and grammars, **with what has been done** so far. -/
structure Workspace where
  files : FileSystem
  environment : Settings.Environment
  grammars : Grammars
  /-- The parsers of this workspace. -/
  registry : Registry
  /-- The parsers that everyone shares. Each command line begins with new ones. -/
  shared : Registry
  /-- The languages whose grammars were asked for, in order. -/
  attempts : List String
  /-- The regions last read or extracted. -/
  regions : List Region

/-- A question to a registry. -/
inductive Query where
  | resolve (language : String)
  | check (language : String)
  | parser (language : String)
  | supports (language : String)
  | languages
  | aliases

/-- The answer of a registry. -/
inductive Reply where
  | language (l : Language)
  | truth (b : Bool)
  | languages (ls : List Language)
  | aliases (table : List (Language × List String))

/-- One **thing done** in a workspace. -/
inductive Step where
  | install (items : List (String × Entry))
  | remove (path : String)
  /-- Sets variables, or takes those away whose value is none. -/
  | setVariables (changes : Named)
  | listPaths
  | show (path : String)
  /-- Reads a source in a named encoding, unless no text names it. -/
  | readSource (path : String) (encoding : Literal)
  | discover (root : String) (extensions : List String)
  /-- Extracts the regions below a root, if there are extensions to look for. -/
  | extract (root language : String) (extensions : Except Fault (List String))
  /-- Writes a snapshot of the given drafts, or of the regions last read or extracted. -/
  | write (path : String) (drafts : Option (List Draft)) (level : Snapshot.Level)
  | read (path : String)
  | compare (path : String)
  | ask (shared : Bool) (query : Query)
  | configurationPath
  | loadSettings (overrides : Json.Members)
  | readConfiguration
  | storeField (field : Literal) (value : Json.Value)
  | run (line : List String)

/-- What a step **gives**. -/
inductive Answer where
  | done
  | paths (ps : List String)
  | text (s : String)
  | path (p : String)
  | source (s : Source) (bytes : Bytes)
  | sources (ss : List Source)
  | regions (rs : List Region)
  /-- The number of bytes written is the size of the file. -/
  | written (exactly : Bool)
  | difference (old new : List Region)
  | reply (r : Reply)
  | settings (s : Settings)
  | members (ms : Json.Members)
  | value (v : Json.Value)
  | outcome (o : Outcome)

/-! ## Registries -/

namespace Registry

/-- Puts a question to a registry. -/
def ask (loader : Loader) (r : Registry) : Query → Registry × Logged Reply
  | .resolve language => (r, Logged.ofIssue ((resolve language).map .language))
  | .check language =>
    let (r, m) := r.check loader language
    (r, m.bind fun l => .ok (.language l))
  | .parser language =>
    let (r, m) := r.parser loader language
    (r, m.bind fun p => .ok (.language p.language))
  | .supports language => (r, .ok (.truth (Language.ofName? language).isSome))
  | .languages => (r, .ok (.languages Language.all))
  | .aliases => (r, .ok (.aliases (Language.all.map fun l => (l, l.aliases))))

/-- A registry in which nothing but the grammars loaded in some events has been prepared. -/
def ofEvents (events : List Event) : Registry :=
  events.foldl (fun r e =>
    match e with
    | .grammarLoaded language => (Language.ofName? language).elim r (r.set · .loaded)
    | _ => r) fresh

end Registry

/-- The language whose grammar was asked for, in the event that tells how it went. -/
def Event.attempt? : Event → Option String
  | .grammarLoaded language => some language
  | .grammarLoadFailed language _ => some language
  | _ => none

namespace Workspace

/-- The name of the directory of a workspace. No path spells it. -/
def directoryName : String := "/"

/-- The files at first: the directory of the workspace, and a sink among the devices. -/
def initialFiles : FileSystem where
  tree := .directory [("dev", .directory [("null", .sink)]), (directoryName, .empty)]
  here := [directoryName]

/-- The accounts of the machine, of which the superuser's is the program's. -/
def initialAccounts : Settings.Accounts where
  own := "/root"
  named :=
    [("root", "/root"), ("daemon", "/usr/sbin"), ("bin", "/bin"), ("sys", "/dev"),
     ("sync", "/bin"), ("games", "/usr/games"), ("man", "/var/cache/man"),
     ("lp", "/var/spool/lpd"), ("mail", "/var/mail"), ("news", "/var/spool/news"),
     ("uucp", "/var/spool/uucp"), ("proxy", "/bin"), ("www-data", "/var/www"),
     ("backup", "/var/backups"), ("list", "/var/list"), ("irc", "/run/ircd"),
     ("_apt", "/nonexistent"), ("nobody", "/nonexistent")]

/-- An empty workspace. -/
def empty (vars : Settings.Variables) (grammars : Grammars) : Workspace where
  files := initialFiles
  environment := ⟨vars, initialAccounts⟩
  grammars := grammars
  registry := .fresh
  shared := .fresh
  attempts := []
  regions := []

/-- What commands work in. -/
def surroundings (w : Workspace) : Surroundings := ⟨w.environment, w.files, w.grammars⟩

/-- Sets entries one after the other. -/
def installAll (w : Workspace) : List (String × Entry) → Workspace × Logged Answer
  | [] => (w, .ok .done)
  | (path, e) :: rest =>
    match w.files.install (Path.ofString path) e with
    | .error fault => (w, .fail (.fault fault))
    | .ok files => installAll { w with files := files } rest

/-- A variable can have this name and this value. -/
def checkVariable (name value : String) : Except Fault Unit :=
  if name.toList.contains '\x00' || value.toList.contains '\x00' then
    .error (.environment .nul)
  else if name.toList.contains '=' then .error (.environment .equalsSign)
  else if name.isEmpty then .error (.environment .noName)
  else .ok ()

/-- Sets a variable, or takes it away if its value is none. -/
def setVariable (vars : Settings.Variables) (name : String) :
    Literal → Except Fault Settings.Variables
  | .none => .ok (Keyed.erase vars name)
  | .text value => (checkVariable name value).map fun _ => Keyed.put name value vars
  | _ => .error .wrongForm

/-- Sets variables one after the other, up to the first that is refused. -/
def setVariables (vars : Settings.Variables) :
    Named → Settings.Variables × Except Fault Unit
  | [] => (vars, .ok ())
  | (name, v) :: rest =>
    match setVariable vars name v with
    | .error fault => (vars, .error fault)
    | .ok vars => setVariables vars rest

/-- The workspace with the regions, if there are any. -/
def keep (w : Workspace) (m : Logged (List Region)) : Workspace × Logged Answer :=
  match m.result with
  | .ok regions => ({ w with regions := regions }, m.bind fun rs => .ok (.regions rs))
  | .error _ => (w, m.bind fun rs => .ok (.regions rs))

/-- The file has this many bytes. -/
def hasSize (fs : FileSystem) (p : Path) (size : Nat) : Bool :=
  match fs.read p with
  | .ok bytes => bytes.length == size
  | .error _ => false

/-- Reads a source in the encoding that a value names, which is looked at once there are bytes. -/
def readSource (fs : FileSystem) (p : Path) : Literal → Logged Answer
  | .text encoding => do
    let s ← ⟨[], Source.ofFile fs p encoding⟩
    let bytes ← Logged.ofFault s.bytes
    return .source s bytes
  | _ =>
    match fs.read p with
    | .error fault => .fail (Source.unreadable p.text fault)
    | .ok _ => .fail (.fault .wrongForm)

/-- Extracts the regions below a root, if there are extensions to look for. -/
def extract (w : Workspace) (root language : String) :
    Except Fault (List String) → Registry × Logged (List Region)
  | .ok extensions => Scan.regions w.files w.grammars w.registry root language extensions
  | .error fault =>
    Scan.byParser w.grammars w.registry language fun _ =>
      Scan.framed root language (.fail (.fault fault))

/-- Sets a field of the configuration file; no field is named by anything but a text. -/
def storeField (env : Settings.Environment) (fs : FileSystem) (field : Literal)
    (v : Json.Value) : FileSystem × Except Failure Json.Value :=
  match field with
  | .text name => Configuration.storeValue env fs name v
  | field =>
    (fs, .error (if field.isFixed then .issue (Configuration.noField field)
      else .fault .wrongForm))

/-- Does one thing, up to the record of the grammars that were asked for. -/
def perform (w : Workspace) : Step → Workspace × Logged Answer
  | .install items => w.installAll items
  | .remove path =>
    match w.files.remove (Path.ofString path) with
    | .error fault => (w, .fail (.fault fault))
    | .ok files => ({ w with files := files }, .ok .done)
  | .setVariables changes =>
    let (vars, r) := setVariables w.environment.vars changes
    ({ w with environment.vars := vars }, Logged.ofFault (r.map fun _ => .done))
  | .listPaths => (w, .ok (.paths w.files.listing))
  | .show path =>
    (w, Logged.ofFault ((Configuration.readText w.files (Path.ofString path)).map fun cs =>
      .text (String.ofList cs)))
  | .readSource path encoding => (w, readSource w.files (Path.ofString path) encoding)
  | .discover root extensions =>
    (w, do return .sources (← Discovery.discover w.files (Path.ofString root) extensions))
  | .extract root language extensions =>
    let (registry, m) := extract w root language extensions
    { w with registry := registry }.keep m
  | .write path drafts level =>
    let p := Path.ofString path
    let (files, m) :=
      match drafts with
      | none => Snapshot.writeAt w.files p w.regions level
      | some ds => Snapshot.place w.files p ds.length (Snapshot.ofPayload (Draft.encode ds) level)
    ({ w with files := files }, do return .written (hasSize files p (← m)))
  | .read path => w.keep (Snapshot.read w.files (Path.ofString path))
  | .compare path =>
    (w, do return .difference (← Snapshot.read w.files (Path.ofString path)) w.regions)
  | .ask shared query =>
    if shared then
      let (registry, m) := w.shared.ask w.grammars.load query
      ({ w with shared := registry }, do return .reply (← m))
    else
      let (registry, m) := w.registry.ask w.grammars.load query
      ({ w with registry := registry }, do return .reply (← m))
  | .configurationPath => (w, .ok (.path (Configuration.path w.environment).text))
  | .loadSettings overrides =>
    (w, ⟨[], (Configuration.load w.environment w.files overrides).map .settings⟩)
  | .readConfiguration => (w, ⟨[], (Configuration.read w.environment w.files).map .members⟩)
  | .storeField field value =>
    let (files, r) := storeField w.environment w.files field value
    ({ w with files := files }, ⟨[], r.map .value⟩)
  | .run line =>
    let r := Drift.run w.surroundings line
    ({ w with files := r.files, shared := .ofEvents r.events },
      ⟨r.events, .ok (.outcome r.outcome)⟩)

/-- **Does one thing**: the workspace after it, with the answer and the events. -/
def step (w : Workspace) (s : Step) : Workspace × Logged Answer :=
  let (after, m) := w.perform s
  ({ after with attempts := w.attempts ++ m.events.filterMap Event.attempt? }, m)

end Workspace

end Drift
