import Drift.Command
import Drift.Configuration
import Drift.Report
import Drift.Scan
import Drift.Snapshot.File
import Drift.Terminal
import Drift.Terminal.Message
import Drift.Terminal.Screen
import Drift.Terminal.Table
import Drift.Unicode.Line

/-!
# Running commands

* `Surroundings` — what a command works in: the environment, the files and the grammars.
* `Command.run` — what a command does under given settings: the files after it, the events, and what
  it prints.
* `Outcome` — what the user sees of a run.
* `run` — a whole command line.
-/

namespace Drift

/-- What a command **works in**. -/
structure Surroundings where
  environment : Settings.Environment
  files : FileSystem
  grammars : Grammars

/-! ## Commands -/

/-- What a command that succeeds **prints**, and whether it found changes. -/
structure Printout where
  output : String
  changed : Bool := false

namespace Command

/-- Each text on a line. -/
def lines (texts : List String) : String := String.join (texts.map (· ++ "\n"))

/-- The name of the file for snapshots: the given one, or else that of the settings. -/
def snapshotName (settings : Settings) (given : Option String) : Json.Text :=
  (given.map Json.Text.plain).getD settings.logPath

/-- The report of halves of surrogate pairs in the name of a file, by their place in its path. -/
def halvesIn (run : Json.Text.Run) : Unencodable :=
  let before := run.before.map fun point => if Json.isHalf point then '?' else Char.ofNat point
  let offset := (Path.ofString (String.ofList (before ++ ['?']))).text.length - 1
  ⟨.utf8, offset, run.first, run.length, "surrogates not allowed"⟩

/-- The file of a name, if there can be one. -/
def fileOf (name : Json.Text) : Except Fault Path :=
  match name.refused? with
  | some run => .error (.unencodable (halvesIn run))
  | none => .ok (Path.ofString name.shown)

/-- The regions below a directory, by a registry in which nothing has been prepared. -/
def scan (s : Surroundings) (directory language : String) (extensions : List String) :
    Logged (List Region) :=
  (Scan.regions s.files s.grammars .fresh (Path.ofString directory).text language extensions).2

/-- Compares the regions below a directory with those of a snapshot. -/
def compare (s : Surroundings) (name : Json.Text) (directory language : String)
    (extensions : List String) : Logged Printout := do
  let snapshot ← Logged.ofFault (fileOf name)
  let old ← Snapshot.read s.files snapshot
  let new ← scan s directory language extensions
  let d := Difference.between old new
  return { output := lines ((Report.lines d).map Terminal.report), changed := d.hasChanges }

/-- Text that is laid out for the screen, if its width is known. -/
def laidOut (s : Surroundings) (text : Nat → List String) : Except Failure Printout :=
  match Terminal.columns s.environment with
  | .error fault => .error (.fault fault)
  | .ok columns => .ok { output := lines (text columns) }

/-- A message on the screen. -/
def say (s : Surroundings) (message : String) : Except Failure Printout :=
  laidOut s fun _ => [Terminal.message message]

/-- What is said of a snapshot that has been written, if its name can be printed. -/
def written (s : Surroundings) (name : Json.Text) (snapshot : Path) (count : Nat) :
    Except Failure Printout := do
  let said ← say s (Report.written (.text snapshot.text) (.int count))
  match name.unprintable? with
  | some run => .error (.fault (.unprintable (halvesIn run)))
  | none => return said

/-- Records regions in a snapshot, if there are any. -/
def keep (s : Surroundings) (settings : Settings) (name : Json.Text) (directory : String)
    (regions : List Region) : FileSystem × Logged Printout :=
  if regions.isEmpty then
    (s.files, .fail (.issue (.noRegions (Path.ofString directory).text)))
  else
    match fileOf name with
    | .error fault => (s.files, .fail (.fault fault))
    | .ok snapshot =>
      let (files, m) := Snapshot.write s.files snapshot regions settings.compressionLevel.val
      (files, m.bind fun _ => ⟨[], written s name snapshot regions.length⟩)

/-- Records the regions below a directory in a snapshot. -/
def record (s : Surroundings) (settings : Settings) (name : Json.Text)
    (directory language : String) (extensions : List String) : FileSystem × Logged Printout :=
  let found := scan s directory language extensions
  match found.result with
  | .error failure => (s.files, ⟨found.events, .error failure⟩)
  | .ok regions =>
    let (files, m) := keep s settings name directory regions
    (files, ⟨found.events ++ m.events, m.result⟩)

/-- The table of languages. -/
def languageTable : Terminal.Table where
  title := "Supported languages"
  headings := ["Language", "Aliases"]
  rows := Language.all.map fun l => [l.name, ", ".intercalate l.aliases]

/-- A value as it is printed behind its field. -/
def valueText : Json.Value → String
  | .int n => toString n
  | .text t => t.shown
  | _ => ""

/-- The settings are printed in their order, and characters beyond ASCII are escaped. -/
def settingsStyle : Json.Style where
  escapeNonAscii := true
  sortKeys := false

/-- Runs a command that **changes no files**. -/
def answer (s : Surroundings) (settings : Settings) : Command → Logged Printout
  | code directory language extensions output _ =>
    compare s (snapshotName settings output) directory language extensions
  | log path => do
    let snapshot ← Logged.ofFault (fileOf (snapshotName settings path))
    let regions ← Snapshot.read s.files snapshot
    return { output := lines [Terminal.report (Report.listing regions)] }
  | listParsers => ⟨[], laidOut s languageTable.lines⟩
  | checkParser language => do
    let l ← (Registry.check s.grammars.load .fresh language).2
    ⟨[], say s (String.join ["Parser for ", l.name, " is available."])⟩
  | setField .. => return { output := "" }
  | showSettings =>
    return { output := lines [Terminal.report (Json.render settingsStyle settings.record)] }
  | showPath =>
    return { output := lines [Terminal.report (Configuration.path s.environment).text] }

/-- **Runs a command**: the files after it, the events, and what it prints. -/
def run (s : Surroundings) (settings : Settings) (c : Command) : FileSystem × Logged Printout :=
  match c with
  | code directory language extensions output false =>
    record s settings (snapshotName settings output) directory language extensions
  | setField field value =>
    match Configuration.store s.environment s.files field value with
    | (files, .error failure) => (files, .fail failure)
    | (files, .ok stored) => (files, ⟨[], say s (String.join [field, " = ", valueText stored])⟩)
  | c => (s.files, answer s settings c)

end Command

/-! ## Command lines -/

/-- What is written to the **error output**: a text and the end of its line, or an object on a line
of its own. -/
inductive ErrorOutput where
  | text (s : String)
  | object (v : Json.Value)

/-- The lines of a text that is written, or the object on its own. -/
def ErrorOutput.lines : ErrorOutput → List ErrorOutput
  | .text s => (Unicode.lines (s ++ "\n").toList).map fun line => .text (String.ofList line)
  | .object v => [.object v]

/-- What the user **sees of a run**. -/
structure Outcome where
  exitCode : Nat
  output : String := ""
  errors : List ErrorOutput := []
  /-- The fault that ended the run. -/
  fault : Option Fault := none

/-- A run: the files after it, the events, and what the user sees. -/
structure Run where
  files : FileSystem
  events : List Event
  outcome : Outcome

namespace Run

/-- An event is shown when it matters as much as the settings ask for. -/
def isShown (settings : Settings) (n : Note) : Bool := settings.logLevel.rank ≤ n.level.rank

/-- A note as it is written in the format of the settings, if it can be. -/
def writeNote? (settings : Settings) (n : Note) : Option ErrorOutput :=
  match settings.logFormat with
  | .json => (Terminal.noteObject? n).map .object
  | .console => some (.text (Terminal.noteLine true n))

/-- The notes as they are written, up to the first that cannot be, and whether all of them are. -/
def writeNotes (settings : Settings) : List Note → List ErrorOutput × Bool
  | [] => ([], true)
  | n :: rest =>
    match writeNote? settings n with
    | none => ([], false)
    | some line =>
      let (lines, complete) := writeNotes settings rest
      (line :: lines, complete)

/-- The notes of the events that are shown. -/
def shownNotes (settings : Settings) (events : List Event) : List Note :=
  (events.map Event.note).filter (isShown settings)

/-- What is said of an issue. -/
def issueText (i : Issue) : ErrorOutput := .text (Terminal.messageAfter "error: " i.text)

/-- The outcome with the notes of the events in front of its errors. A note that cannot be written
ends the run there. -/
def afterNotes (settings : Settings) (events : List Event) (o : Outcome) : Outcome :=
  match writeNotes settings (shownNotes settings events) with
  | (lines, true) => { o with errors := lines ++ o.errors }
  | (lines, false) => { exitCode := 1, errors := lines, fault := some .wrongForm }

/-- What the user sees of an issue, if the width of the screen is known. -/
def reported (s : Surroundings) (i : Issue) : Outcome :=
  match Terminal.columns s.environment with
  | .error fault => { exitCode := 1, fault := some fault }
  | .ok _ => { exitCode := 1, errors := [issueText i] }

/-- What the user sees of a command that has run. -/
def outcomeOf (s : Surroundings) (settings : Settings) (m : Logged Printout) : Outcome :=
  match m.result with
  | .ok r =>
    afterNotes settings m.events { exitCode := if r.changed then 1 else 0, output := r.output }
  | .error (.issue i) =>
    afterNotes settings (m.events ++ [.commandFailed i]) (reported s i)
  | .error (.fault f) => afterNotes settings m.events { exitCode := 1, fault := some f }

/-- What the user sees when there is no command. -/
def withoutCommand : NoCommand → Outcome
  | .misused => { exitCode := 2 }
  | .help => { exitCode := 0 }

/-- What the user sees when the settings cannot be loaded: the note of the failure is printed, as
nothing is known about where notes go. -/
def withoutSettings (s : Surroundings) : Failure → Outcome
  | .issue i =>
    { reported s i with output := Terminal.noteLine false (Event.commandFailed i).note ++ "\n" }
  | .fault f => { exitCode := 1, fault := some f }

/-- The settings that a command line overrides. -/
def overrides (i : Invocation) : Json.Members :=
  (i.logLevel.map fun v => (.plain "log_level", Json.Value.text v)).toList
    ++ (i.logFormat.map fun v => (.plain "log_format", Json.Value.text v)).toList

end Run

/-- Runs a **command line**, whose words are texts. -/
def run (s : Surroundings) (line : List String) : Run :=
  match Invocation.parse line with
  | .error why => ⟨s.files, [], Run.withoutCommand why⟩
  | .ok invocation =>
    match Configuration.load s.environment s.files (Run.overrides invocation) with
    | .error failure => ⟨s.files, [], Run.withoutSettings s failure⟩
    | .ok settings =>
      match invocation.group.parse invocation.rest with
      | .error why => ⟨s.files, [], Run.withoutCommand why⟩
      | .ok command =>
        let (files, m) := command.run s settings
        ⟨files, m.events, Run.outcomeOf s settings m⟩

end Drift
