import Drift.Command.Run

/-!
# The program

Runs a command line on the files of the machine. No grammar comes with the program, so that commands
that need one report that it is missing; of the files, only the configuration and the snapshot are
read and written.
-/

namespace Drift.Main

/-- No grammar can be loaded. -/
def grammars : Grammars := ⟨Language.all.map fun l => (l, "no grammar is installed"), []⟩

/-- The variables in the block of bytes that the system gives. -/
def vars (block : Bytes) : Settings.Variables :=
  (block.splitOn 0).filterMap fun entry =>
    match Utf8.decodeString entry with
    | .ok s =>
      let name := s.toList.takeWhile (· != '=')
      if name.isEmpty then none
      else some (String.ofList name, String.ofList (s.toList.drop (name.length + 1)))
    | .error _ => none

/-- The accounts in the table of the system, and the directory of the user of a number. -/
def accounts (table user : String) : Settings.Accounts :=
  let entries := (table.splitOn "\n").map (·.splitOn ":")
  { own := (entries.findSome? fun
      | [_, _, number, _, _, directory, _] => if number == user then some directory else none
      | _ => none).getD "~"
    named := entries.filterMap fun
      | [name, _, _, _, _, directory, _] => some (name, directory)
      | _ => none }

/-- The number of the user who runs a program, in the report of the system on it. -/
def user (report : String) : String :=
  ((report.splitOn "\n").findSome? fun line =>
    match line.splitOn "\t" with
    | "Uid:" :: number :: _ => some number
    | _ => none).getD ""

/-- The snapshot file of that name. -/
def snapshotPath (settings : Settings) (given : Option String) : Path :=
  Path.ofString (Command.snapshotName settings given).shown

/-- The snapshot file that a command line works with, under the settings. -/
def snapshot? (env : Settings.Environment) (fs : FileSystem) (line : List String) : Option Path :=
  match Invocation.parse line with
  | .error _ => none
  | .ok i =>
    match Configuration.load env fs (Run.overrides i), i.group.parse i.rest with
    | .ok settings, .ok (.code _ _ _ output _) => some (snapshotPath settings output)
    | .ok settings, .ok (.log path) => some (snapshotPath settings path)
    | _, _ => none

/-- The bytes of a file. -/
def content? (fs : FileSystem) (p : Path) : Option Bytes := (fs.read p).toOption

/-- Takes a file of the machine into the file system. -/
def fetch (fs : FileSystem) (p : Path) : IO FileSystem := do
  try
    let content ← IO.FS.readBinFile p.text
    return ((fs.install p (.file content.toList)).toOption).getD fs
  catch _ => return fs

/-- Gives a file of the machine the content that it has in the file system, if that has changed. -/
def save (before after : FileSystem) (p : Path) : IO Unit := do
  match content? after p with
  | none => return
  | some content =>
    if content? before p != some content then
      IO.FS.createDirAll p.parent.text
      IO.FS.writeBinFile p.text ⟨content.toArray⟩

/-- Prints what is written to the error output. -/
def printError : ErrorOutput → IO Unit
  | .text s => IO.eprintln s
  | .object v => IO.eprintln (Json.render ⟨true, false, false⟩ v)

/-- Runs a command line; gives the exit code. -/
def run (line : List String) : IO UInt32 := do
  let report ← IO.FS.readFile "/proc/self/status"
  let env : Settings.Environment :=
    { vars := vars (← IO.FS.readBinFile "/proc/self/environ").toList
      accounts := accounts (← IO.FS.readFile "/etc/passwd") (user report) }
  let here := (Path.ofString (toString (← IO.currentDir))).parts
  let empty : FileSystem := ⟨Entry.empty, []⟩
  let based := (empty.makeDirectories ⟨.root, here⟩).1
  let configured ← fetch { based with here := here } (Configuration.path env)
  let start ← match snapshot? env configured line with
    | some p => fetch configured p
    | none => pure configured
  let r := Drift.run ⟨env, start, grammars⟩ line
  save start r.files (Configuration.path env)
  IO.print r.outcome.output
  r.outcome.errors.forM printError
  match r.outcome.fault with
  | some f => IO.eprintln (f.label ++ ": " ++ f.message)
  | none => pure ()
  return UInt32.ofNat r.outcome.exitCode

end Drift.Main

/-- The program: runs its arguments as a command line. -/
def main (arguments : List String) : IO UInt32 := Drift.Main.run arguments
