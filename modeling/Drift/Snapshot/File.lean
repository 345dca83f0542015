import Drift.FileSystem
import Drift.Logged
import Drift.Snapshot.Stream

/-!
# Snapshot files

* `Snapshot.read` — the regions of a snapshot file.
* `Snapshot.write`, `Snapshot.writeAt` — replaces a snapshot file in one step, by way of
  `Snapshot.place`. When it fails, nothing has changed.
-/

namespace Drift.Snapshot

/-- A file that cannot be read is reported; any other failure is passed on. -/
def unreadable (p : Path) : Drift.Fault → Failure
  | .file e _ => .issue (.snapshotUnreadable p.text e.text)
  | fault => .fault fault

/-- The **regions of a snapshot file**. -/
def read (fs : FileSystem) (p : Path) : Logged (List Region) :=
  match fs.read p with
  | .error fault => .fail (unreadable p fault)
  | .ok bytes =>
    match load bytes with
    | .error issue => .fail (.issue issue)
    | .ok regions => ⟨[.snapshotRead p.text regions.length], .ok regions⟩

/-- A file that cannot be written is reported; any other failure is passed on. -/
def unwritable (p : Path) : Drift.Fault → Failure
  | .file e _ => .issue (.snapshotUnwritable p.text e.numbered)
  | fault => .fault fault

/-- Puts a snapshot of `count` regions in the place of a file; gives the number of its bytes. -/
def place (fs : FileSystem) (p : Path) (count : Nat) (snapshot : Except Drift.Fault Bytes) :
    FileSystem × Logged Nat :=
  match snapshot with
  | .error fault => (fs, .fail (.fault fault))
  | .ok bytes =>
    match fs.replace p bytes with
    | (fs, .error fault) => (fs, .fail (unwritable p fault))
    | (fs, .ok ()) => (fs, ⟨[.snapshotWritten p.text count], .ok bytes.length⟩)

/-- Replaces a snapshot file; gives the number of its bytes. -/
def writeAt (fs : FileSystem) (p : Path) (regions : List Region) (level : Level) :
    FileSystem × Logged Nat :=
  place fs p regions.length (dumpAt regions level)

/-- **Replaces a snapshot file** at the level of a number; gives the number of its bytes. -/
def write (fs : FileSystem) (p : Path) (regions : List Region) (level : Int) :
    FileSystem × Logged Nat :=
  writeAt fs p regions (Zlib.Level.ofInt level)

end Drift.Snapshot
