import Drift.Failure

/-!
# Snapshots

A snapshot is a compressed stream of a payload.

* `Snapshot.dump`, `Snapshot.dumpAt` — the snapshot of a list of regions at a level of compression;
  `Snapshot.ofPayload` is that of any payload.
* `Snapshot.load` — the regions of a snapshot.
-/

namespace Drift.Snapshot

/-! ## Levels of compression -/

/-- The level used when none is given. -/
def defaultLevel : Int := 6

/-- A level, or why there is none. -/
abbrev Level := Except Zlib.Level.Fault Zlib.Level

/-- The level that a value stands for; the truth values stand for one and zero. -/
def Level.ofLiteral : Literal → Level
  | .int n => Zlib.Level.ofInt n
  | .bool b => Zlib.Level.ofInt (if b then 1 else 0)
  | _ => .error .noNumber

/-! ## Streams -/

/-- The snapshot of a payload at a level, if there are both. The payload is laid down before the
level is judged. -/
def ofPayload (payload : Except MessagePack.WriteFault Bytes) (level : Level) :
    Except Drift.Fault Bytes :=
  match payload with
  | .error fault => .error (.write fault)
  | .ok payload =>
    match level with
    | .error fault => .error (.level fault)
    | .ok level => .ok (Zlib.compress level payload)

/-- The snapshot of a list of regions at a level. -/
def dumpAt (regions : List Region) (level : Level) : Except Drift.Fault Bytes :=
  ofPayload (encode regions) level

/-- The **snapshot of a list of regions** at the level of a number. -/
def dump (regions : List Region) (level : Int) : Except Drift.Fault Bytes :=
  dumpAt regions (Zlib.Level.ofInt level)

/-- The **regions of a snapshot**. -/
def load (snapshot : Bytes) : Except Issue (List Region) :=
  match Zlib.decompress snapshot with
  | .error fault => .error fault.issue
  | .ok payload =>
    match decode payload with
    | .error fault => .error fault.issue
    | .ok regions => .ok regions

end Drift.Snapshot
