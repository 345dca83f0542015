import Drift.Extensions
import Drift.Logged
import Drift.Source

/-!
# Discovering sources

* `Discovery.candidates` — the files to read below a root: in each directory first its own files in
  the order of their names, then its directories in that order.
* `Discovery.load` — reads a candidate.
* `Discovery.discover` — the sources below a root.
-/

namespace Drift

/-- A file that is **to be read**. -/
structure Candidate where
  path : Path
  /-- It was found in a directory, not named by the user. -/
  found : Bool
  deriving DecidableEq, Repr

namespace Discovery

/-- The last name of the path has one of the extensions, in any letter case. -/
def selects (extensions : List String) (p : Path) : Bool :=
  extensions.contains (String.ofList (Unicode.lower p.extension))

/-- Items in the order of their names. -/
def byName {α : Type} (items : List (String × α)) : List (String × α) :=
  items.mergeSort fun a b => decide (a.1 ≤ b.1)

/-- What a walk **finds out by paths** about what is below its root. -/
structure View where
  /-- The entries of the directory at the path can be listed. -/
  isListed : Path → Bool
  /-- The link at the path leads to a directory. -/
  leadsToDirectory : Path → Bool

/-- The entry is read as a file, unless it is a link that leads to a directory. -/
def isReadable (view : View) (p : Path) : Entry → Bool
  | .file _ | .sink => true
  | .link _ => !view.leadsToDirectory p
  | .directory _ => false

/-- The paths of the entries of a directory that are read as files, in the order of their names. -/
def filesIn (view : View) (p : Path) (entries : List (String × Entry)) : List Path :=
  ((byName entries).filter fun e => isReadable view (p.child e.1) e.2).map fun e => p.child e.1

mutual

/-- The paths of all files below an entry. A directory that cannot be listed is passed over. -/
def filesBelow (view : View) (p : Path) : Entry → List Path
  | .directory entries =>
    if view.isListed p then
      filesIn view p entries ++ (byName (filesOfEach view p entries)).flatMap (·.2)
    else []
  | _ => []

/-- The paths of all files below each entry of a directory, by the entry's name. -/
def filesOfEach (view : View) (p : Path) : List (String × Entry) → List (String × List Path)
  | [] => []
  | (name, e) :: rest => (name, filesBelow view (p.child name) e) :: filesOfEach view p rest

end

/-- The length in bytes of a path as a walk spells it: below the current directory with a dot and a
slash in front. -/
def walkedLength (root p : Path) : Nat :=
  if root.anchor = .here ∧ root.parts = [] then p.byteLength + 2 else p.byteLength

/-- What a walk below a root finds out. Nothing is found out by a path that is too long as the walk
spells it, or that cannot be followed. -/
def viewFrom (fs : FileSystem) (root : Path) : View where
  isListed p := decide (walkedLength root p < FileSystem.pathLimit)
  leadsToDirectory p :=
    walkedLength root p < FileSystem.pathLimit ∧ (fs.isDirectory p).toOption = some true

/-- The **files to read** below a root; the root itself, when it is a file. -/
def candidates (fs : FileSystem) (root : Path) (extensions : List String) :
    Except Failure (List Candidate) :=
  match fs.entry? root with
  | .error fault => .error (.fault fault)
  | .ok none => .error (.issue (.sourceNotFound root.text))
  | .ok (some (.directory entries)) =>
    .ok (((filesBelow (viewFrom fs root) root (.directory entries)).filter
      (selects extensions)).map (⟨·, true⟩))
  | .ok (some .sink) => .ok []
  | .ok (some _) => .ok (if selects extensions root then [⟨root, false⟩] else [])

/-- Reads a candidate. -/
def load (fs : FileSystem) (c : Candidate) : Logged Source :=
  ⟨if c.found then [.sourceDiscovered c.path.text] else [],
    Source.ofFile fs c.path Source.defaultEncoding⟩

/-- The **sources below a root**, given the arguments that name the extensions. -/
def discover (fs : FileSystem) (root : Path) (arguments : List String) : Logged (List Source) :=
  match candidates fs root (Extensions.normalize arguments) with
  | .error failure => .fail failure
  | .ok files => Logged.concat (fun c => (load fs c).bind fun s => .ok [s]) files

end Discovery

end Drift
