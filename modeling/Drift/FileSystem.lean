import Drift.Entry
import Drift.Failure
import Drift.Path

/-!
# The file system

* `FileSystem` — a tree of entries and the current directory.
* `Entry.follow`, `Entry.followFrom` — where a list of steps leads: an existing entry, or a free
  name in a directory. Symbolic links are followed, up to a limit.
* `FileSystem.read`, `FileSystem.write`, `FileSystem.makeDirectories` — what is done with files.
* `FileSystem.replace` — gives a file new content in one step: `FileSystem.stage` lays the content
  down under another name beside it, and `FileSystem.rename` puts it in the place of the file.
-/

namespace Drift

/-! ## Following paths -/

/-- What a path is **followed for**. -/
inductive Aim where
  /-- For the entry that it names: a link at the very end is not followed. -/
  | entry
  /-- For what is found at the very end. -/
  | content
  /-- For a file at the very end that is given its content, and made when it is missing. -/
  | writing
  deriving DecidableEq, Repr

/-- Where a path **leads**. -/
inductive Place where
  /-- To an entry, by the names on the straight way from the root. -/
  | taken (names : List String) (e : Entry)
  /-- To a name that is free, in the directory at the end of the names. -/
  | free (directory : List String) (name : String)

namespace Entry

/-- The greatest length of a name, in bytes. -/
def nameLimit : Nat := 255

/-- The greatest count of links that one path leads through. -/
def linkLimit : Nat := 40

/-- The steps that the target of a link asks for: the names between its slashes. An empty name stays
in the directory, as a dot does. -/
def stepsOf (target : String) : List String := (target.toList.splitOn '/').map String.ofList

/-- Nothing but slashes follows a name. -/
def endsInSlashes (rest : List String) : Bool := !rest.isEmpty && rest.all (· == "")

/-- The target of a link starts at the root. -/
def startsAtRoot (target : String) : Bool := target.toList.head? == some '/'

/-- Follows steps from the entry `e` in the tree `top`; `way` holds the names from there back to the
root. A name with slashes behind it is no name for a file, whatever is there. Behind a link `jump`
goes on; without it, no link may be followed. -/
def followWith (top : Entry) (aim : Aim)
    (jump : Option (List String → Entry → List String → Except FileError Place))
    (way : List String) (e : Entry) : List String → Except FileError Place
  | [] => .ok (.taken way.reverse e)
  | step :: rest =>
    match e with
    | .file _ | .link _ | .sink => .error .notDirectory
    | .directory entries =>
      if step = "" ∨ step = "." then followWith top aim jump way e rest
      else if step = ".." then
        match top.get? way.tail.reverse with
        | none => .error .noEntry
        | some above => followWith top aim jump way.tail above rest
      else if aim = .writing ∧ endsInSlashes rest then .error .isDirectory
      else if nameLimit < step.utf8ByteSize then .error .nameTooLong
      else match Keyed.get? entries step with
        | none => if rest = [] then .ok (.free way.reverse step) else .error .noEntry
        | some (.link target) =>
          if rest = [] ∧ aim = .entry then .ok (.taken (step :: way).reverse (.link target))
          else match jump with
            | none => .error .tooManyLinks
            | some jump =>
              let ahead := stepsOf target ++ rest
              if startsAtRoot target then jump [] top ahead else jump way e ahead
        | some below => followWith top aim jump (step :: way) below rest

/-- Follows steps, when `links` more links may be followed. -/
def follow (top : Entry) (aim : Aim) :
    (links : Nat) → List String → Entry → List String → Except FileError Place
  | 0 => followWith top aim none
  | links + 1 => followWith top aim (some (follow top aim links))

/-- Follows steps from the directory at the end of the names. -/
def followFrom (top : Entry) (aim : Aim) (start steps : List String) : Except FileError Place :=
  match top.get? start with
  | none => .error .noEntry
  | some e => follow top aim linkLimit start.reverse e steps

end Entry

/-! ## File systems -/

/-- A **file system**: its tree, and the names on the way from the root to the current directory. -/
structure FileSystem where
  tree : Entry
  here : List String
  deriving Inhabited

namespace FileSystem

/-- The greatest length of a path in bytes, with the mark at its end. -/
def pathLimit : Nat := 4096

/-- Where a path leads. -/
def locate (fs : FileSystem) (aim : Aim) (p : Path) : Except Fault Place :=
  if p.text.toList.contains '\x00' then .error .nulInPath
  else if pathLimit ≤ p.byteLength then .error (.file .nameTooLong p.text)
  else
    (fs.tree.followFrom aim (if p.isAbsolute then [] else fs.here) p.parts).mapError
      (.file · p.text)

/-- The file system with an entry at the end of the names. -/
def put (fs : FileSystem) (names : List String) (e : Entry) : FileSystem :=
  { fs with tree := fs.tree.put e names }

/-! ## Looking -/

/-- What a path leads to, if anything. A way that breaks off or runs in a circle leads to nothing,
and so does a path that holds the character NUL. -/
def entry? (fs : FileSystem) (p : Path) : Except Fault (Option Entry) :=
  match fs.locate .content p with
  | .ok (.taken _ e) => .ok (some e)
  | .ok (.free ..) => .ok none
  | .error (.file .noEntry _) | .error (.file .notDirectory _)
  | .error (.file .tooManyLinks _) | .error .nulInPath => .ok none
  | .error fault => .error fault

/-- The path leads to a regular file. -/
def isFile (fs : FileSystem) (p : Path) : Except Fault Bool :=
  (fs.entry? p).map fun e => e.any (·.isFile)

/-- The path leads to a directory. -/
def isDirectory (fs : FileSystem) (p : Path) : Except Fault Bool :=
  (fs.entry? p).map fun e => e.any (·.isDirectory)

/-- The content of a file. -/
def read (fs : FileSystem) (p : Path) : Except Fault Bytes :=
  match fs.locate .content p with
  | .error fault => .error fault
  | .ok (.taken _ (.file content)) => .ok content
  | .ok (.taken _ .sink) => .ok []
  | .ok (.taken _ (.directory _)) => .error (.file .isDirectory p.text)
  | .ok (.taken _ (.link _)) | .ok (.free ..) => .error (.file .noEntry p.text)

/-! ## Changing -/

/-- Gives a file new content, in its place; a file that is missing is made, and a sink stays. -/
def write (fs : FileSystem) (p : Path) (content : Bytes) : Except Fault FileSystem :=
  match fs.locate .writing p with
  | .error fault => .error fault
  | .ok (.taken _ (.directory _)) => .error (.file .isDirectory p.text)
  | .ok (.taken _ .sink) => .ok fs
  | .ok (.taken names _) => .ok (fs.put names (.file content))
  | .ok (.free directory name) => .ok (fs.put (directory ++ [name]) (.file content))

/-- Makes a directory in a directory that is there. -/
def makeDirectory (fs : FileSystem) (p : Path) : Except Fault FileSystem :=
  match fs.locate .entry p with
  | .error fault => .error fault
  | .ok (.taken ..) => .error (.file .exists p.text)
  | .ok (.free directory name) => .ok (fs.put (directory ++ [name]) .empty)

/-- The path names a directory that is there, or else the given fault stands. -/
def settle (fs : FileSystem) (p : Path) (fault : Fault) : Except Fault Unit :=
  match fault with
  | .file .. =>
    match fs.isDirectory p with
    | .ok true => .ok ()
    | .ok false => .error fault
    | .error other => .error other
  | _ => .error fault

/-- Makes a directory and those above it that are missing; one that is there already is left alone.
Directories made before a failure stay. -/
def makeDirectories (fs : FileSystem) (p : Path) : FileSystem × Except Fault Unit :=
  match fs.makeDirectory p with
  | .ok made => (made, .ok ())
  | .error (.file .noEntry text) =>
    if _h : p.parts = [] then (fs, .error (.file .noEntry text))
    else match makeDirectories fs p.parent with
      | (partly, .error fault) => (partly, .error fault)
      | (partly, .ok ()) =>
        match partly.makeDirectory p with
        | .ok made => (made, .ok ())
        | .error (.file .noEntry text) => (partly, .error (.file .noEntry text))
        | .error fault => (partly, partly.settle p fault)
  | .error fault => (fs, fs.settle p fault)
  termination_by p.parts.length
  decreasing_by
    rw [Path.parent, List.length_dropLast]
    have := List.length_pos_iff.2 _h
    omega

/-- Takes a path up to the directory above at every double dot, whatever is there. -/
def collapse (done : List String) : List String → List String
  | [] => done
  | step :: rest => collapse (if step = ".." then done.dropLast else done ++ [step]) rest

/-- Takes away a file, a link or a whole directory. -/
def remove (fs : FileSystem) (p : Path) : Except Fault FileSystem :=
  match fs.locate .entry p with
  | .error fault => .error fault
  | .ok (.taken names _) => .ok { fs with tree := fs.tree.erase names }
  | .ok (.free ..) => .error (.file .noEntry p.text)

/-! ## Replacing -/

/-- The letters that names for staging are made of. -/
def stagingAlphabet : List Char := "abcdefghijklmnopqrstuvwxyz0123456789_".toList

/-- A number as some letters, the last digit first. -/
def stagingDigits : (count : Nat) → Nat → List Char
  | 0, _ => []
  | count + 1, k =>
    stagingAlphabet.getD (k % stagingAlphabet.length) '_'
      :: stagingDigits count (k / stagingAlphabet.length)

/-- The eight letters of the `k`-th try at a name. -/
def stagingLetters (k : Nat) : String := String.ofList (stagingDigits 8 k)

/-- A path for laying down content before the file at `p` is replaced: beside it, under its name
with a dot before, and letters and an ending behind. -/
def stagingPath (fs : FileSystem) (p : Path) (letters : String) : Path where
  anchor := .root
  parts :=
    collapse (if p.isAbsolute then [] else fs.here) p.parent.parts
      ++ [String.join [".", p.name, ".", letters, ".tmp"]]

/-- How many names are tried. -/
def stagingTries : Nat := 10000

/-- Lays content down in a new file, to take the place of the file at `p`: under the first of some
names that is free, from the `k`-th on. -/
def stage (fs : FileSystem) (p : Path) (content : Bytes) (k : Nat) :
    (tries : Nat) → Except Fault (Path × FileSystem)
  | 0 => .error (.file .noFreeName p.text)
  | tries + 1 =>
    let staged := fs.stagingPath p (stagingLetters k)
    match fs.locate .entry staged with
    | .error fault => .error fault
    | .ok (.taken ..) => stage fs p content (k + 1) tries
    | .ok (.free directory name) => .ok (staged, fs.put (directory ++ [name]) (.file content))

/-- Gives a file another path **in one step**. What is there is replaced, a link itself and not what
it leads to; a directory refuses. -/
def rename (fs : FileSystem) (source p : Path) : Except Fault FileSystem :=
  match fs.locate .entry source with
  | .error fault => .error fault
  | .ok (.free ..) => .error (.file .noEntry source.text)
  | .ok (.taken names e) =>
    let without : FileSystem := { fs with tree := fs.tree.erase names }
    match fs.locate .entry p with
    | .error fault => .error fault
    | .ok place =>
      if p.parts = [] ∨ p.name = ".." then .error (.file .busy p.text)
      else match place with
        | .taken _ (.directory _) => .error (.file .isDirectory p.text)
        | .taken target _ => .ok (without.put target e)
        | .free directory name => .ok (without.put (directory ++ [name]) e)

/-- Gives a file **new content in one step**: it is laid down beside the file, and renamed. If that
is refused, it is taken away again. -/
def replace (fs : FileSystem) (p : Path) (content : Bytes) : FileSystem × Except Fault Unit :=
  match fs.stage p content 0 stagingTries with
  | .error fault => (fs, .error fault)
  | .ok (staged, laid) =>
    match laid.rename staged p with
    | .ok renamed => (renamed, .ok ())
    | .error fault =>
      match laid.remove staged with
      | .ok cleared => (cleared, .error fault)
      | .error (.file .noEntry _) => (laid, .error fault)
      | .error other => (laid, .error other)

/-! ## Setting up -/

/-- Sets an entry, in directories that are made for it. A directory that is there is left alone, and
a link or a sink is set in the place of what is there. -/
def install (fs : FileSystem) (p : Path) (e : Entry) : Except Fault FileSystem :=
  match e with
  | .directory _ =>
    match fs.makeDirectories p with
    | (fs, .ok ()) => .ok fs
    | (_, .error fault) => .error fault
  | .file content =>
    match fs.makeDirectories p.parent with
    | (fs, .ok ()) => fs.write p content
    | (_, .error fault) => .error fault
  | e =>
    match fs.makeDirectories p.parent with
    | (fs, .ok ()) =>
      match fs.locate .entry p with
      | .ok (.taken names _) => .ok (fs.put names e)
      | .ok (.free directory name) => .ok (fs.put (directory ++ [name]) e)
      | .error fault => .error fault
    | (_, .error fault) => .error fault

/-- The paths of everything below the current directory. -/
def listing (fs : FileSystem) : List String :=
  ((fs.tree.get? fs.here).map Entry.paths).getD []

end FileSystem

end Drift
