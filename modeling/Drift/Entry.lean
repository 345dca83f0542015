import Drift.Bytes
import Drift.Keyed

/-!
# Files and directories

* `Entry` — a file, a symbolic link, a sink or a directory with named entries.
* `Entry.get?`, `Entry.put`, `Entry.erase` — the entry at the end of a list of names, and the tree
  with another one there or none.
* `Entry.paths` — the paths of everything below a directory.
-/

namespace Drift

/-- What a name in a directory **stands for**. Names are texts: there are none whose bytes are no
UTF-8. -/
inductive Entry where
  | file (content : Bytes)
  | link (target : String)
  /-- It takes whatever is written to it and holds nothing. -/
  | sink
  | directory (entries : List (String × Entry))
  deriving Inhabited

namespace Entry

/-- A directory without entries. -/
def empty : Entry := .directory []

/-- The entry is a directory. -/
def isDirectory : Entry → Bool
  | directory _ => true
  | _ => false

/-- The entry is a file. -/
def isFile : Entry → Bool
  | file _ => true
  | _ => false

/-- The entry of a name, directly below a directory. -/
def child? : Entry → String → Option Entry
  | directory entries, name => Keyed.get? entries name
  | _, _ => none

/-- The entry at the end of the names. -/
def get? (e : Entry) : List String → Option Entry
  | [] => some e
  | name :: rest =>
    match e.child? name with
    | some below => below.get? rest
    | none => none

/-- The tree with `new` at the end of the names. Nothing changes when the directory for it is
missing. -/
def put (e : Entry) (new : Entry) : List String → Entry
  | [] => new
  | name :: rest =>
    match e with
    | directory entries =>
      match Keyed.get? entries name, rest with
      | none, [] => directory (Keyed.put name new entries)
      | none, _ => e
      | some below, rest => directory (Keyed.put name (below.put new rest) entries)
    | _ => e

/-- The tree without what stands at the end of the names. -/
def erase (e : Entry) : List String → Entry
  | [] => e
  | name :: rest =>
    match e with
    | directory entries =>
      match Keyed.get? entries name, rest with
      | none, _ => e
      | some _, [] => directory (Keyed.erase entries name)
      | some below, rest => directory (Keyed.put name (below.erase rest) entries)
    | _ => e

mutual

/-- The paths of an entry and of everything below it, behind a prefix; a directory's path ends in a
slash. -/
def pathsFrom (front : String) : Entry → List String
  | directory entries => (front ++ "/") :: pathsOfAll (front ++ "/") entries
  | _ => [front]

/-- The paths of the entries of a directory. -/
def pathsOfAll (front : String) : List (String × Entry) → List String
  | [] => []
  | (name, e) :: rest => pathsFrom (front ++ name) e ++ pathsOfAll front rest

end

/-- The paths of everything below a directory, in ascending order. -/
def paths : Entry → List String
  | directory entries => (pathsOfAll "" entries).mergeSort (fun a b => decide (a ≤ b))
  | _ => []

end Entry

end Drift
