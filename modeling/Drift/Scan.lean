import Drift.Discovery
import Drift.Registry

/-!
# Scanning a directory

* `Scan.regions` — the regions of all sources below a root, in the order of their discovery. Each
  source is read and gone through before the next one is looked at.
-/

namespace Drift.Scan

/-- The name of the operation in the log. -/
def operation : String := "extract_regions"

/-- The regions of one file. -/
def regionsIn (fs : FileSystem) (parse : Parse Int) (c : Candidate) : Logged (List Region) :=
  (Discovery.load fs c).bind (Extraction.extract ControlComment.commentKinds parse)

/-- The regions of all files below a root. -/
def regionsBelow (fs : FileSystem) (parse : Parse Int) (root : Path) (extensions : List String) :
    Logged (List Region) :=
  match Discovery.candidates fs root (Extensions.normalize extensions) with
  | .error failure => .fail failure
  | .ok files => Logged.concat (regionsIn fs parse) files

/-- The regions that are found below a root, with the events that frame the operation. -/
def framed (root language : String) (found : Logged (List Region)) : Logged (List Region) :=
  (Logged.timed (.text operation) [("root", .text root), ("language", .text language)]
    found).bind fun regions =>
      (Logged.note (.regionsExtracted root regions.length)).bind fun _ => .ok regions

/-- The regions of all files below a root, with the events that frame the operation. -/
def run (fs : FileSystem) (parse : Parse Int) (root language : String) (extensions : List String) :
    Logged (List Region) :=
  framed root language (regionsBelow fs parse (Path.ofString root) extensions)

/-- What a scan with the parser of a language gives; without the parser there is none. -/
def byParser (grammars : Grammars) (r : Registry) (language : String)
    (scan : Parse Int → Logged (List Region)) : Registry × Logged (List Region) :=
  match r.parser grammars.load language with
  | (r, ⟨events, .error failure⟩) => (r, ⟨events, .error failure⟩)
  | (r, ⟨events, .ok parser⟩) =>
    let found := scan (grammars.parse parser.language)
    (r, ⟨events ++ found.events, found.result⟩)

/-- The **regions below a root**, by the parser of a language; without the parser no file is looked
at. -/
def regions (fs : FileSystem) (grammars : Grammars) (r : Registry) (root language : String)
    (extensions : List String) : Registry × Logged (List Region) :=
  byParser grammars r language fun parse => run fs parse root language extensions

end Drift.Scan
