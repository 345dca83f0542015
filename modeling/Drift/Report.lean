import Drift.Difference
import Drift.Json.Printer
import Drift.Literal
import Drift.Region

/-!
# Reports

* `Report.lines` — a difference, one line for each changed region.
* `Report.written` — the note that a snapshot was written.
* `Report.listing` — regions as an indented JSON list.
-/

namespace Drift.Report

/-- The line of a change: the mark, the file and its first and last line. -/
def changeLine (mark : Char) (path first last : String) : String :=
  "\t" ++ mark.toString ++ " " ++ path ++ ";" ++ first ++ ":" ++ last

/-- The lines of a difference, by the line of each change: removals first, then additions. -/
def linesBy {α : Type} (line : Char → α → String) (d : Difference α) : List String :=
  if d.hasChanges then
    "Changes Detected!" :: (d.removed.map (line '-') ++ d.added.map (line '+'))
  else ["No changes detected."]

/-- The line of a changed region. -/
def line (mark : Char) (r : Region) : String :=
  changeLine mark r.path (toString r.start.line) (toString r.stop.line)

/-- The **lines of a difference** between regions. -/
def lines (d : Difference Region) : List String := linesBy line d

/-- The note that some regions were written to a snapshot. Their count may be any value; only what
equals the number one is a single region. -/
def written (path count : Literal) : String :=
  String.join
    [path.inSentence, " generated (", count.inSentence,
     if count.same (.int 1) then " region" else " regions", ")."]

/-- Characters beyond ASCII stand for themselves, and members keep their order. -/
def listingStyle : Json.Style where
  escapeNonAscii := false
  sortKeys := false

/-- Regions as an **indented JSON list**. -/
def listing (regions : List Region) : String :=
  Json.render listingStyle (.list (regions.map Region.record))

end Drift.Report
