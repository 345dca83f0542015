import Drift.Failure

/-!
# Events

* `Level` — how much an event matters.
* `Event` — what the program notes while it works.
* `Event.note` — the note of an event: its name, level, origin and fields.
-/

namespace Drift

/-! ## Levels -/

/-- How much an event **matters**. -/
inductive Level where
  | debug
  | info
  | warning
  | error
  | critical
  deriving DecidableEq, Repr

namespace Level

/-- The level's name in notes. -/
def name : Level → String
  | debug => "debug"
  | info => "info"
  | warning => "warning"
  | error => "error"
  | critical => "critical"

/-- The level's place in the order. -/
def rank : Level → Nat
  | debug => 0
  | info => 1
  | warning => 2
  | error => 3
  | critical => 4

end Level

/-! ## Events -/

/-- Something that the program **notes while it works**. -/
inductive Event where
  | sourceDiscovered (path : String)
  | fileExtracted (path : String) (regions : Nat)
  | annotationWithoutSibling (path : String) (line : Literal)
  | parseFailed (path : String)
  | grammarLoaded (language : String)
  | grammarLoadFailed (language error : String)
  | operationComplete (operation : Literal) (extra : Named)
  | operationFailed (operation : Literal) (failure : Failure) (extra : Named)
  | regionsExtracted (root : String) (count : Nat)
  | snapshotWritten (path : String) (regions : Nat)
  | snapshotRead (path : String) (regions : Nat)
  | commandFailed (issue : Issue)

/-- What a field of a note holds. -/
inductive Detail where
  | value (v : Literal)
  /-- A duration or a size, whose number says nothing. -/
  | measure

/-- The **note of an event**. -/
structure Note where
  name : String
  level : Level
  origin : String
  fields : List (String × Detail)

/-- A field that holds a text. -/
def Detail.ofText (s : String) : Detail := .value (.text s)

/-- A field that holds a number. -/
def Detail.ofNat (n : Nat) : Detail := .value (.int n)

/-- Named values as fields. -/
def Detail.ofNamed (named : Named) : List (String × Detail) :=
  named.map fun (name, v) => (name, .value v)

namespace Event

/-- The context of an issue as notes show it: the reason of trouble with the configuration is left
out. -/
def shownContext (i : Issue) : Named :=
  if i.kind = .configuration then i.context.filter (·.1 != "reason") else i.context

/-- The **note** of an event. -/
def note : Event → Note
  | sourceDiscovered path =>
    ⟨"source_discovered", .debug, "code_control.parsing.source_file", [("path", .ofText path)]⟩
  | fileExtracted path regions =>
    ⟨"file_extracted", .debug, "code_control.extraction.extractor",
      [("path", .ofText path), ("regions", .ofNat regions)]⟩
  | annotationWithoutSibling path line =>
    ⟨"annotation_without_sibling", .debug, "code_control.extraction.extractor",
      [("path", .ofText path), ("line", .value line)]⟩
  | parseFailed path =>
    ⟨"parse_failed", .warning, "code_control.extraction.extractor", [("path", .ofText path)]⟩
  | grammarLoaded language =>
    ⟨"grammar_loaded", .debug, "code_control.parsing.parser_registry",
      [("language", .ofText language)]⟩
  | grammarLoadFailed language error =>
    ⟨"grammar_load_failed", .warning, "code_control.parsing.parser_registry",
      [("language", .ofText language), ("error", .ofText error)]⟩
  | operationComplete operation extra =>
    ⟨"operation_complete", .info, "code_control.extraction.extractor",
      ("operation", .value operation) :: ("duration_ms", .measure) :: Detail.ofNamed extra⟩
  | operationFailed operation failure extra =>
    ⟨operation.inSentence ++ "_failed", if failure.isIssue then .debug else .error,
      "code_control.extraction.extractor",
      ("error_type", .ofText failure.label) :: ("error_message", .ofText failure.message)
        :: ("duration_ms", .measure) :: Detail.ofNamed extra⟩
  | regionsExtracted root count =>
    ⟨"regions_extracted", .info, "code_control.extraction.extractor",
      [("root", .ofText root), ("count", .ofNat count)]⟩
  | snapshotWritten path regions =>
    ⟨"snapshot_written", .info, "code_control.snapshot.codec",
      [("path", .ofText path), ("regions", .ofNat regions), ("size", .measure)]⟩
  | snapshotRead path regions =>
    ⟨"snapshot_read", .debug, "code_control.snapshot.codec",
      [("path", .ofText path), ("regions", .ofNat regions)]⟩
  | commandFailed issue =>
    ⟨"command_failed", .debug, "code_control.cli",
      ("code", .value issue.code) :: Detail.ofNamed (shownContext issue)⟩

end Event

end Drift
