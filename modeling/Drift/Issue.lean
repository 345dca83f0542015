import Drift.Literal

/-!
# Issues

What the program reports to its user is an issue: a code for machines, a message, and a context.

* `Issue.Kind` — the kinds of issues, from the general to the particular (`Kind.parent?`,
  `Kind.lineage`).
* `Issue.sourceNotFound`, … — the issues of each cause.
* `Issue.build?` — an issue from the parts that its kind is made of, in order or by name;
  `Kind.misfit` are the words for a count of parts that does not fit.
* `Issue.describe` — the issue as a literal.
-/

namespace Drift

/-- A named part of a context. -/
abbrev Named := List (String × Literal)

namespace Issue

/-! ## Kinds -/

/-- The **kinds of issues**. -/
inductive Kind where
  | control
  | discovery
  | sourceNotFound
  | sourceUnreadable
  | grammar
  | unsupportedLanguage
  | grammarUnavailable
  | snapshot
  | snapshotUnreadable
  | snapshotUnwritable
  | notCompressed
  | malformed
  | version
  | noRegions
  | configuration
  deriving DecidableEq, Repr

namespace Kind

/-- The name by which reports call the kind. -/
def label : Kind → String
  | control => "ControlError"
  | discovery => "DiscoveryError"
  | sourceNotFound => "SourceNotFoundError"
  | sourceUnreadable => "SourceReadError"
  | grammar => "GrammarError"
  | unsupportedLanguage => "UnsupportedLanguageError"
  | grammarUnavailable => "GrammarUnavailableError"
  | snapshot => "SnapshotError"
  | snapshotUnreadable => "SnapshotNotFoundError"
  | snapshotUnwritable => "SnapshotWriteError"
  | notCompressed => "SnapshotCompressionError"
  | malformed => "SnapshotDecodeError"
  | version => "SnapshotVersionError"
  | noRegions => "NoRegionsFoundError"
  | configuration => "ConfigError"

/-- All kinds. -/
def all : List Kind :=
  [control, discovery, sourceNotFound, sourceUnreadable, grammar, unsupportedLanguage,
   grammarUnavailable, snapshot, snapshotUnreadable, snapshotUnwritable, notCompressed, malformed,
   version, noRegions, configuration]

/-- The kind of that name. -/
def ofLabel? (name : String) : Option Kind := all.find? (·.label == name)

/-- The next more general kind. -/
def parent? : Kind → Option Kind
  | control => none
  | sourceNotFound | sourceUnreadable => some discovery
  | unsupportedLanguage | grammarUnavailable => some grammar
  | snapshotUnreadable | snapshotUnwritable | notCompressed | malformed => some snapshot
  | version => some malformed
  | _ => some control

/-- How many kinds lie above. -/
def rank : Kind → Nat
  | control => 0
  | discovery | grammar | snapshot | noRegions | configuration => 1
  | version => 3
  | _ => 2

theorem rank_parent? {k p : Kind} (h : k.parent? = some p) : p.rank < k.rank := by
  cases k <;> cases h <;> decide

/-- The kind and all more general ones, up to the most general. -/
def lineage (k : Kind) : List Kind :=
  match _h : k.parent? with
  | none => [k]
  | some p => k :: lineage p
  termination_by k.rank
  decreasing_by exact rank_parent? ‹_›

end Kind

end Issue

/-! ## Issues -/

/-- Something the program **reports to its user**. -/
structure Issue where
  kind : Issue.Kind
  code : Literal
  message : Literal
  context : Named

namespace Issue

/-- An issue of a kind, with a code and a message that are texts. -/
def ofTexts (kind : Kind) (code message : String) (context : Named) : Issue :=
  ⟨kind, .text code, .text message, context⟩

/-- The message as text. -/
def text (i : Issue) : String := i.message.inSentence

/-- The directory or file to scan does not exist. -/
def sourceNotFound (path : String) : Issue :=
  ofTexts .sourceNotFound "SOURCE_NOT_FOUND" ("Source path does not exist: " ++ path)
    [("path", .text path)]

/-- A source file cannot be read or decoded. -/
def sourceUnreadable (path reason : String) : Issue :=
  ofTexts .sourceUnreadable "SOURCE_READ_FAILED"
    ("Could not read source file " ++ path ++ ": " ++ reason)
    [("path", .text path), ("reason", .text reason)]

/-- No language has this name. -/
def unsupportedLanguage (language : String) : Issue :=
  ofTexts .unsupportedLanguage "UNSUPPORTED_LANGUAGE" ("Unsupported language: " ++ language)
    [("language", .text language)]

/-- The grammar of a known language cannot be loaded. -/
def grammarUnavailable (language reason : String) : Issue :=
  ofTexts .grammarUnavailable "GRAMMAR_UNAVAILABLE"
    ("Could not load parser for language " ++ language ++ ": " ++ reason)
    [("language", .text language), ("reason", .text reason)]

/-- A snapshot file is missing or cannot be read. -/
def snapshotUnreadable (path reason : String) : Issue :=
  ofTexts .snapshotUnreadable "SNAPSHOT_NOT_FOUND"
    ("Snapshot file not readable: " ++ path
      ++ (if reason.isEmpty then "" else " (" ++ reason ++ ")"))
    [("path", .text path)]

/-- A snapshot file cannot be written. -/
def snapshotUnwritable (path reason : String) : Issue :=
  ofTexts .snapshotUnwritable "SNAPSHOT_WRITE_FAILED"
    ("Error generating file " ++ path ++ ": " ++ reason)
    [("path", .text path), ("reason", .text reason)]

/-- A snapshot is no compressed stream. -/
def notCompressed (reason : String) : Issue :=
  ofTexts .notCompressed "SNAPSHOT_DECOMPRESSION_FAILED"
    ("Snapshot could not be decompressed: " ++ reason) [("reason", .text reason)]

/-- A snapshot's payload is malformed. -/
def malformed (reason : String) : Issue :=
  ofTexts .malformed "SNAPSHOT_DECODE_FAILED" ("Snapshot could not be decoded: " ++ reason)
    [("reason", .text reason)]

/-- A snapshot was written by another version of the format. -/
def version (found expected : Literal) : Issue :=
  let reason :=
    "unsupported snapshot version " ++ found.render ++ " (expected " ++ expected.inSentence ++ ")"
  ofTexts .version "SNAPSHOT_VERSION_MISMATCH" ("Snapshot could not be decoded: " ++ reason)
    [("reason", .text reason), ("found", found), ("expected", expected)]

/-- The scan found nothing to record. -/
def noRegions (path : String) : Issue :=
  ofTexts .noRegions "NO_REGIONS_FOUND" "No commented code found." [("path", .text path)]

/-- Something is wrong with the configuration. -/
def configuration (message : String) (context : Named) : Issue :=
  ofTexts .configuration "CONFIG_ERROR" message context

/-! ## Building an issue from its parts -/

/-- The parts that an issue of a kind is made of, with the values of those that may be left out, and
whether it takes a context besides. -/
def Kind.parts : Kind → List (String × Option Literal) × Bool
  | control | discovery | grammar | snapshot => ([("code", none), ("message", none)], true)
  | sourceNotFound | noRegions => ([("path", none)], false)
  | sourceUnreadable | snapshotUnwritable => ([("path", none), ("reason", none)], false)
  | unsupportedLanguage => ([("language", none)], false)
  | grammarUnavailable => ([("language", none), ("reason", none)], false)
  | snapshotUnreadable => ([("path", none), ("reason", some (.text ""))], false)
  | notCompressed => ([("reason", none)], false)
  | malformed => ([("reason", none), ("code", some (.text "SNAPSHOT_DECODE_FAILED"))], false)
  | version => ([("found", none), ("expected", none)], false)
  | configuration => ([("message", none)], true)

/-- Names that no context of a kind holds: the issue itself goes by one, and a part that the kind
fixes by the other. -/
def Kind.isReserved (kind : Kind) (name : String) : Bool :=
  name == "self" || (kind == .configuration && name == "code")

/-- Gives each part its value: first those in order, then those by name, then what stands in for a
part that is left out. The names that are no parts remain. -/
def bind? : (parts : List (String × Option Literal)) → (inOrder : List Literal) →
    (byName : Named) → Option (List Literal × Named)
  | [], [], byName => some ([], byName)
  | [], _ :: _, _ => none
  | (name, _) :: parts, v :: inOrder, byName =>
    if byName.any (·.1 == name) then none
    else (bind? parts inOrder byName).map fun (vs, rest) => (v :: vs, rest)
  | (name, standIn) :: parts, [], byName =>
    match ((byName.find? (·.1 == name)).map (·.2)).or standIn with
    | none => none
    | some v =>
      (bind? parts [] (byName.filter (·.1 != name))).map fun (vs, rest) => (v :: vs, rest)

/-- The issue of a kind with these values of its parts, and the names that are no parts. -/
def ofValues? (kind : Kind) (values : List Literal) (rest : Named) : Option Issue :=
  let context := (kind.parts.1.map (·.1)).zip values
  match kind, values with
  | .sourceNotFound, [path] => some { sourceNotFound path.inSentence with context }
  | .sourceUnreadable, [path, reason] =>
    some { sourceUnreadable path.inSentence reason.inSentence with context }
  | .unsupportedLanguage, [language] =>
    some { unsupportedLanguage language.inSentence with context }
  | .grammarUnavailable, [language, reason] =>
    some { grammarUnavailable language.inSentence reason.inSentence with context }
  | .snapshotUnreadable, [path, reason] =>
    let reason := if reason.isVoid then "" else reason.inSentence
    some { snapshotUnreadable path.inSentence reason with context := [("path", path)] }
  | .snapshotUnwritable, [path, reason] =>
    some { snapshotUnwritable path.inSentence reason.inSentence with context }
  | .notCompressed, [reason] => some { notCompressed reason.inSentence with context }
  | .malformed, [reason, code] =>
    some { malformed reason.inSentence with code, context := [("reason", reason)] }
  | .version, [found, expected] => some (version found expected)
  | .noRegions, [path] => some { noRegions path.inSentence with context }
  | .configuration, [message] => some { configuration "" rest with message }
  | _, [code, message] => some ⟨kind, code, message, rest⟩
  | _, _ => none

/-- The issue of a kind **made of these parts**, if they fit. -/
def build? (kind : Kind) (inOrder : List Literal) (byName : Named) : Option Issue :=
  if byName.any fun part => kind.isReserved part.1 then none
  else match bind? kind.parts.1 inOrder byName with
    | none => none
    | some (values, rest) =>
      if !rest.isEmpty && !kind.parts.2 then none else ofValues? kind values rest

/-- The kind whose parts an issue of a kind is made of. -/
def Kind.maker : Kind → Kind
  | discovery | grammar | snapshot => control
  | kind => kind

/-- Names in quotes, joined as in a sentence. -/
def enumerated : List String → String
  | [] => ""
  | [a] => "'" ++ a ++ "'"
  | [a, b] => "'" ++ a ++ "' and '" ++ b ++ "'"
  | names =>
    ", ".intercalate (names.dropLast.map fun a => "'" ++ a ++ "'")
      ++ ", and '" ++ names.getLast?.getD "" ++ "'"

/-- The words for a count of parts in order that does not fit a kind: too many of them, or too few.
The issue itself counts as one that is given. -/
def Kind.misfit (kind : Kind) (count : Nat) : String :=
  let parts := kind.parts.1
  let needed := (parts.filter (·.2.isNone)).map (·.1)
  let subject := kind.maker.label.append ".__init__() "
  if parts.length < count then
    let least := needed.length + 1
    let most := parts.length + 1
    let range :=
      if least = most then toString most
      else String.join ["from ", toString least, " to ", toString most]
    String.join
      [subject, "takes ", range, " positional arguments but ", toString (count + 1), " were given"]
  else
    let missing := needed.drop count
    String.join
      [subject, "missing ", toString missing.length, " required positional argument",
       if missing.length = 1 then "" else "s", ": ", enumerated missing]

/-! ## As a literal -/

/-- The issue **as a literal**: its kind, code and message, and then its context. -/
def describe (i : Issue) : String :=
  i.kind.label ++ "(code=" ++ i.code.render ++ ", message=" ++ i.message.render ++ ", "
     ++ ", ".intercalate (Literal.renderFields i.context) ++ ")"

end Issue

end Drift
