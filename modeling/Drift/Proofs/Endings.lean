import Drift.Proofs.Boundaries
import Drift.Proofs.Recorded

/-!
# How runs end

A command that records, compares or prints regions ends in one of three proper ways, or it breaks.

* `Command.files`, `Group.isFileName_of_parse` — the names of files on a command line hold no NUL.
* `Surroundings.Regular` — what is taken for granted about files and trees.
* `Breaks` — everything that makes such a command break.
* `Command.ends_record`, `Command.ends_compare`, `Command.ends_log` — how the commands end.
* `EndsWell` — the proper ways for a run to end.
* **`ends_well_or_breaks`** — every run ends in one of these ways, or breaks for one of the causes.
* `breaks_on_foreign_version` — a snapshot that makes a run break.
-/

namespace Drift

open MessagePack (Form maxDepth lengthBound)
open Zlib (Carries)

/-! ## Names without NUL -/

theorem mem_intercalate {α : Type} {sep : List α} {parts : List (List α)} {part : List α} {a : α}
    (hpart : part ∈ parts) (ha : a ∈ part) : a ∈ sep.intercalate parts := by
  induction parts with
  | nil => cases hpart
  | cons first parts ih =>
    cases parts with
    | nil =>
      rw [List.mem_singleton] at hpart
      rwa [List.intercalate_singleton, ← hpart]
    | cons next parts =>
      rw [List.intercalate_cons_cons, List.mem_append, List.mem_append]
      rcases List.mem_cons.1 hpart with rfl | hpart
      · exact .inl (.inl ha)
      · exact .inr (ih hpart)

theorem Path.nul_not_mem_ofString {s : String} (h : '\x00' ∉ s.toList) :
    '\x00' ∉ (ofString s).text.toList := by
  rw [nul_mem_text_iff]
  rintro ⟨part, hpart, hnul⟩
  obtain ⟨piece, hpiece, rfl⟩ := List.mem_map.1 hpart
  rw [String.toList_ofList] at hnul
  have hmem : '\x00' ∈ ['/'].intercalate (s.toList.splitOn '/') :=
    mem_intercalate (List.mem_filter.1 hpiece).1 hnul
  rw [List.intercalate_splitOn] at hmem
  exact h hmem

/-- The names of files that a command is given. -/
def Command.files : Command → List String
  | code directory _ _ output _ => directory :: output.toList
  | log path => path.toList
  | _ => []

namespace Group

theorem nul_not_mem_of_isFileName {name : String} (h : isFileName name = true) :
    '\x00' ∉ name.toList := by
  unfold isFileName at h
  intro hmem
  rw [List.contains_iff_mem.2 hmem] at h
  cases h

theorem files_parserCommand {name : String} {args : List String}
    {ofArguments : List String → Option Command} {c : Command}
    (hname : parserCommand name = some ofArguments) (h : ofArguments args = some c) :
    c.files = [] := by
  unfold parserCommand at hname
  split at hname
  all_goals cases hname
  all_goals
    simp only at h
    split at h
    all_goals cases h
  all_goals rfl

theorem files_configCommand {name : String} {args : List String}
    {ofArguments : List String → Option Command} {c : Command}
    (hname : configCommand name = some ofArguments) (h : ofArguments args = some c) :
    c.files = [] := by
  unfold configCommand at hname
  split at hname
  all_goals cases hname
  all_goals
    simp only at h
    split at h
    all_goals cases h
  all_goals rfl

theorem files_parseSecond {ofName? : String → Option (List String → Option Command)}
    (hfiles : ∀ {name args ofArguments c}, ofName? name = some ofArguments →
      ofArguments args = some c → c.files = []) {line : List String} {c : Command}
    (h : parseSecond ofName? line = .ok c) : c.files = [] := by
  obtain ⟨a, -, h⟩ := bind_eq_ok_iff.1 h
  split at h
  · cases h
  split at h
  · cases h
  next ofArguments hname =>
  obtain ⟨b, -, h⟩ := bind_eq_ok_iff.1 h
  split at h
  · next c' hc =>
    cases h
    exact hfiles hname hc
  · cases h

/-- The files that a command line names **can be named so**. -/
theorem isFileName_of_parse {group : Group} {line : List String} {c : Command}
    (h : group.parse line = .ok c) : ∀ name ∈ c.files, isFileName name = true := by
  cases group with
  | code =>
    obtain ⟨a, -, h⟩ := bind_eq_ok_iff.1 h
    split at h
    · simp only at h
      split at h
      · next hnames =>
        cases h
        rw [Bool.and_eq_true, Option.all_eq_true] at hnames
        exact List.forall_mem_cons.2 ⟨hnames.1, fun name hname => hnames.2 name (by simpa using hname)⟩
      · cases h
    · cases h
  | log =>
    obtain ⟨a, -, h⟩ := bind_eq_ok_iff.1 h
    simp only at h
    split at h
    · split at h
      · next hnames =>
        cases h
        rw [Option.all_eq_true] at hnames
        exact fun name hname => hnames name (by simpa [Command.files] using hname)
      · cases h
    · cases h
  | parser => rw [files_parseSecond files_parserCommand h]; nofun
  | config => rw [files_parseSecond files_configCommand h]; nofun

end Group

/-! ## What makes a command break

Names of files and words of command lines are texts here, so that there are none whose bytes are no
UTF-8. Whatever is printed can be printed: the encoding of the standard output is one that has all
characters. And a recursion ends however deep it goes, over directories as over the parts of a value:
there is no limit of an interpreter. A run can break for each of these reasons as well.
-/

/-- What is **taken for granted**: no name of a file holds NUL, and the nodes of trees lie between
characters and have points that can be written. -/
structure Surroundings.Regular (s : Surroundings) : Prop where
  tree : s.files.tree.NulFree
  here : ∀ name ∈ s.files.here, '\x00' ∉ name.toList
  trees : ∀ l text t, s.grammars.parse l (Utf8.encodeString text) = some t → t.Fits text

namespace Command

/-- The name of the snapshot file that a command is given, if it works with one. -/
def snapshot? : Command → Option (Option String)
  | code _ _ _ output _ => some output
  | log path => some path
  | _ => none

/-- The command **reads the snapshot** of the given name. -/
inductive Reads : Command → Option String → Prop where
  | compare {directory language : String} {extensions : List String} {output : Option String} :
      Reads (code directory language extensions output true) output
  | log {path : Option String} : Reads (log path) path

/-- The root of a scan. -/
def rootOf (directory : String) : Path := Path.ofString (Path.ofString directory).text

end Command

/-- A snapshot is of a version that **has no JSON form**, as a dictionary with keys that are no
texts. -/
structure Snapshot.Formless (bytes : Bytes) (number : MessagePack.Value) : Prop where
  carried : ∃ payload list, Carries bytes payload ∧
    Form maxDepth (.array [.text mark, number, list]) payload
  notOne : ¬ One number
  noForm : Json.ofLiteral? number.literal = none

/-- Everything that makes a command **break**, with the fault that it breaks with. -/
inductive Breaks (s : Surroundings) (settings : Settings) : Command → Fault → Prop where
  /-- The directory's name is beyond the limits of the system. -/
  | root {directory language : String} {extensions : List String} {output : Option String}
      {diff : Bool} {fault : Fault} (h : s.files.entry? (Command.rootOf directory) = .error fault) :
      Breaks s settings (.code directory language extensions output diff) fault
  /-- The settings give the snapshot a name that no file can have. -/
  | name {c : Command} {given : Option String} {run : Json.Text.Run} (hc : c.snapshot? = some given)
      (h : (Command.snapshotName settings given).refused? = some run) :
      Breaks s settings c (.unencodable (Command.halvesIn run))
  /-- They give it a name that cannot be printed once it has been written. -/
  | said {directory language : String} {extensions : List String} {output : Option String}
      {run : Json.Text.Run} (h : (Command.snapshotName settings output).unprintable? = some run) :
      Breaks s settings (.code directory language extensions output false)
        (.unprintable (Command.halvesIn run))
  /-- The environment gives the screen a width that is no number. -/
  | screen {c : Command} {fault : Fault} (h : Terminal.columns s.environment = .error fault) :
      Breaks s settings c fault
  /-- There are too many regions for a message, or the texts of one are too long. -/
  | size {directory language : String} {extensions : List String} {output : Option String}
      {regions : List Region} {fault : MessagePack.WriteFault}
      (hscan : (Command.scan s directory language extensions).result = .ok regions)
      (hencode : Snapshot.encode regions = .error fault)
      (h : ¬ (regions.length < lengthBound ∧ ∀ r ∈ regions, r.Short)) :
      Breaks s settings (.code directory language extensions output false) (.write fault)
  /-- The snapshot is of a version that the note of the failure cannot hold. -/
  | note {c : Command} {given : Option String} {p : Path} {bytes : Bytes}
      {number : MessagePack.Value} (hc : c.Reads given)
      (hfile : Command.fileOf (Command.snapshotName settings given) = .ok p)
      (hread : s.files.read p = .ok bytes) (hformless : Snapshot.Formless bytes number)
      (hformat : settings.logFormat = .json) (hlevel : settings.logLevel = .debug) :
      Breaks s settings c .wrongForm

/-- How a command **fails**: with a report, whose note can be written unless a version has no form, or
by breaking. -/
inductive Command.Fails (s : Surroundings) (settings : Settings) (c : Command) : Failure → Prop where
  | report {f : Failure} (h : f.IsReport) : Fails s settings c f
  | version {given : Option String} {p : Path} {bytes : Bytes} {number : MessagePack.Value}
      (hc : c.Reads given) (hfile : fileOf (snapshotName settings given) = .ok p)
      (hread : s.files.read p = .ok bytes) (hformless : Snapshot.Formless bytes number) :
      Fails s settings c (.issue (.version number.literal (.int Snapshot.version)))
  | breaks {fault : Fault} (h : Breaks s settings c fault) : Fails s settings c (.fault fault)

/-- What a command that succeeds **prints**: changes are a report of them. -/
inductive Command.Prints (s : Surroundings) (settings : Settings) : Command → Printout → Prop where
  | unchanged {c : Command} {r : Printout} (h : r.changed = false) : Prints s settings c r
  | changed {directory language : String} {extensions : List String} {output : Option String}
      {p : Path} {old new : List Region}
      (hfile : fileOf (snapshotName settings output) = .ok p)
      (hold : (Snapshot.read s.files p).result = .ok old)
      (hnew : (scan s directory language extensions).result = .ok new)
      (h : (Difference.between old new).hasChanges = true) :
      Prints s settings (.code directory language extensions output true)
        ⟨lines ((Report.lines (Difference.between old new)).map Terminal.report), true⟩

/-! ## Snapshots -/

namespace Snapshot

theorem writable_version {found : Literal} {v : Json.Value} (h : Json.ofLiteral? found = some v) :
    (Event.commandFailed (.version found (.int version))).Writable := by
  unfold Event.Writable Terminal.noteObject?
  rw [Option.isSome_map]
  change (Terminal.noteMembers? [("code", _), ("reason", _), ("found", .value found),
    ("expected", _)]).isSome = true
  simp only [Terminal.noteMembers?, h]
  rfl

theorem report_of_load {bytes : Bytes} {issue : Issue} (h : load bytes = .error issue) :
    (Event.commandFailed issue).Writable ∨
      ∃ number, Formless bytes number ∧ issue = .version number.literal (.int version) := by
  unfold load at h
  split at h
  · cases h
    exact .inl rfl
  next payload hpayload =>
  split at h
  · next fault hdecode =>
    cases h
    cases fault with
    | version number =>
      cases hjson : Json.ofLiteral? number.literal with
      | some => exact .inl (writable_version hjson)
      | none =>
        obtain ⟨list, hform, hone⟩ := decode_eq_version_iff.1 hdecode
        exact .inr ⟨number,
          ⟨⟨payload, list, Zlib.decompress_eq_ok_iff.1 hpayload, hform⟩, hone, hjson⟩, rfl⟩
    | _ => exact .inl rfl
  · cases h

theorem too_large_of_encode {regions : List Region} {fault : MessagePack.WriteFault}
    (hstorable : ∀ r ∈ regions, r.Storable) (h : encode regions = .error fault) :
    ¬ (regions.length < lengthBound ∧ ∀ r ∈ regions, r.Short) := by
  rintro ⟨hcount, hshort⟩
  obtain ⟨payload, hpayload⟩ := encode_eq_ok hcount hshort hstorable
  cases h.symm.trans hpayload

end Snapshot

/-! ## The commands -/

namespace Command

variable {s : Surroundings} {settings : Settings} {c : Command} {given : Option String} {p : Path}

theorem ends_fileOf (hc : c.snapshot? = some given) :
    (Logged.ofFault (fileOf (snapshotName settings given))).Ends
      (fun p => fileOf (snapshotName settings given) = .ok p) (Fails s settings c) := by
  cases hfile : fileOf (snapshotName settings given) with
  | ok p => exact Logged.ends_of_ok rfl rfl
  | error fault =>
    unfold fileOf at hfile
    split at hfile
    · next hrun =>
      cases hfile
      exact Logged.ends_of_error rfl (.breaks (.name hc hrun))
    · cases hfile

theorem nul_not_mem_of_fileOf (hlog : '\x00' ∉ settings.logPath.shown.toList)
    (hgiven : ∀ name ∈ given.toList, Group.isFileName name = true)
    (hfile : fileOf (snapshotName settings given) = .ok p) : '\x00' ∉ p.text.toList := by
  unfold fileOf at hfile
  split at hfile
  · cases hfile
  · cases hfile
    refine Path.nul_not_mem_ofString ?_
    cases given with
    | none => exact hlog
    | some name =>
      exact Group.nul_not_mem_of_isFileName (hgiven name (List.mem_singleton_self name))

theorem ends_read (hc : c.Reads given) (hfile : fileOf (snapshotName settings given) = .ok p)
    (hnul : '\x00' ∉ p.text.toList) :
    (Snapshot.read s.files p).Ends (fun _ => True) (Fails s settings c) := by
  unfold Snapshot.read
  cases hread : s.files.read p with
  | error fault =>
    obtain ⟨e, rfl⟩ := FileSystem.fault_of_read hnul hread
    exact Logged.ends_of_error rfl (.report ⟨_, rfl, rfl⟩)
  | ok bytes =>
    cases hload : Snapshot.load bytes with
    | ok regions =>
      simp only [hload]
      exact Logged.ends_of_ok rfl trivial
    | error issue =>
      simp only [hload]
      refine Logged.ends_of_error rfl ?_
      rcases Snapshot.report_of_load hload with hwritable | ⟨number, hformless, rfl⟩
      · exact .report ⟨_, rfl, hwritable⟩
      · exact .version hc hfile hread hformless

variable {directory language : String} {extensions : List String} {output : Option String}
  {diff : Bool} {regions : List Region}

theorem ends_scan (hs : s.Regular) (hdirectory : Group.isFileName directory = true) :
    (scan s directory language extensions).Ends (∀ r ∈ ·, r.Storable)
      (Fails s settings (code directory language extensions output diff)) := by
  have hroot := Path.nul_not_mem_ofString
    (Path.nul_not_mem_ofString (Group.nul_not_mem_of_isFileName hdirectory))
  refine (Scan.ends_regions .fresh language extensions hs.tree hroot hs.trees).mono
    (fun _ h => h) fun f hf => ?_
  rcases hf with hreport | ⟨fault, hfault, rfl⟩
  · exact .report hreport
  · exact .breaks (.root hfault)

theorem ends_written (count : Nat) :
    (⟨[], written s (snapshotName settings output) p count⟩ : Logged Printout).Ends
      (Prints s settings (code directory language extensions output false))
      (Fails s settings (code directory language extensions output false)) := by
  unfold written say laidOut
  cases hcolumns : Terminal.columns s.environment with
  | error fault => exact Logged.ends_of_error rfl (.breaks (.screen hcolumns))
  | ok columns =>
    cases hrun : (snapshotName settings output).unprintable? with
    | some run => exact Logged.ends_of_error rfl (.breaks (.said hrun))
    | none => exact Logged.ends_of_ok rfl (.unchanged rfl)

theorem ofInt_compressionLevel (settings : Settings) :
    ∃ level, Zlib.Level.ofInt settings.compressionLevel.val = .ok level := by
  unfold Zlib.Level.ofInt
  have := settings.compressionLevel.isLt
  rw [dif_pos (by omega)]
  exact ⟨_, rfl⟩

theorem ends_keep (hs : s.Regular) (hlog : '\x00' ∉ settings.logPath.shown.toList)
    (hgiven : ∀ name ∈ output.toList, Group.isFileName name = true)
    (hscan : (scan s directory language extensions).result = .ok regions)
    (hstorable : ∀ r ∈ regions, r.Storable) :
    (keep s settings (snapshotName settings output) directory regions).2.Ends
      (Prints s settings (code directory language extensions output false))
      (Fails s settings (code directory language extensions output false)) := by
  unfold keep
  split
  · exact Logged.ends_of_error rfl (.report ⟨_, rfl, rfl⟩)
  have hfileOf : (Logged.ofFault (fileOf (snapshotName settings output))).Ends
      (fun p => fileOf (snapshotName settings output) = .ok p)
      (Fails s settings (code directory language extensions output false)) := ends_fileOf rfl
  cases hfile : fileOf (snapshotName settings output) with
  | error fault =>
    exact Logged.ends_of_error rfl (hfileOf.error (.fault fault) (by rw [hfile]; rfl))
  | ok p =>
    have hwrite : (Snapshot.write s.files p regions settings.compressionLevel.val).2.Ends
        (fun _ => True) (Fails s settings (code directory language extensions output false)) := by
      refine ⟨fun _ _ => trivial, fun f hf => ?_⟩
      cases Snapshot.refusal_of_write hs.here hf with
      | unwritable => exact .report ⟨_, rfl, rfl⟩
      | nul _ hnul => exact absurd hnul (nul_not_mem_of_fileOf hlog hgiven hfile)
      | @unencodable fault hdump =>
        obtain ⟨level, hlevel⟩ := ofInt_compressionLevel settings
        unfold Snapshot.dump at hdump
        rw [hlevel] at hdump
        cases hencode : Snapshot.encode regions with
        | ok payload => cases (Snapshot.dumpAt_eq_ok hencode).symm.trans hdump
        | error fault' =>
          cases (Snapshot.dumpAt_eq_error hencode _).symm.trans hdump
          exact .breaks (.size hscan hencode (Snapshot.too_large_of_encode hstorable hencode))
    exact hwrite.bind fun _ _ _ => ends_written regions.length

/-- How **recording** ends. -/
theorem ends_record (hs : s.Regular) (hlog : '\x00' ∉ settings.logPath.shown.toList)
    (hfiles : ∀ name ∈ (code directory language extensions output false).files,
      Group.isFileName name = true) :
    (record s settings (snapshotName settings output) directory language extensions).2.Ends
      (Prints s settings (code directory language extensions output false))
      (Fails s settings (code directory language extensions output false)) := by
  obtain ⟨hdirectory, hgiven⟩ := List.forall_mem_cons.1 hfiles
  have hends : (scan s directory language extensions).Ends (∀ r ∈ ·, r.Storable)
      (Fails s settings (code directory language extensions output false)) :=
    ends_scan hs hdirectory
  cases hscan : (scan s directory language extensions).result with
  | error failure =>
    refine Logged.ends_of_error (f := failure) ?_ (hends.error failure hscan)
    unfold record
    simp only [hscan]
  | ok regions =>
    rw [record_of_scan hscan]
    have hkeep := ends_keep hs hlog hgiven hscan (hends.ok regions hscan)
    exact ⟨fun r h => hkeep.ok r h, fun f h => hkeep.error f h⟩

/-- How **comparing** ends. -/
theorem ends_compare (hs : s.Regular) (hlog : '\x00' ∉ settings.logPath.shown.toList)
    (hfiles : ∀ name ∈ (code directory language extensions output true).files,
      Group.isFileName name = true) :
    (compare s (snapshotName settings output) directory language extensions).Ends
      (Prints s settings (code directory language extensions output true))
      (Fails s settings (code directory language extensions output true)) := by
  obtain ⟨hdirectory, hgiven⟩ := List.forall_mem_cons.1 hfiles
  refine Logged.Ends.bind (ends_fileOf rfl) fun p _ hfile => ?_
  refine Logged.Ends.bind (ends_read .compare hfile (nul_not_mem_of_fileOf hlog hgiven hfile))
    fun old hold _ => ?_
  refine Logged.Ends.bind (ends_scan hs hdirectory) fun new hnew _ => Logged.ends_of_ok rfl ?_
  cases hchanges : (Difference.between old new).hasChanges with
  | false => exact .unchanged rfl
  | true => exact .changed hfile hold hnew hchanges

/-- How **printing** ends. -/
theorem ends_log {path : Option String} (hlog : '\x00' ∉ settings.logPath.shown.toList)
    (hfiles : ∀ name ∈ (log path).files, Group.isFileName name = true) :
    ((log path).answer s settings).Ends (Prints s settings (log path))
      (Fails s settings (log path)) := by
  refine Logged.Ends.bind (ends_fileOf rfl) fun p _ hfile => ?_
  refine Logged.Ends.bind (ends_read .log hfile (nul_not_mem_of_fileOf hlog hfiles hfile))
    fun regions _ _ => Logged.ends_of_ok rfl (.unchanged rfl)

/-- How a command that works with a snapshot **ends**. -/
theorem ends_run (hs : s.Regular) (hlog : '\x00' ∉ settings.logPath.shown.toList)
    (hfiles : ∀ name ∈ c.files, Group.isFileName name = true) (hc : c.snapshot? = some given) :
    (c.run s settings).2.Ends (Prints s settings c) (Fails s settings c) := by
  cases c with
  | code directory language extensions output diff =>
    cases diff with
    | false =>
      rw [run_code]
      exact ends_record hs hlog hfiles
    | true => exact ends_compare hs hlog hfiles
  | log path => exact ends_log hlog hfiles
  | _ => cases hc

end Command

/-! ## Notes -/

namespace Run

variable {settings : Settings} {events : List Event} {o : Outcome}

/-- The notes of events **as they are written**. -/
def noted (settings : Settings) (events : List Event) : List ErrorOutput :=
  (writeNotes settings (shownNotes settings events)).1

/-- All notes can be written. -/
def Complete (settings : Settings) (events : List Event) : Prop :=
  (writeNotes settings (shownNotes settings events)).2 = true

theorem afterNotes_of_complete (h : Complete settings events) :
    afterNotes settings events o = { o with errors := noted settings events ++ o.errors } := by
  unfold Complete at h
  unfold afterNotes noted
  split
  · next heq => rw [heq]
  · next heq => rw [heq] at h; cases h

theorem fault_of_not_complete (h : ¬ Complete settings events) :
    (afterNotes settings events o).fault = some .wrongForm := by
  unfold Complete at h
  unfold afterNotes
  split
  · next heq => rw [heq] at h; exact absurd rfl h
  · rfl

/-- Only notes on failures that matter little, written as objects, can be left unwritten. -/
theorem complete_of_not_shown {i : Issue} (h : ∀ e ∈ events, e.Writable)
    (hformat : ¬ (settings.logFormat = .json ∧ settings.logLevel = .debug)) :
    Complete settings (events ++ [.commandFailed i]) := by
  refine writeNotes_complete fun n hn => ?_
  obtain ⟨hmem, hshown⟩ := List.mem_filter.1 hn
  obtain ⟨e, he, rfl⟩ := List.mem_map.1 hmem
  rcases List.mem_append.1 he with he | he
  · exact writeNote?_isSome (h e he) settings
  · rw [List.mem_singleton.1 he] at hshown ⊢
    unfold writeNote?
    cases hlog : settings.logFormat with
    | console => rfl
    | json =>
      -- The note is of the lowest level, so that it is shown at that level only.
      exfalso
      refine hformat ⟨hlog, ?_⟩
      have hrank : settings.logLevel.rank ≤ Level.debug.rank := of_decide_eq_true hshown
      cases hlevel : settings.logLevel with
      | debug => rfl
      | _ => rw [hlevel] at hrank; exact absurd hrank (by decide)

end Run

/-! ## Runs -/

/-- The proper ways for a run **to end**: with exit code zero, with exit code one and a report of
changes, or with exit code one and a single message, behind the notes of the events. -/
inductive EndsWell (s : Surroundings) (settings : Settings) :
    Command → List Event → Outcome → Prop where
  | done {c : Command} {events : List Event} {output : String} :
      EndsWell s settings c events
        { exitCode := 0, output := output, errors := Run.noted settings events }
  | changed {directory language : String} {extensions : List String} {output : Option String}
      {events : List Event} {p : Path} {old new : List Region}
      (hfile : Command.fileOf (Command.snapshotName settings output) = .ok p)
      (hold : (Snapshot.read s.files p).result = .ok old)
      (hnew : (Command.scan s directory language extensions).result = .ok new)
      (h : (Difference.between old new).hasChanges = true) :
      EndsWell s settings (.code directory language extensions output true) events
        { exitCode := 1
          output :=
            Command.lines ((Report.lines (Difference.between old new)).map Terminal.report)
          errors := Run.noted settings events }
  | reported {c : Command} {events : List Event} {i : Issue} :
      EndsWell s settings c events
        { exitCode := 1
          errors := Run.noted settings (events ++ [.commandFailed i]) ++ [Run.issueText i] }

variable {s : Surroundings} {settings : Settings} {c : Command} {m : Logged Printout}

theorem ends_well_of_issue {i : Issue} (hm : m.result = .error (.issue i))
    (hcomplete : Run.Complete settings (m.events ++ [.commandFailed i])) :
    EndsWell s settings c m.events (Run.outcomeOf s settings m) ∨
      ∃ fault, Breaks s settings c fault ∧ (Run.outcomeOf s settings m).fault = some fault := by
  have houtcome : Run.outcomeOf s settings m
      = Run.afterNotes settings (m.events ++ [.commandFailed i]) (Run.reported s i) := by
    unfold Run.outcomeOf
    rw [hm]
  rw [houtcome, Run.afterNotes_of_complete hcomplete]
  unfold Run.reported
  cases hcolumns : Terminal.columns s.environment with
  | ok columns => exact .inl .reported
  | error fault => exact .inr ⟨fault, .screen hcolumns, rfl⟩

theorem ends_well_of_ends (hm : m.Writable)
    (h : m.Ends (Command.Prints s settings c) (Command.Fails s settings c)) :
    EndsWell s settings c m.events (Run.outcomeOf s settings m) ∨
      ∃ fault, Breaks s settings c fault ∧ (Run.outcomeOf s settings m).fault = some fault := by
  have hcomplete : Run.Complete settings m.events := Run.shownNotes_complete hm
  cases hresult : m.result with
  | ok r =>
    have houtcome : Run.outcomeOf s settings m = { exitCode := if r.changed then 1 else 0
                                                   output := r.output
                                                   errors := Run.noted settings m.events } := by
      unfold Run.outcomeOf
      rw [hresult]
      simp only [Run.afterNotes_of_complete hcomplete, List.append_nil]
    rw [houtcome]
    cases h.ok r hresult with
    | unchanged hr =>
      rw [hr]
      exact .inl .done
    | changed hfile hold hnew hchanges => exact .inl (.changed hfile hold hnew hchanges)
  | error failure =>
    cases h.error failure hresult with
    | report hreport =>
      obtain ⟨i, rfl, hwritable⟩ := hreport
      refine ends_well_of_issue hresult (Run.shownNotes_complete fun e he => ?_)
      rcases List.mem_append.1 he with he | he
      · exact hm e he
      · exact List.mem_singleton.1 he ▸ hwritable
    | @version given p bytes number hc hfile hread hformless =>
      by_cases hformat : settings.logFormat = .json ∧ settings.logLevel = .debug
      · by_cases hnotes : Run.Complete settings (m.events
          ++ [.commandFailed (.version number.literal (.int Snapshot.version))])
        · exact ends_well_of_issue hresult hnotes
        · refine .inr ⟨.wrongForm, .note hc hfile hread hformless hformat.1 hformat.2, ?_⟩
          unfold Run.outcomeOf
          rw [hresult]
          exact Run.fault_of_not_complete hnotes
      · exact ends_well_of_issue hresult (Run.complete_of_not_shown hm hformat)
    | @breaks fault hbreaks =>
      refine .inr ⟨fault, hbreaks, ?_⟩
      unfold Run.outcomeOf
      rw [hresult]
      simp only [Run.afterNotes_of_complete hcomplete]

namespace Command

theorem writable_record (s : Surroundings) (settings : Settings) (name : Json.Text)
    (directory language : String) (extensions : List String) :
    (record s settings name directory language extensions).2.Writable := by
  have hscan := writable_scan s directory language extensions
  cases hresult : (scan s directory language extensions).result with
  | error failure =>
    have hrecord : (record s settings name directory language extensions).2.events
        = (scan s directory language extensions).events := by
      unfold record
      simp only [hresult]
    exact fun e he => hscan e (hrecord ▸ he)
  | ok regions =>
    have hkeep : (keep s settings name directory regions).2.Writable := by
      unfold keep
      split
      · exact Logged.writable_of_nil rfl
      split
      · exact Logged.writable_of_nil rfl
      · exact Logged.writable_bind Snapshot.writable_write fun _ _ => Logged.writable_of_nil rfl
    intro e he
    rw [record_of_scan hresult] at he
    exact (List.mem_append.1 he).elim (hscan e) (hkeep e)

theorem writable_command {given : Option String} (hc : c.snapshot? = some given) :
    (c.run s settings).2.Writable := by
  have hfileOf (name : Json.Text) : (Logged.ofFault (fileOf name)).Writable :=
    Logged.writable_of_nil rfl
  cases c with
  | code directory language extensions output diff =>
    cases diff with
    | false =>
      rw [run_code]
      exact writable_record s settings _ directory language extensions
    | true => exact writable_compare
  | log path =>
    exact Logged.writable_bind (hfileOf _) fun p _ =>
      Logged.writable_bind (writable_read s.files p) fun _ _ => Logged.writable_of_nil rfl
  | _ => cases hc

end Command

/-- A run that records, compares or prints regions **ends well or breaks**, under settings that can be
loaded: with exit code zero, with a report of changes, or with a single message. It breaks only for
what the name of the snapshot file, the width of the screen and the limits of the system and of
messages do to it, and on a snapshot whose version the note of the failure cannot hold. -/
theorem ends_well_or_breaks {line : List String} {given : Option String} (hs : s.Regular)
    (hline : Asks s line settings c) (hc : c.snapshot? = some given)
    (hlog : '\x00' ∉ settings.logPath.shown.toList) :
    EndsWell s settings c (run s line).events (run s line).outcome ∨
      ∃ fault, Breaks s settings c fault ∧ (run s line).outcome.fault = some fault := by
  obtain ⟨i, hinvocation, hcommand, hload⟩ := hline
  rw [run_eq hinvocation hcommand hload]
  exact ends_well_of_ends (Command.writable_command hc)
    (Command.ends_run hs hlog (Group.isFileName_of_parse hcommand) hc)

/-! ### A version with bytes for keys -/

/-- A snapshot of a version that is a dictionary with bytes for its key. -/
def sampleForeign : Bytes :=
  let payload := 0x93 :: 0xab :: Utf8.encodeString "control-log"
    ++ [0x81, 0xc4, 0x01, 0x6b, 0x01, 0x90]
  ((Snapshot.ofPayload (.ok payload) (Zlib.Level.ofInt 6)).toOption).getD []

/-- Where it is besides a source. -/
def sampleWithForeign : Surroundings :=
  { sample with
    files := ⟨.directory [("p", sampleDirectory "a.js"), ("o", .file sampleForeign)], []⟩ }

/-- Prints the snapshot and notes everything as objects. -/
def sampleNoted : List String :=
  ["--log-level", "debug", "--log-format", "json"] ++ sampleLog "o"

theorem regular_sampleWithForeign : sampleWithForeign.Regular where
  tree := by
    have hfile (content : Bytes) : (Entry.file content).NulFree := .file content
    refine .directory (by decide) (List.forall_mem_cons.2 ⟨?_, List.forall_mem_singleton.2 (hfile _)⟩)
    exact .directory (by decide) (List.forall_mem_singleton.2 (hfile _))
  here := nofun
  trees l text t h := by
    obtain ⟨found, hfind, rfl⟩ := Option.map_eq_some_iff.1 h
    obtain rfl := List.mem_singleton.1 (List.mem_of_find?_eq_some hfind)
    obtain ⟨-, hbytes⟩ : _ ∧ sampleSource = Utf8.encodeString text := by
      simpa using List.find?_some hfind
    obtain rfl := Utf8.encodeString_injective hbytes
    have hfits : ∀ c ∈ (Location.root sampleTree).descendants,
        c.tree.span.Fits "// control A-1\nf();\n" := by decide +kernel
    exact fun c hc => hfits c (Location.mem_descendants.2 hc)

theorem load_sampleWithForeign {overrides : Json.Members}
    (h : (Configuration.load sampleWithForeign.environment sampleWithForeign.files
      overrides).toOption.map (fun s => s.logPath.shown) = some ".control-log") :
    ∃ settings, Configuration.load sampleWithForeign.environment sampleWithForeign.files overrides
      = .ok settings ∧ '\x00' ∉ settings.logPath.shown.toList := by
  obtain ⟨settings, hload, hshown⟩ := Option.map_eq_some_iff.1 h
  exact ⟨settings, eq_ok_of_toOption hload, by rw [hshown]; decide⟩

/-- A run **breaks on a snapshot** whose version its note cannot hold; the same snapshot is reported
where that note is not shown. -/
theorem breaks_on_foreign_version :
    (∃ settings fault, Asks sampleWithForeign sampleNoted settings (.log (some "o")) ∧
      Breaks sampleWithForeign settings (.log (some "o")) fault ∧
      (run sampleWithForeign sampleNoted).outcome.fault = some fault) ∧
    ∃ settings, Asks sampleWithForeign (sampleLog "o") settings (.log (some "o")) ∧
      EndsWell sampleWithForeign settings (.log (some "o"))
        (run sampleWithForeign (sampleLog "o")).events
        (run sampleWithForeign (sampleLog "o")).outcome := by
  constructor
  · have hline : Invocation.parse sampleNoted
        = .ok ⟨some "debug", some "json", .log, ["-l", "o"]⟩ := rfl
    have hplain : (Configuration.load sampleWithForeign.environment sampleWithForeign.files
        [(.plain "log_level", .text "debug"), (.plain "log_format", .text "json")]).toOption.map
          (fun s => s.logPath.shown) = some ".control-log" := rfl
    obtain ⟨settings, hload, hlog⟩ := load_sampleWithForeign hplain
    have hasks : Asks sampleWithForeign sampleNoted settings (.log (some "o")) :=
      ⟨_, hline, command_sampleLog, hload⟩
    have hbroken : (run sampleWithForeign sampleNoted).outcome.fault.isSome = true := by
      decide +kernel
    rcases ends_well_or_breaks regular_sampleWithForeign hasks rfl hlog with
      hends | ⟨fault, hbreaks, hfault⟩
    · generalize (run sampleWithForeign sampleNoted).outcome = o at hends hbroken
      cases hends <;> cases hbroken
    · exact ⟨settings, fault, hasks, hbreaks, hfault⟩
  · have hplain : (Configuration.load sampleWithForeign.environment sampleWithForeign.files
        []).toOption.map (fun s => s.logPath.shown) = some ".control-log" := rfl
    obtain ⟨settings, hload, hlog⟩ := load_sampleWithForeign hplain
    have hasks : Asks sampleWithForeign (sampleLog "o") settings (.log (some "o")) :=
      ⟨_, parse_sampleLog, command_sampleLog, hload⟩
    have hwhole : (run sampleWithForeign (sampleLog "o")).outcome.fault.isSome = false := by
      decide +kernel
    rcases ends_well_or_breaks regular_sampleWithForeign hasks rfl hlog with
      hends | ⟨fault, hbreaks, hfault⟩
    · exact ⟨settings, hasks, hends⟩
    · rw [hfault] at hwhole
      cases hwhole

end Drift
