import Drift.Proofs.Changes
import Drift.Proofs.Detection
import Drift.Proofs.FileSystem.Elsewhere
import Drift.Proofs.Listing
import Drift.Proofs.Snapshot.Writing
import Drift.Proofs.Storing

/-!
# What is recorded is printed

* `Configuration.Apart` — the configuration file stands elsewhere; `Configuration.load_of_apart` —
  then settings that could be loaded before a file was put can be loaded after it.
* `Command.Replaces`, `Command.replaces_of_record` — the files that a command leaves that records
  regions: those before, or those with a snapshot put where its path leads; `Command.puts_of_record`
  — the latter when it succeeds.
* `shows_of_log` — what a run shows that prints what was recorded.
* **`recorded_is_printed`** — both runs together.
-/

namespace Drift

/-! ## Regions that are stored -/

theorem Region.Storable.printable {r : Region} (h : r.Storable) : r.Printable := by
  have hlimit : MessagePack.maxNumber < 10 ^ 20 := by decide
  have hdigits : 10 ^ 20 ≤ 10 ^ Json.digitLimit := Nat.pow_le_pow_right (by decide) (by decide)
  refine Region.printable_iff.2 fun n hn => ?_
  have hle := h n hn
  omega

/-! ## Settings -/

namespace Configuration

open Settings (Environment ofEnvironment ofFile ofPresent ofSources supplied)

variable {env : Environment} {fs fs' : FileSystem} {overrides : Json.Members}

/-- The configuration file does **not stand at the end of the names**. -/
def Apart (env : Environment) (fs : FileSystem) (names : List String) : Prop :=
  ∀ file e, expandHome env (path env) = .ok file → fs.locate .content file ≠ .ok (.taken names e)

theorem apart_of_names_ne (file : Path) {names : List String}
    (hfile : expandHome env (path env) = .ok file)
    (h : (fs.locate .content file).toOption.map Place.names ≠ some names) : Apart env fs names := by
  intro file' e hfile' hlocate
  obtain rfl := Except.ok.inj (hfile.symm.trans hfile')
  exact h (by rw [hlocate]; rfl)

theorem parts_of_expandHome {file : Path} (h : expandHome env (path env) = .ok file) :
    file.parts ≠ [] := by
  have hne := path_parts_ne_nil env
  have hparts := path_parts env
  unfold expandHome at h
  split at h
  · next first rest _ hfirst =>
    split at h
    · next name htilde =>
      split at h
      · cases h
      split at h
      · cases h
      · cases h
        -- The only name that could stand alone begins with no tilde.
        have hrest : rest ≠ [] := by
          rintro rfl
          rw [hfirst] at hparts
          have hlast := congrArg List.getLast? hparts
          rw [List.getLast?_concat, List.getLast?_singleton, Option.some.injEq] at hlast
          rw [hlast] at htilde
          have hhead : "config.json".toList.head? = some '~' := by rw [htilde]; rfl
          exact absurd hhead (by decide)
        unfold Path.join
        exact List.append_ne_nil_of_right_ne_nil _ hrest
    · cases h
      exact hne
  · cases h
    exact hne

theorem members_congr {file : Path} (hfile : expandHome env (path env) = .ok file)
    (h : fs'.isFile file = fs.isFile file ∧ fs'.read file = fs.read file) :
    members env fs' = members env fs := by
  unfold members readText
  simp only [hfile, bind, Except.bind, h.1, h.2]

theorem members_of_not_isFile {file : Path} (hfile : expandHome env (path env) = .ok file)
    (h : fs.isFile file = .ok false) : members env fs = .ok [] := by
  unfold members
  simp only [hfile, bind, Except.bind, h]
  rfl

/-- Settings that can be loaded **can be loaded without the file**. -/
theorem load_of_no_members {settings : Settings} (h : members env fs' = .ok [])
    (hload : load env fs overrides = .ok settings) :
    ∃ settings', load env fs' overrides = .ok settings' := by
  obtain ⟨file, -, hload⟩ := bind_eq_ok_iff.1 hload
  cases hconvention : Settings.conventionOf? overrides with
  | none => rw [hconvention] at hload; cases hload
  | some convention =>
    rw [hconvention] at hload
    have hsources := eq_ok_of_mapError hload
    have hsupplied {f : Settings.Field} {v : Json.Value}
        (hv : supplied [ofPresent overrides, Settings.ofVariables convention env, ofFile []] f
          = some v) :
        supplied [ofPresent overrides, Settings.ofVariables convention env, ofFile file] f
          = some v := by
      have hnone : ofFile [] f = none := rfl
      simp only [supplied, List.findSome?_cons, List.findSome?_nil, hnone] at hv ⊢
      split at hv
      · exact hv
      split at hv
      · exact hv
      · cases hv
    obtain ⟨settings', hsettings'⟩ := Settings.exists_ofSources_iff.2 fun f v hv =>
      Settings.exists_ofSources_iff.1 ⟨settings, hsources⟩ f v (hsupplied hv)
    refine ⟨settings', bind_eq_ok_iff.2 ⟨[], by rw [h]; rfl, ?_⟩⟩
    rw [hconvention]
    simp only [hsettings']
    rfl

/-- Settings that could be loaded **before a file was put** can be loaded after it, when the
configuration file stands elsewhere. -/
theorem load_of_apart {p : Path} {place : Place} {content : Bytes} {settings : Settings}
    (hparts : p.parts ≠ []) (hplace : fs.locate .entry p = .ok place)
    (hdir : ∀ names entries, place ≠ .taken names (.directory entries))
    (hapart : Apart env (fs.put place.names (.file content)) place.names)
    (hload : load env fs overrides = .ok settings) :
    ∃ settings', load env (fs.put place.names (.file content)) overrides = .ok settings' := by
  obtain ⟨members', hmembers, -⟩ := bind_eq_ok_iff.1 hload
  obtain ⟨file, hfile, -⟩ := bind_eq_ok_iff.1 (eq_ok_of_mapError hmembers)
  rcases FileSystem.found_after_put hparts hplace hdir content (parts_of_expandHome hfile)
    (hapart file _ hfile) with h | h
  · exact load_of_no_members (members_of_not_isFile hfile h) hload
  · refine ⟨settings, ?_⟩
    rw [← hload]
    unfold load
    rw [members_congr hfile h]

end Configuration

/-! ## Commands -/

namespace Command

variable {s : Surroundings} {settings : Settings} {name : Json.Text} {directory language : String}
  {extensions : List String} {r : Printout}

theorem columns_of_say {message : String} (h : say s message = .ok r) :
    ∃ columns, Terminal.columns s.environment = .ok columns := by
  unfold say laidOut at h
  split at h
  · cases h
  · next columns hcolumns => exact ⟨columns, hcolumns⟩

theorem run_log {path : Option String} :
    (log path).run s settings = (s.files, (log path).answer s settings) := rfl

theorem run_code {output : Option String} :
    (code directory language extensions output false).run s settings
      = record s settings (snapshotName settings output) directory language extensions := rfl

/-- Files in which **a snapshot of regions is put** where the path of a name leads. -/
structure Replaces (s : Surroundings) (name : Json.Text) (regions : List Region) (p : Path)
    (place : Place) (snapshot : Bytes) (files : FileSystem) : Prop where
  file : fileOf name = .ok p
  parts : p.parts ≠ []
  locate : s.files.locate .entry p = .ok place
  notDirectory : ∀ names entries, place ≠ .taken names (.directory entries)
  dump : ∃ level, Snapshot.dump regions level = .ok snapshot
  put : files = s.files.put place.names (.file snapshot)

theorem Replaces.load {regions : List Region} {p : Path} {place : Place} {snapshot : Bytes}
    {files : FileSystem} (h : Replaces s name regions p place snapshot files) :
    Snapshot.load snapshot = .ok regions := by
  obtain ⟨level, hdump⟩ := h.dump
  have hload := Snapshot.load_of_dumpAt hdump []
  rwa [List.append_nil] at hload

theorem replaces_of_keep (s : Surroundings) (settings : Settings) (name : Json.Text)
    (directory : String) (regions : List Region) :
    (keep s settings name directory regions).1 = s.files ∧
        (∃ failure, (keep s settings name directory regions).2.result = .error failure) ∨
      ∃ p place snapshot,
        Replaces s name regions p place snapshot (keep s settings name directory regions).1 ∧
        (keep s settings name directory regions).2.result = written s name p regions.length := by
  unfold keep
  split
  · exact .inl ⟨rfl, _, rfl⟩
  split
  · exact .inl ⟨rfl, _, rfl⟩
  next p hfile =>
  simp only [Logged.bind]
  cases hwrite : (Snapshot.write s.files p regions settings.compressionLevel.val).2.result with
  | error failure => exact .inl ⟨Snapshot.files_of_write_error hwrite, _, rfl⟩
  | ok count =>
    obtain ⟨snapshot, hdump, hreplace⟩ := Snapshot.replace_of_write hwrite
    have hresult : (s.files.replace p snapshot).2 = .ok () := congrArg Prod.snd hreplace
    obtain ⟨place, hplace, hdir, hfiles⟩ := FileSystem.replace_ok hresult
    refine .inr ⟨p, place, snapshot, ⟨hfile, FileSystem.parts_of_replace hresult, hplace, hdir,
      ⟨_, hdump⟩, ?_⟩, rfl⟩
    rw [← hfiles, hreplace]

/-- Recording leaves the files alone and fails, or puts a snapshot of **the regions that are found**.
-/
theorem replaces_of_record (s : Surroundings) (settings : Settings) (name : Json.Text)
    (directory language : String) (extensions : List String) :
    (record s settings name directory language extensions).1 = s.files ∧
        (∃ failure,
          (record s settings name directory language extensions).2.result = .error failure) ∨
      ∃ regions p place snapshot, (scan s directory language extensions).result = .ok regions ∧
        Replaces s name regions p place snapshot
          (record s settings name directory language extensions).1 := by
  cases hscan : (scan s directory language extensions).result with
  | error failure =>
    refine .inl ⟨files_of_record_error hscan, failure, ?_⟩
    unfold record
    simp only [hscan]
  | ok regions =>
    rw [record_of_scan hscan]
    rcases replaces_of_keep s settings name directory regions with h | ⟨p, place, snapshot, h, -⟩
    · exact .inl h
    · exact .inr ⟨regions, p, place, snapshot, rfl, h⟩

/-- What a command that records regions **has put, and where**. -/
structure Puts (s : Surroundings) (name : Json.Text) (regions : List Region) (p : Path)
    (place : Place) (files : FileSystem) : Prop where
  file : fileOf name = .ok p
  parts : p.parts ≠ []
  locate : s.files.locate .entry p = .ok place
  notDirectory : ∀ names entries, place ≠ .taken names (.directory entries)
  storable : ∀ r ∈ regions, r.Storable
  put : ∃ snapshot, Snapshot.load snapshot = .ok regions ∧
    files = s.files.put place.names (.file snapshot)
  screen : ∃ columns, Terminal.columns s.environment = .ok columns

theorem puts_of_keep {regions : List Region}
    (h : (keep s settings name directory regions).2.result = .ok r) :
    ∃ p place, Puts s name regions p place (keep s settings name directory regions).1 := by
  rcases replaces_of_keep s settings name directory regions with
    ⟨-, failure, hfailure⟩ | ⟨p, place, snapshot, hreplaces, hresult⟩
  · cases hfailure.symm.trans h
  obtain ⟨level, hdump⟩ := hreplaces.dump
  obtain ⟨payload, hencode⟩ := Snapshot.encode_of_dumpAt hdump
  obtain ⟨_, hsay, -⟩ := bind_eq_ok_iff.1 (hresult.symm.trans h)
  exact ⟨p, place, hreplaces.file, hreplaces.parts, hreplaces.locate, hreplaces.notDirectory,
    Snapshot.storable_of_encode hencode, ⟨snapshot, hreplaces.load, hreplaces.put⟩,
    columns_of_say hsay⟩

/-- Recording regions that succeeds **has put a snapshot** of those that were found. -/
theorem puts_of_record
    (h : (record s settings name directory language extensions).2.result = .ok r) :
    ∃ regions p place, (scan s directory language extensions).result = .ok regions ∧
      Puts s name regions p place (record s settings name directory language extensions).1 := by
  cases hscan : (scan s directory language extensions).result with
  | error => unfold record at h; simp only [hscan, reduceCtorEq] at h
  | ok regions =>
    rw [record_of_scan hscan] at h ⊢
    simp only at h ⊢
    obtain ⟨p, place, hputs⟩ := puts_of_keep h
    exact ⟨regions, p, place, rfl, hputs⟩

end Command

/-! ## Printing -/

variable {s : Surroundings} {settings : Settings} {path : Option String} {p : Path}

theorem answer_log (hfile : Command.fileOf (Command.snapshotName settings path) = .ok p) :
    (Command.log path).answer s settings = (Snapshot.read s.files p).bind fun regions =>
      .ok { output := Command.lines [Terminal.report (Report.listing regions)] } := by
  change (Logged.ofFault (Command.fileOf _)).bind _ = _
  rw [hfile]
  rfl

/-- What a run shows that **prints what was recorded**. -/
theorem shows_of_log {regions : List Region}
    (hfile : Command.fileOf (Command.snapshotName settings path) = .ok p)
    (hread : Snapshot.read s.files p = ⟨[.snapshotRead p.text regions.length], .ok regions⟩)
    (hshown : Terminal.report (Report.listing regions) = Report.listing regions) :
    (Run.outcomeOf s settings ((Command.log path).answer s settings)).Shows 0
      (Report.listing regions ++ "\n") := by
  have hanswer : (Command.log path).answer s settings = ⟨[.snapshotRead p.text regions.length],
      .ok { output := Command.lines [Terminal.report (Report.listing regions)] }⟩ := by
    rw [answer_log hfile, hread]
    rfl
  have hwritable : ∀ e ∈ [Event.snapshotRead p.text regions.length], e.Writable :=
    List.forall_mem_singleton.2 rfl
  obtain ⟨lines, hlines⟩ := Run.afterNotes_eq hwritable settings
    { exitCode := 0, output := Command.lines [Terminal.report (Report.listing regions)] }
  rw [hanswer]
  unfold Run.outcomeOf
  simp only [Bool.false_eq_true, if_false]
  rw [hlines, hshown]
  exact ⟨rfl, by simp [Command.lines], rfl⟩

theorem shows_of_log_unreadable {reason : String} {columns : Nat}
    (hfile : Command.fileOf (Command.snapshotName settings path) = .ok p)
    (hread : Snapshot.read s.files p = .fail (.issue (.snapshotUnreadable p.text reason)))
    (hcolumns : Terminal.columns s.environment = .ok columns) :
    ∃ notes, Run.outcomeOf s settings ((Command.log path).answer s settings) = {
      exitCode := 1
      errors := notes ++ [Run.issueText (.snapshotUnreadable p.text reason)] } := by
  have hanswer : (Command.log path).answer s settings
      = .fail (.issue (.snapshotUnreadable p.text reason)) := by
    rw [answer_log hfile, hread]
    rfl
  have hwritable : ∀ e ∈ [Event.commandFailed (.snapshotUnreadable p.text reason)], e.Writable :=
    List.forall_mem_singleton.2 rfl
  obtain ⟨lines, hlines⟩ := Run.afterNotes_eq hwritable settings
    (Run.reported s (.snapshotUnreadable p.text reason))
  have hreported : Run.reported s (.snapshotUnreadable p.text reason)
      = { exitCode := 1, errors := [Run.issueText (.snapshotUnreadable p.text reason)] } := by
    unfold Run.reported
    rw [hcolumns]
  rw [hanswer]
  refine ⟨lines, hlines.trans ?_⟩
  rw [hreported]

/-! ## Both runs -/

/-- What commands work in **after a run**. -/
def Surroundings.after (s : Surroundings) (line : List String) : Surroundings :=
  { s with files := (run s line).files }

/-- What has been recorded **is printed**: when a run has recorded regions and exits with zero, every
command line that prints what stands in the file, and whose settings could be loaded before, exits
with zero, prints the records of exactly these regions in their order and changes no files. The file
must not be where the configuration now stands, nor lie on its own way: if its path leads through the
link in whose place the file now stands, the file is reported as unreadable. -/
theorem recorded_is_printed {line : List String} {directory language : String}
    {extensions : List String} {output : Option String}
    (hcode : Asks s line settings (.code directory language extensions output false))
    (hexit : (run s line).outcome.exitCode = 0) :
    ∃ regions p place, (Command.scan s directory language extensions).result = .ok regions ∧
      Command.fileOf (Command.snapshotName settings output) = .ok p ∧
      s.files.locate .entry p = .ok place ∧
      ∀ line' i path old, Invocation.parse line' = .ok i → i.group.parse i.rest = .ok (.log path) →
        Configuration.load s.environment s.files (Run.overrides i) = .ok old →
        Configuration.Apart s.environment (s.after line).files place.names →
        ∃ settings', Asks (s.after line) line' settings' (.log path) ∧
          (run (s.after line) line').files = (s.after line).files ∧
          (Command.snapshotName settings' path = Command.snapshotName settings output →
            (s.files.Reaches p place.names →
              (run (s.after line) line').outcome.Shows 0 (Report.listing regions ++ "\n") ∧
              Json.parse (run (s.after line) line').outcome.output.toList
                = .ok (.list (regions.map Region.record))) ∧
            (¬ s.files.Reaches p place.names → ∃ reason notes,
              (run (s.after line) line').outcome = {
                exitCode := 1
                errors := notes ++ [Run.issueText (.snapshotUnreadable p.text reason)] })) := by
  obtain ⟨i₀, hline₀, hcommand₀, hload₀⟩ := hcode
  have hrun := run_eq hline₀ hcommand₀ hload₀
  rw [Command.run_code] at hrun
  rw [hrun] at hexit
  simp only at hexit
  obtain ⟨r, hr, -⟩ := Run.result_of_exitCode_eq_zero hexit
  obtain ⟨regions, p, place, hscan, hputs⟩ := Command.puts_of_record hr
  obtain ⟨snapshot, hsnapshot, hfiles⟩ := hputs.put
  obtain ⟨columns, hcolumns⟩ := hputs.screen
  have hafter : (s.after line).files = s.files.put place.names (.file snapshot) := by
    change (run s line).files = _
    rw [hrun, ← hfiles]
  have hwritten := Snapshot.written_of_put hputs.parts hputs.locate hputs.notDirectory hsnapshot
  rw [← hafter] at hwritten
  refine ⟨regions, p, place, hscan, hputs.file, hputs.locate, ?_⟩
  intro line' i path old hline hcommand hold hapart
  rw [hafter] at hapart
  obtain ⟨settings', hload⟩ := Configuration.load_of_apart hputs.parts hputs.locate
    hputs.notDirectory hapart hold
  rw [← hafter] at hload
  have hrun' := run_eq (s := s.after line) hline hcommand hload
  rw [Command.run_log] at hrun'
  refine ⟨settings', ⟨i, hline, hcommand, hload⟩, by rw [hrun'], fun hname => ?_⟩
  have hfile : Command.fileOf (Command.snapshotName settings' path) = .ok p := hname ▸ hputs.file
  have hprintable : ∀ r ∈ regions, r.Printable := fun r hr => (hputs.storable r hr).printable
  rw [hrun']
  refine ⟨fun hreaches => ?_, fun hreaches => ?_⟩
  · have hshows := shows_of_log hfile (hwritten.readBack hreaches).2
      (Report.shown_listing hprintable)
    refine ⟨hshows, ?_⟩
    rw [hshows.output, String.toList_append]
    exact Report.parse_listing hprintable (List.forall_mem_singleton.2 rfl)
  · obtain ⟨-, reason, hread⟩ := hwritten.lost hreaches
    obtain ⟨notes, hnotes⟩ := shows_of_log_unreadable hfile hread hcolumns
    exact ⟨reason, notes, hnotes⟩

/-! ### A record and its listing -/

/-- Prints what was recorded under a name. -/
def sampleLog (name : String) : List String := ["log", "-l", name]

/-- Where there is a link to a directory, too. -/
def sampleLinked : Surroundings :=
  { sample with
    files := ⟨.directory [("p", sampleDirectory "a.js"), ("d", .directory []), ("l", .link "d")], []⟩ }

/-- Records by a way through the link in whose place the snapshot is put. -/
def sampleRecordThrough : List String := ["code", "p", "--lang", "js", "--ext", "js", "-o", "l/../l"]

/-- Where the configuration names no level. -/
def sampleUnset : Surroundings where
  environment := { vars := [("CONTROL_CONFIG_DIR", "cfg")] }
  files := ⟨.directory [("p", sampleDirectory "a.js"), ("cfg", .directory
    [("config.json", .file (Utf8.encodeString "\x7b\"log_level\": 7\x7d"))])], []⟩
  grammars := sample.grammars

/-- Records under a level of its own. -/
def sampleRecordLeveled : List String := ["--log-level", "info"] ++ sampleRecord

theorem load_sample : ∃ settings, Configuration.load sample.environment sample.files []
    = .ok settings := ⟨_, rfl⟩

theorem parse_sampleLog :
    Invocation.parse (sampleLog "o") = .ok ⟨none, none, .log, ["-l", "o"]⟩ := rfl

theorem command_sampleLog : Group.parse .log ["-l", "o"] = .ok (.log (some "o")) := rfl

/-- What was recorded is printed. -/
theorem recorded_is_printed_sample :
    (run sample sampleRecord).outcome.exitCode = 0 ∧
    (run (sample.after sampleRecord) (sampleLog "o")).outcome.exitCode = 0 ∧
    Json.parse (run (sample.after sampleRecord) (sampleLog "o")).outcome.output.toList
      = .ok (.list [(sampleRegion "a.js").record]) := by
  obtain ⟨settings, hload⟩ := load_sample
  obtain ⟨regions, p, place, hscan, hfile, hplace, hprinted⟩ := recorded_is_printed
    ⟨_, parse_sampleRecord, command_sampleRecord, hload⟩ exitCode_sampleRecord
  obtain rfl := Except.ok.inj (scan_sample.symm.trans hscan)
  have hp : Path.ofString "o" = p := Except.ok.inj hfile
  have hfree : sample.files.locate .entry (Path.ofString "o") = .ok (.free [] "o") := rfl
  subst hp
  obtain rfl := Except.ok.inj (hfree.symm.trans hplace)
  have hapart : Configuration.Apart sample.environment (sample.after sampleRecord).files ["o"] :=
    Configuration.apart_of_names_ne (Path.ofString "/root/.config/control/config.json")
      rfl (by decide +kernel)
  have hreaches : sample.files.Reaches (Path.ofString "o") ["o"] := ⟨_, hfree, rfl⟩
  obtain ⟨settings', -, -, hnames⟩ :=
    hprinted _ _ _ _ parse_sampleLog command_sampleLog hload hapart
  obtain ⟨hshows, hparse⟩ := (hnames rfl).1 hreaches
  exact ⟨exitCode_sampleRecord, hshows.exitCode, hparse⟩

theorem parse_sampleRecordThrough : Invocation.parse sampleRecordThrough
    = .ok ⟨none, none, .code, sampleRecordThrough.tail⟩ := rfl

theorem command_sampleRecordThrough : Group.parse .code sampleRecordThrough.tail
    = .ok (.code "p" "js" ["js"] (some "l/../l") false) := rfl

theorem parse_sampleRecordLeveled : Invocation.parse sampleRecordLeveled
    = .ok ⟨some "info", none, .code, sampleRecord.tail⟩ := rfl

/-- Not everything that is recorded is printed: a snapshot that is put in the place of a link **is not
found** by a way through the link, and settings that only an override let be loaded **are not loaded**
without it. -/
theorem recorded_but_not_printed :
    (¬ ∀ (s : Surroundings) (line : List String) (settings : Settings)
      (directory language name : String) (extensions : List String) (place : Place),
      Asks s line settings (.code directory language extensions (some name) false) →
      (run s line).outcome.exitCode = 0 →
      s.files.locate .entry (Path.ofString name) = .ok place →
      Configuration.Apart s.environment (s.after line).files place.names →
      (run (s.after line) (sampleLog name)).outcome.exitCode = 0) ∧
    ¬ ∀ (s : Surroundings) (line : List String) (settings : Settings)
      (directory language name : String) (extensions : List String) (place : Place),
      Asks s line settings (.code directory language extensions (some name) false) →
      (run s line).outcome.exitCode = 0 →
      s.files.locate .entry (Path.ofString name) = .ok place →
      s.files.Reaches (Path.ofString name) place.names →
      Configuration.Apart s.environment (s.after line).files place.names →
      (run (s.after line) (sampleLog name)).outcome.exitCode = 0 := by
  constructor
  · intro hclaim
    obtain ⟨settings, hload⟩ : ∃ settings,
        Configuration.load sampleLinked.environment sampleLinked.files [] = .ok settings := ⟨_, rfl⟩
    have hlocate : sampleLinked.files.locate .entry (Path.ofString "l/../l")
        = .ok (.taken ["l"] (.link "d")) := rfl
    obtain ⟨hexit, hnames, hunread⟩ :
        (run sampleLinked sampleRecordThrough).outcome.exitCode = 0 ∧
        ((sampleLinked.after sampleRecordThrough).files.locate .content
          (Path.ofString "/root/.config/control/config.json")).toOption.map Place.names
            ≠ some ["l"] ∧
        (run (sampleLinked.after sampleRecordThrough) (sampleLog "l/../l")).outcome.exitCode = 1 := by
      decide +kernel
    have hprinted := hclaim sampleLinked sampleRecordThrough settings _ _ _ _ _
      ⟨_, parse_sampleRecordThrough, command_sampleRecordThrough, hload⟩ hexit hlocate
      (Configuration.apart_of_names_ne _ rfl hnames)
    cases hunread.symm.trans hprinted
  · intro hclaim
    obtain ⟨settings, hload⟩ : ∃ settings,
        Configuration.load sampleUnset.environment sampleUnset.files
          [(.plain "log_level", .text "info")] = .ok settings :=
      exists_eq_ok (by decide +kernel)
    have hlocate : sampleUnset.files.locate .entry (Path.ofString "o") = .ok (.free [] "o") := rfl
    obtain ⟨hexit, hnames, hunread⟩ :
        (run sampleUnset sampleRecordLeveled).outcome.exitCode = 0 ∧
        ((sampleUnset.after sampleRecordLeveled).files.locate .content
          (Path.ofString "cfg/config.json")).toOption.map Place.names ≠ some ["o"] ∧
        (run (sampleUnset.after sampleRecordLeveled) (sampleLog "o")).outcome.exitCode = 1 := by
      decide +kernel
    have hprinted := hclaim sampleUnset sampleRecordLeveled settings _ _ _ _ _
      ⟨_, parse_sampleRecordLeveled, command_sampleRecord, hload⟩ hexit hlocate ⟨_, hlocate, rfl⟩
      (Configuration.apart_of_names_ne _ rfl hnames)
    cases hunread.symm.trans hprinted

end Drift
