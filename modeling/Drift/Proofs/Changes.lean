import Drift.Proofs.FileSystem.Changes
import Drift.Proofs.Run
import Drift.Proofs.Snapshot.File

/-!
# What runs change

* `Command.Effect` — what a command has done to the files when it is done.
* `Command.Unshown` — the message at its end cannot be shown.
* `Command.run_cases` — a command leaves the files alone, or has made directories and failed, or has
  its effect; and then it succeeds if its message can be shown.
* **`run_changes_at_most_its_file`** — so it is for every command line, by its exit code.
-/

namespace Drift

open FileSystem (Rewritten Furnished)

/-! ## Snapshots and settings -/

namespace Snapshot

variable {fs : FileSystem} {p : Path} {regions : List Region} {level : Int}

theorem writable_write : (write fs p regions level).2.Writable := by
  unfold write writeAt place
  split
  · exact Logged.writable_of_nil rfl
  · split
    · exact Logged.writable_of_nil rfl
    · exact List.forall_mem_singleton.2 rfl

end Snapshot

namespace Configuration

theorem store_cases (env : Settings.Environment) (fs : FileSystem) (field text : String) :
    (∃ failure, (store env fs field text).2 = .error failure) ∧
        Furnished (path env).parent fs (store env fs field text).1 ∨
      (∃ v, (store env fs field text).2 = .ok v) ∧ ∃ made place,
        Furnished (path env).parent fs made ∧ made.locate .writing (path env) = .ok place ∧
        ((store env fs field text).1 = made ∨
          Rewritten place.names made (store env fs field text).1) := by
  have hmade := FileSystem.furnished_makeDirectories fs (path env).parent
  unfold store storeValue
  cases update env fs field (.text text) with
  | error failure => exact .inl ⟨⟨failure, rfl⟩, .refl _ _⟩
  | ok updated =>
    obtain ⟨new, v⟩ := updated
    generalize fs.makeDirectories (path env).parent = making at hmade ⊢
    obtain ⟨made, result⟩ := making
    cases result with
    | error fault => exact .inl ⟨⟨_, rfl⟩, hmade⟩
    | ok =>
      cases hwrite : made.write (path env) (content new) with
      | error fault =>
        simp only [hwrite]
        exact .inl ⟨⟨_, rfl⟩, hmade⟩
      | ok files =>
        obtain ⟨place, hplace, hfiles⟩ := FileSystem.write_eq_ok hwrite
        simp only [hwrite]
        exact .inr ⟨⟨v, rfl⟩, made, place, hmade, hplace, hfiles⟩

end Configuration

namespace Command

/-! ## Commands -/

variable {s : Surroundings} {settings : Settings}

/-- What a command has done to the files **when it is done**. -/
inductive Effect (s : Surroundings) (settings : Settings) : Command → FileSystem → Prop where
  /-- Regions were found, and the file for snapshots has been replaced. -/
  | recorded {directory language : String} {extensions : List String} {output : Option String}
      {regions : List Region} {snapshot : Path} {place : Place} {files : FileSystem}
      (hscan : (scan s directory language extensions).result = .ok regions) (hne : regions ≠ [])
      (hfile : fileOf (snapshotName settings output) = .ok snapshot)
      (hplace : s.files.locate .entry snapshot = .ok place)
      (h : Rewritten place.names s.files files) :
      Effect s settings (.code directory language extensions output false) files
  /-- The configuration file has been written, in directories that were made for it. A sink takes
  what is written and does not change. -/
  | stored {field value : String} {made files : FileSystem} {place : Place}
      (hmade : Furnished (Configuration.path s.environment).parent s.files made)
      (hplace : made.locate .writing (Configuration.path s.environment) = .ok place)
      (h : files = made ∨ Rewritten place.names made files) :
      Effect s settings (.setField field value) files

/-- The message at the end of a command **cannot be shown**. -/
inductive Unshown (s : Surroundings) (settings : Settings) : Command → Prop where
  /-- The environment gives the screen no width. -/
  | screen {c : Command} {fault : Fault} (h : Terminal.columns s.environment = .error fault) :
      Unshown s settings c
  /-- The name of the snapshot holds halves of surrogate pairs, as names of files may. -/
  | name {directory language : String} {extensions : List String} {output : Option String}
      {run : Json.Text.Run} (h : (snapshotName settings output).unprintable? = some run) :
      Unshown s settings (.code directory language extensions output false)

theorem say_cases (s : Surroundings) (message : String) :
    (∃ r, say s message = .ok r ∧ r.changed = false) ∨
      ∃ fault, Terminal.columns s.environment = .error fault := by
  unfold say laidOut
  cases hcolumns : Terminal.columns s.environment with
  | error fault => exact .inr ⟨fault, rfl⟩
  | ok columns => exact .inl ⟨_, rfl, rfl⟩

theorem written_cases (s : Surroundings) (name : Json.Text) (snapshot : Path) (count : Nat) :
    (∃ r, written s name snapshot count = .ok r ∧ r.changed = false) ∨
      (∃ fault, Terminal.columns s.environment = .error fault) ∨
      ∃ run, name.unprintable? = some run := by
  rcases say_cases s (Report.written (.text snapshot.text) (.int count)) with ⟨r, hr, hchanged⟩ | h
  · cases hname : name.unprintable? with
    | some run => exact .inr (.inr ⟨run, rfl⟩)
    | none =>
      refine .inl ⟨r, ?_, hchanged⟩
      unfold written
      rw [hr, hname]
      rfl
  · exact .inr (.inl h)

/-- The command **has its effect** on the files. If it does not succeed, its message cannot be
shown. -/
structure Done (s : Surroundings) (settings : Settings) (c : Command) : Prop where
  effect : Effect s settings c (c.run s settings).1
  writable : (c.run s settings).2.Writable
  shown : (∃ r, (c.run s settings).2.result = .ok r ∧ r.changed = false) ∨ Unshown s settings c

theorem keep_cases (s : Surroundings) (settings : Settings) (name : Json.Text) (directory : String)
    (regions : List Region) :
    (keep s settings name directory regions).1 = s.files ∨
      regions ≠ [] ∧ (keep s settings name directory regions).2.Writable ∧
        ∃ snapshot place, fileOf name = .ok snapshot ∧ s.files.locate .entry snapshot = .ok place ∧
          Rewritten place.names s.files (keep s settings name directory regions).1 ∧
          (keep s settings name directory regions).2.result
            = written s name snapshot regions.length := by
  unfold keep
  split
  · exact .inl rfl
  next hne =>
  split
  · exact .inl rfl
  next snapshot hfile =>
  cases hwrite : (Snapshot.write s.files snapshot regions settings.compressionLevel.val).2.result with
  | error failure => exact .inl (Snapshot.files_of_write_error hwrite)
  | ok count =>
    obtain ⟨place, hplace, hrewritten⟩ := Snapshot.rewritten_of_write hwrite
    refine .inr ⟨fun h => hne (List.isEmpty_iff.2 h), ?_, snapshot, place, hfile, hplace,
      hrewritten, ?_⟩
    · exact Logged.writable_bind Snapshot.writable_write fun _ _ => Logged.writable_of_nil rfl
    · simp only [Logged.bind, hwrite]

theorem files_of_record_error {name : Json.Text} {directory language : String}
    {extensions : List String} {failure : Failure}
    (hscan : (scan s directory language extensions).result = .error failure) :
    (record s settings name directory language extensions).1 = s.files := by
  unfold record
  simp only [hscan]

theorem record_of_scan {name : Json.Text} {directory language : String} {extensions : List String}
    {regions : List Region} (hscan : (scan s directory language extensions).result = .ok regions) :
    record s settings name directory language extensions =
      ((keep s settings name directory regions).1,
        ⟨(scan s directory language extensions).events
          ++ (keep s settings name directory regions).2.events,
          (keep s settings name directory regions).2.result⟩) := by
  unfold record
  simp only [hscan]

theorem record_cases (s : Surroundings) (settings : Settings) (directory language : String)
    (extensions : List String) (output : Option String) :
    ((code directory language extensions output false).run s settings).1 = s.files ∨
      Done s settings (code directory language extensions output false) := by
  have hrun : (code directory language extensions output false).run s settings = record s settings
    (snapshotName settings output) directory language extensions := rfl
  cases hscan : (scan s directory language extensions).result with
  | error => exact .inl (hrun ▸ files_of_record_error hscan)
  | ok regions =>
    rw [record_of_scan hscan] at hrun
    rcases keep_cases s settings (snapshotName settings output) directory regions with
      h | ⟨hne, hwritable, snapshot, place, hfile, hplace, hrewritten, hresult⟩
    · exact .inl (hrun ▸ h)
    · refine .inr ⟨?_, ?_, ?_⟩ <;> rw [hrun]
      · exact .recorded hscan hne hfile hplace hrewritten
      · intro e he
        rcases List.mem_append.1 he with he | he
        · exact writable_scan _ _ _ _ e he
        · exact hwritable e he
      · rw [hresult]
        rcases written_cases s (snapshotName settings output) snapshot regions.length with
          h | ⟨_, h⟩ | ⟨_, h⟩
        · exact .inl h
        · exact .inr (.screen h)
        · exact .inr (.name h)

theorem setField_of_store_error {field value : String} {files : FileSystem} {failure : Failure}
    (hstore : Configuration.store s.environment s.files field value = (files, .error failure)) :
    (setField field value).run s settings = (files, .fail failure) := by
  unfold run
  simp only [hstore]

theorem setField_of_store {field value : String} {files : FileSystem} {v : Json.Value}
    (hstore : Configuration.store s.environment s.files field value = (files, .ok v)) :
    (setField field value).run s settings
      = (files, ⟨[], say s (String.join [field, " = ", valueText v])⟩) := by
  unfold run
  simp only [hstore]

theorem setField_cases (s : Surroundings) (settings : Settings) (field value : String) :
    (∃ failure, ((setField field value).run s settings).2.result = .error failure) ∧
        Furnished (Configuration.path s.environment).parent s.files
          ((setField field value).run s settings).1 ∨
      Done s settings (setField field value) := by
  have hcases := Configuration.store_cases s.environment s.files field value
  cases hstore : Configuration.store s.environment s.files field value with
  | mk files result =>
  rw [hstore] at hcases
  rcases hcases with ⟨⟨failure, rfl⟩, hmade⟩ | ⟨⟨v, rfl⟩, made, place, hmade, hplace, hfiles⟩
  · left
    rw [setField_of_store_error hstore]
    exact ⟨⟨failure, rfl⟩, hmade⟩
  · refine .inr ⟨?_, ?_, ?_⟩ <;> rw [setField_of_store hstore]
    · exact .stored hmade hplace hfiles
    · exact Logged.writable_of_nil rfl
    · rcases say_cases s (String.join [field, " = ", valueText v]) with h | ⟨_, h⟩
      · exact .inl h
      · exact .inr (.screen h)

/-- A command leaves the files **alone**, or nothing but directories when it fails to set a field,
or it is done. -/
theorem run_cases (s : Surroundings) (settings : Settings) (c : Command) :
    (c.run s settings).1 = s.files ∨
      (∃ field value failure, c = .setField field value ∧
        (c.run s settings).2.result = .error failure ∧
        Furnished (Configuration.path s.environment).parent s.files (c.run s settings).1) ∨
      Done s settings c := by
  cases c with
  | code directory language extensions output diff =>
    cases diff with
    | true => exact .inl rfl
    | false =>
      rcases record_cases s settings directory language extensions output with h | h
      · exact .inl h
      · exact .inr (.inr h)
  | setField field value =>
    rcases setField_cases s settings field value with ⟨⟨failure, hresult⟩, hmade⟩ | h
    · exact .inr (.inl ⟨field, value, failure, rfl, hresult, hmade⟩)
    · exact .inr (.inr h)
  | _ => exact .inl rfl

end Command

/-! ## Command lines -/

/-- A run that exits with zero changes **at most one file**, the snapshot or the configuration, and
makes directories for the latter. One that does not changes no file and leaves nothing beside it:
when a field cannot be set, directories that were made for it may stay; and what has been written
stays when only the message about it cannot be shown. -/
theorem run_changes_at_most_its_file (s : Surroundings) (line : List String) :
    ((run s line).outcome.exitCode = 0 → (run s line).files = s.files ∨
      ∃ settings c, Asks s line settings c ∧ c.Effect s settings (run s line).files) ∧
    ((run s line).outcome.exitCode ≠ 0 → (run s line).files = s.files ∨
      (∃ settings field value, Asks s line settings (.setField field value) ∧
        Furnished (Configuration.path s.environment).parent s.files (run s line).files) ∨
      ∃ settings c, Asks s line settings c ∧ c.Effect s settings (run s line).files ∧
        c.Unshown s settings) := by
  rcases files_or_asks s line with h | ⟨settings, c, hasks, hrun⟩
  · exact ⟨fun _ => .inl h, fun _ => .inl h⟩
  rw [hrun]
  rcases c.run_cases s settings with h | ⟨field, value, failure, rfl, hresult, hmade⟩ | h
  · exact ⟨fun _ => .inl h, fun _ => .inl h⟩
  · refine ⟨fun hexit => ?_, fun _ => .inr (.inl ⟨settings, field, value, hasks, hmade⟩)⟩
    obtain ⟨r, hr, -⟩ := Run.result_of_exitCode_eq_zero hexit
    rw [hresult] at hr
    cases hr
  · refine ⟨fun _ => .inr ⟨settings, c, hasks, h.effect⟩, fun hexit => ?_⟩
    rcases h.shown with ⟨r, hr, hchanged⟩ | hunshown
    · exact absurd (Run.exitCode_eq_zero h.writable hr hchanged s settings) hexit
    · exact .inr (.inr ⟨settings, c, hasks, h.effect, hunshown⟩)

/-! ### What stays after a failure -/

/-- The directory for the configuration is asked for in the place of a file. -/
def sampleBarred : Surroundings where
  environment := { vars := [("CONTROL_CONFIG_DIR", "new/../f")] }
  files := ⟨.directory [("f", .file [])], []⟩
  grammars := ⟨[], []⟩

/-- Sets a field. -/
def sampleSet : List String := ["config", "set", "log_level", "INFO"]

/-- A source with one annotation, and half of a surrogate pair as the name of its snapshot. -/
def sampleHalved : Surroundings where
  environment := { vars := [("CONTROL_CONFIG_DIR", "c")] }
  files := ⟨.directory
    [("a.js", .file (Utf8.encodeString "//control a")),
     ("c", .directory
      [("config.json", .file (Utf8.encodeString "\x7b\"log_path\": \"\\udc80\"\x7d"))])], []⟩
  grammars := ⟨[], [(.javascript, Utf8.encodeString "//control a",
    .node "program" true ⟨0, 11, (0, 0), (0, 11)⟩
      [.node "comment" true ⟨0, 11, (0, 0), (0, 11)⟩ [],
       .node "empty_statement" true ⟨11, 11, (0, 11), (0, 11)⟩ []])]⟩

/-- Records its regions. -/
def sampleCode : List String := ["code", "a.js", "--lang", "js", "--ext", "js"]

/-- Not every run that fails leaves everything as it was: a directory that was made on the way to
the one for the configuration **stays**. And not only directories stay: so does a snapshot whose
name cannot be printed. -/
theorem directory_and_snapshot_stay :
    (¬ ∀ (s : Surroundings) (line : List String),
      (run s line).outcome.exitCode ≠ 0 → (run s line).files = s.files) ∧
    ¬ ∀ (s : Surroundings) (line : List String),
      (run s line).outcome.exitCode ≠ 0 → (run s line).files = s.files ∨
        Furnished (Configuration.path s.environment).parent s.files (run s line).files := by
  constructor
  · intro hclaim
    obtain ⟨hexit, hnew⟩ : (run sampleBarred sampleSet).outcome.exitCode = 1 ∧
        ((run sampleBarred sampleSet).files.tree.get? ["new"]).isSome = true := by decide +kernel
    have hsame := hclaim sampleBarred sampleSet (hexit.trans_ne (by decide))
    rw [hsame] at hnew
    exact absurd hnew (by decide)
  · intro hclaim
    have hold : sampleHalved.files.tree.get? ["\\udc80"] = none := rfl
    obtain ⟨hexit, hnew⟩ : (run sampleHalved sampleCode).outcome.exitCode = 1 ∧
        ((run sampleHalved sampleCode).files.tree.get? ["\\udc80"]).map Entry.isDirectory
          = some false := by decide +kernel
    obtain ⟨e, he, hfile⟩ := Option.map_eq_some_iff.1 hnew
    rcases hclaim sampleHalved sampleCode (hexit.trans_ne (by decide)) with hsame | hmade
    · rw [hsame, hold] at he
      cases he
    · exact Bool.false_ne_true (hfile.symm.trans (hmade.made hold he).1)

end Drift
