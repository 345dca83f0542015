import Drift.Proofs.Difference
import Drift.Proofs.Report
import Drift.Proofs.Run
import Drift.Proofs.Snapshot.File

/-!
# Drift is detected exactly

* `replace_of_record` — a run that records regions and exits with zero has put a snapshot of them in
  the place of the file.
* `outcome_of_compare` — what a run shows that compares regions with those of a snapshot.
* **`drift_detected_exactly`** — both runs together.
-/

namespace Drift

namespace Command

variable {s : Surroundings} {settings : Settings} {directory language name : String}
  {extensions : List String}

theorem run_record : (code directory language extensions (some name) false).run s settings
    = record s settings (.plain name) directory language extensions := rfl

theorem run_compare {output : Option String} :
    (code directory language extensions output true).run s settings
      = (s.files, compare s (snapshotName settings output) directory language extensions) := rfl

/-! ## Recording -/

theorem fileOf_plain (name : String) : fileOf (.plain name) = .ok (Path.ofString name) := rfl

theorem keep_eq {regions : List Region} (h : ¬ regions.isEmpty = true) :
    keep s settings (.plain name) directory regions =
      ((Snapshot.write s.files (Path.ofString name) regions settings.compressionLevel.val).1,
        (Snapshot.write s.files (Path.ofString name) regions settings.compressionLevel.val).2.bind
          fun _ => ⟨[], written s (.plain name) (Path.ofString name) regions.length⟩) := by
  unfold keep
  rw [if_neg h]
  simp only [fileOf_plain]

theorem replace_of_keep {regions : List Region} {r : Printout}
    (h : (keep s settings (.plain name) directory regions).2.result = .ok r) :
    ∃ snapshot, Snapshot.load snapshot = .ok regions ∧
      s.files.replace (Path.ofString name) snapshot
        = ((keep s settings (.plain name) directory regions).1, .ok ()) := by
  by_cases hempty : regions.isEmpty = true
  · rw [keep, if_pos hempty] at h
    cases h
  rw [keep_eq hempty] at h ⊢
  simp only at h ⊢
  generalize hwrite : Snapshot.write s.files (Path.ofString name) regions
    settings.compressionLevel.val = written at h ⊢
  unfold Logged.bind at h
  split at h
  · cases h
  · next count hcount =>
    rw [← hwrite] at hcount ⊢
    obtain ⟨snapshot, hdump, hreplace⟩ := Snapshot.replace_of_write hcount
    have hload := Snapshot.load_of_dumpAt hdump []
    rw [List.append_nil] at hload
    exact ⟨snapshot, hload, hreplace⟩

theorem replace_of_record {r : Printout}
    (h : (record s settings (.plain name) directory language extensions).2.result = .ok r) :
    ∃ regions snapshot, (scan s directory language extensions).result = .ok regions ∧
      Snapshot.load snapshot = .ok regions ∧ s.files.replace (Path.ofString name) snapshot
        = ((record s settings (.plain name) directory language extensions).1, .ok ()) := by
  unfold record at h ⊢
  cases hscan : (scan s directory language extensions).result with
  | error => simp only [hscan, reduceCtorEq] at h
  | ok regions =>
    simp only [hscan] at h ⊢
    obtain ⟨snapshot, hload, hreplace⟩ := replace_of_keep h
    exact ⟨regions, snapshot, rfl, hload, hreplace⟩

/-! ## Comparing -/

theorem writable_read (fs : FileSystem) (p : Path) : (Snapshot.read fs p).Writable := by
  unfold Snapshot.read
  split
  · exact Logged.writable_of_nil rfl
  split
  · exact Logged.writable_of_nil rfl
  · exact List.forall_mem_singleton.2 rfl

variable {snapshot : Json.Text} {p : Path} {old new : List Region}

theorem compare_eq_bind : compare s snapshot directory language extensions =
    (Logged.ofFault (fileOf snapshot)).bind fun p => (Snapshot.read s.files p).bind fun old =>
      (scan s directory language extensions).bind fun new => .ok
        { output := lines ((Report.lines (Difference.between old new)).map Terminal.report),
          changed := (Difference.between old new).hasChanges } := rfl

theorem writable_compare : (compare s snapshot directory language extensions).Writable := by
  rw [compare_eq_bind]
  refine Logged.writable_bind (Logged.writable_of_nil rfl) fun _ _ => ?_
  refine Logged.writable_bind (writable_read _ _) fun _ _ => ?_
  exact Logged.writable_bind (writable_scan _ _ _ _) fun _ _ => Logged.writable_of_nil rfl

theorem result_compare (hfile : fileOf snapshot = .ok p)
    (hold : (Snapshot.read s.files p).result = .ok old)
    (hnew : (scan s directory language extensions).result = .ok new) :
    (compare s snapshot directory language extensions).result = .ok
      { output := lines ((Report.lines (Difference.between old new)).map Terminal.report),
        changed := (Difference.between old new).hasChanges } := by
  have hfileOf : (Logged.ofFault (fileOf snapshot)).result = .ok p := by
    rw [hfile]
    rfl
  rw [compare_eq_bind]
  simp only [Logged.bind, hfileOf, hold, hnew]
  rfl

end Command

/-! ## Command lines -/

variable {s : Surroundings} {line : List String} {i : Invocation} {settings : Settings}

theorem outcome_of_difference {directory language : String} {extensions : List String}
    {output : Option String} {p : Path} {old new : List Region}
    (hline : Invocation.parse line = .ok i)
    (hcode : i.group.parse i.rest = .ok (.code directory language extensions output true))
    (hload : Configuration.load s.environment s.files (Run.overrides i) = .ok settings)
    (hfile : Command.fileOf (Command.snapshotName settings output) = .ok p)
    (hold : (Snapshot.read s.files p).result = .ok old)
    (hnew : (Command.scan s directory language extensions).result = .ok new) :
    ∃ errors, (run s line).outcome =
      { exitCode := if (Difference.between old new).hasChanges then 1 else 0,
        output := Command.lines
          ((Report.lines (Difference.between old new)).map Terminal.report),
        errors := errors } := by
  have hresult := Command.result_compare hfile hold hnew
  rw [run_eq hline hcode hload, Command.run_compare]
  simp only [Run.outcomeOf, hresult]
  obtain ⟨lines, hlines⟩ := Run.afterNotes_eq Command.writable_compare settings
    { exitCode := if (Difference.between old new).hasChanges then 1 else 0,
      output := Command.lines ((Report.lines (Difference.between old new)).map Terminal.report) }
  exact ⟨_, hlines⟩

theorem outcome_of_compare {directory language name : String} {extensions : List String}
    {snapshot : Bytes} {old new : List Region} (hline : Invocation.parse line = .ok i)
    (hcode : i.group.parse i.rest = .ok (.code directory language extensions (some name) true))
    (hload : Configuration.load s.environment s.files (Run.overrides i) = .ok settings)
    (hfile : s.files.read (Path.ofString name) = .ok snapshot)
    (hold : Snapshot.load snapshot = .ok old)
    (hnew : (Command.scan s directory language extensions).result = .ok new) :
    ∃ errors, (run s line).outcome =
      { exitCode := if (Difference.between old new).hasChanges then 1 else 0,
        output := Command.lines
          ((Report.lines (Difference.between old new)).map Terminal.report),
        errors := errors } :=
  outcome_of_difference hline hcode hload (Command.fileOf_plain name)
    (congrArg Logged.result (Snapshot.read_eq hfile hold)) hnew

theorem replace_of_exitCode_eq_zero {directory language name : String} {extensions : List String}
    (hline : Invocation.parse line = .ok i)
    (hcode : i.group.parse i.rest = .ok (.code directory language extensions (some name) false))
    (h : (run s line).outcome.exitCode = 0) :
    ∃ regions snapshot, (Command.scan s directory language extensions).result = .ok regions ∧
      Snapshot.load snapshot = .ok regions ∧
      s.files.replace (Path.ofString name) snapshot = ((run s line).files, .ok ()) := by
  obtain ⟨settings, hload⟩ := load_of_exitCode_eq_zero hline h
  rw [run_eq hline hcode hload, Command.run_record] at h ⊢
  simp only at h ⊢
  obtain ⟨r, hr, -⟩ := Run.result_of_exitCode_eq_zero h
  exact Command.replace_of_record hr

/-! ## Both runs -/

/-- A run shows a text and **ends with an exit code**, without a fault. -/
structure Outcome.Shows (o : Outcome) (exitCode : Nat) (output : String) : Prop where
  exitCode : o.exitCode = exitCode
  output : o.output = output
  noFault : o.fault = none

/-- What was recorded by one run is **compared exactly** with what another one finds. The files of
the two runs need have nothing in common but the snapshot that the first one left. -/
theorem drift_detected_exactly {s₁ s₂ : Surroundings} {line₁ line₂ : List String}
    {i₁ i₂ : Invocation} {directory₁ language₁ directory₂ language₂ name : String}
    {extensions₁ extensions₂ : List String} {snapshot : Bytes} {settings : Settings}
    {new : List Region}
    (hline₁ : Invocation.parse line₁ = .ok i₁)
    (hcode₁ : i₁.group.parse i₁.rest
      = .ok (.code directory₁ language₁ extensions₁ (some name) false))
    (hexit : (run s₁ line₁).outcome.exitCode = 0)
    (hwritten : (run s₁ line₁).files.read (Path.ofString name) = .ok snapshot)
    (hheld : s₂.files.read (Path.ofString name) = .ok snapshot)
    (hline₂ : Invocation.parse line₂ = .ok i₂)
    (hcode₂ : i₂.group.parse i₂.rest
      = .ok (.code directory₂ language₂ extensions₂ (some name) true))
    (hload : Configuration.load s₂.environment s₂.files (Run.overrides i₂) = .ok settings)
    (hnew : (Command.scan s₂ directory₂ language₂ extensions₂).result = .ok new) :
    ∃ old, (Command.scan s₁ directory₁ language₁ extensions₁).result = .ok old ∧
      (new.Perm old → (run s₂ line₂).outcome.Shows 0 "No changes detected.\n") ∧
      (¬ new.Perm old → (run s₂ line₂).outcome.Shows 1 (Command.lines
        ((Report.lines ⟨old.diff new, new.diff old⟩).map Terminal.report))) ∧
      (¬ new.Perm old → (∀ r ∈ old ++ new, Terminal.escape ∉ r.path.toList) →
        (run s₂ line₂).outcome.Shows 1
          (Command.lines (Report.lines ⟨old.diff new, new.diff old⟩))) := by
  obtain ⟨old, written, hold, hsnapshot, hreplace⟩ :=
    replace_of_exitCode_eq_zero hline₁ hcode₁ hexit
  obtain rfl := FileSystem.read_of_replace hreplace hwritten
  obtain ⟨errors, houtcome⟩ := outcome_of_compare hline₂ hcode₂ hload hheld hsnapshot hnew
  have hchanged (hperm : ¬ new.Perm old) : (run s₂ line₂).outcome.Shows 1 (Command.lines
      ((Report.lines ⟨old.diff new, new.diff old⟩).map Terminal.report)) := by
    have hchanges : (Difference.between old new).hasChanges = true := by
      rw [← Bool.not_eq_false, Difference.hasChanges_eq_false_iff]
      exact hperm
    rw [houtcome, hchanges, Difference.between_eq]
    exact ⟨rfl, rfl, rfl⟩
  refine ⟨old, hold, fun hperm => ?_, hchanged, fun hperm hpath => ?_⟩
  · have hchanges := (Difference.hasChanges_eq_false_iff old new).2 hperm
    rw [houtcome, hchanges, Report.shown_of_unchanged hchanges]
    exact ⟨rfl, rfl, rfl⟩
  · have hmem : ∀ r ∈ old.diff new ++ new.diff old, r ∈ old ++ new := by
      intro r hr
      rcases List.mem_append.1 hr with hr | hr
      · exact List.mem_append_left _ (List.diff_subset _ _ hr)
      · exact List.mem_append_right _ (List.diff_subset _ _ hr)
    have hshown := Report.shown_eq_self (d := ⟨old.diff new, new.diff old⟩)
      fun r hr => hpath r (hmem r hr)
    rw [← hshown]
    exact hchanged hperm

/-! ### A file that gets another name -/

/-- A source with one annotation. -/
def sampleSource : Bytes := Utf8.encodeString "// control A-1\nf();\n"

/-- Its tree. -/
def sampleTree : Tree Int :=
  .node "program" true ⟨0, 20, (0, 0), (2, 0)⟩
    [.node "comment" true ⟨0, 14, (0, 0), (0, 14)⟩ [],
     .node "expression_statement" true ⟨15, 19, (1, 0), (1, 4)⟩ []]

/-- The region that is marked in it. -/
def sampleRegion (name : String) : Region :=
  ⟨"p/" ++ name, "// control A-1", "f();", ⟨1, 0⟩, ⟨1, 4⟩⟩

/-- A directory with the source under a name. -/
def sampleDirectory (name : String) : Entry := .directory [(name, .file sampleSource)]

/-- Where nothing else is. -/
def sample : Surroundings where
  environment := { vars := [], accounts := { own := "/root" } }
  files := ⟨.directory [("p", sampleDirectory "a.js")], []⟩
  grammars := ⟨[], [(.javascript, sampleSource, sampleTree)]⟩

/-- Records what the directory holds. -/
def sampleRecord : List String := ["code", "p", "--lang", "js", "--ext", "js", "-o", "o"]

/-- Compares it with the record. -/
def sampleCompare : List String := sampleRecord ++ ["--diff"]

/-- The snapshot that is left. -/
def sampleSnapshot : Bytes := ((Snapshot.dump [sampleRegion "a.js"] 6).toOption).getD []

/-- The surroundings later on, with the source under another name. -/
def sampleRenamed (name : String) : Surroundings :=
  { sample with
    files := ⟨.directory [("p", sampleDirectory name), ("o", .file sampleSnapshot)], []⟩ }

deriving instance DecidableEq for Invocation

theorem parse_sampleRecord :
    Invocation.parse sampleRecord = .ok ⟨none, none, .code, sampleRecord.tail⟩ := rfl

theorem parse_sampleCompare :
    Invocation.parse sampleCompare = .ok ⟨none, none, .code, sampleCompare.tail⟩ := rfl

theorem command_sampleRecord : Group.parse .code sampleRecord.tail
    = .ok (.code "p" "js" ["js"] (some "o") false) := rfl

theorem command_sampleCompare : Group.parse .code sampleCompare.tail
    = .ok (.code "p" "js" ["js"] (some "o") true) := rfl

/-- The run that records, evaluated once. -/
theorem run_sampleRecord :
    (Command.scan sample "p" "js" ["js"]).result.toOption = some [sampleRegion "a.js"] ∧
    (run sample sampleRecord).outcome.exitCode = 0 ∧
    ((run sample sampleRecord).files.read (Path.ofString "o")).toOption = some sampleSnapshot := by
  decide +kernel

theorem scan_sample : (Command.scan sample "p" "js" ["js"]).result = .ok [sampleRegion "a.js"] :=
  eq_ok_of_toOption run_sampleRecord.1

theorem exitCode_sampleRecord : (run sample sampleRecord).outcome.exitCode = 0 :=
  run_sampleRecord.2.1

theorem read_sampleRecord :
    (run sample sampleRecord).files.read (Path.ofString "o") = .ok sampleSnapshot :=
  eq_ok_of_toOption run_sampleRecord.2.2

theorem drift_detected_after_renaming : (run (sampleRenamed "b.js") sampleCompare).outcome.Shows 1
    "Changes Detected!\n\t- p/a.js;2:2\n\t+ p/b.js;2:2\n" := by
  have hheld : (sampleRenamed "b.js").files.read (Path.ofString "o") = .ok sampleSnapshot := rfl
  obtain ⟨settings, hload⟩ : ∃ settings, Configuration.load (sampleRenamed "b.js").environment
      (sampleRenamed "b.js").files [] = .ok settings := ⟨_, rfl⟩
  have hnew : (Command.scan (sampleRenamed "b.js") "p" "js" ["js"]).result
      = .ok [sampleRegion "b.js"] := eq_ok_of_toOption (by decide +kernel)
  obtain ⟨old, hold, -, -, hshows⟩ := drift_detected_exactly parse_sampleRecord
    command_sampleRecord exitCode_sampleRecord read_sampleRecord hheld parse_sampleCompare
    command_sampleCompare hload hnew
  obtain rfl := Except.ok.inj (scan_sample.symm.trans hold)
  exact hshows (by decide) (by decide)

/-- Not every path is shown as it is: one that sets a colour **loses it**. -/
theorem colour_lost : ¬ ∀ {s₁ s₂ : Surroundings} {line₁ line₂ : List String} {i₁ i₂ : Invocation}
    {directory₁ language₁ directory₂ language₂ name : String}
    {extensions₁ extensions₂ : List String} {snapshot : Bytes} {settings : Settings}
    {new : List Region},
    Invocation.parse line₁ = .ok i₁ →
    i₁.group.parse i₁.rest = .ok (.code directory₁ language₁ extensions₁ (some name) false) →
    (run s₁ line₁).outcome.exitCode = 0 →
    (run s₁ line₁).files.read (Path.ofString name) = .ok snapshot →
    s₂.files.read (Path.ofString name) = .ok snapshot →
    Invocation.parse line₂ = .ok i₂ →
    i₂.group.parse i₂.rest = .ok (.code directory₂ language₂ extensions₂ (some name) true) →
    Configuration.load s₂.environment s₂.files (Run.overrides i₂) = .ok settings →
    (Command.scan s₂ directory₂ language₂ extensions₂).result = .ok new →
    ∃ old, (Command.scan s₁ directory₁ language₁ extensions₁).result = .ok old ∧
      (new.Perm old → (run s₂ line₂).outcome.Shows 0 "No changes detected.\n") ∧
      (¬ new.Perm old → (run s₂ line₂).outcome.Shows 1
        (Command.lines (Report.lines ⟨old.diff new, new.diff old⟩))) := by
  intro hclaim
  have hheld : (sampleRenamed "\x1b[31mb.js").files.read (Path.ofString "o") = .ok sampleSnapshot :=
    rfl
  obtain ⟨settings, hload⟩ : ∃ settings,
      Configuration.load (sampleRenamed "\x1b[31mb.js").environment
        (sampleRenamed "\x1b[31mb.js").files [] = .ok settings := ⟨_, rfl⟩
  have hnew : (Command.scan (sampleRenamed "\x1b[31mb.js") "p" "js" ["js"]).result
      = .ok [sampleRegion "\x1b[31mb.js"] := eq_ok_of_toOption (by decide +kernel)
  obtain ⟨old, hold, -, hshows⟩ := hclaim parse_sampleRecord command_sampleRecord
    exitCode_sampleRecord read_sampleRecord hheld parse_sampleCompare command_sampleCompare hload
    hnew
  obtain rfl := Except.ok.inj (scan_sample.symm.trans hold)
  have houtput : (run (sampleRenamed "\x1b[31mb.js") sampleCompare).outcome.output
      = "Changes Detected!\n\t- p/a.js;2:2\n\t+ p/b.js;2:2\n" := by decide +kernel
  have hclaimed := (hshows (by decide)).output
  rw [houtput] at hclaimed
  exact absurd hclaimed (by decide +kernel)

end Drift
