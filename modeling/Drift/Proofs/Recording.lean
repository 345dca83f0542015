import Drift.Proofs.Recorded
import Drift.Proofs.Rediscovery

/-!
# What a run that records leaves alone

* `FileSystem.Spared`, `FileSystem.spared_put` — a file that stands elsewhere holds what it held.
* `replaces_of_run` — a run that records regions fails and leaves the files alone, or puts a
  snapshot.
* **`recording_spares`** — a run that records regions spares every file that stands elsewhere, and a
  scan finds the same after it as before, unless the snapshot gets in its way.
-/

namespace Drift

/-! ## Files that stand elsewhere -/

namespace FileSystem

variable {fs fs' : FileSystem} {p q : Path} {place : Place} {bytes : Bytes}

/-- A file that is read by a path **is spared** by one at a place: it stands as it stood, unless that
is its own place, and it is read as before, unless its path comes by. -/
structure Spared (fs fs' : FileSystem) (place : List String) (q : Path) (bytes : Bytes) : Prop where
  stands : ∃ names e, fs.locate .content q = .ok (.taken names e) ∧
    (names ≠ place → fs'.tree.get? names = some e)
  read : ¬ fs.ComesBy q place → fs'.read q = .ok bytes

theorem taken_of_read (h : fs.read q = .ok bytes) :
    ∃ names e, fs.locate .content q = .ok (.taken names e) ∧ e.isDirectory = false := by
  unfold read at h
  split at h
  · cases h
  · next names content hlocate => exact ⟨names, .file content, hlocate, rfl⟩
  · next names hlocate => exact ⟨names, .sink, hlocate, rfl⟩
  · cases h
  · cases h
  · cases h

/-- **All files are spared** by one that is put where a path leads. -/
theorem spared_put (hparts : p.parts ≠ []) (h : fs.locate .entry p = .ok place)
    (hdir : ∀ names entries, place ≠ .taken names (.directory entries)) (content : Bytes)
    (hread : fs.read q = .ok bytes) :
    Spared fs (fs.put place.names (.file content)) place.names q bytes := by
  constructor
  · obtain ⟨names, e, hlocate, hleaf⟩ := taken_of_read hread
    refine ⟨names, e, hlocate, fun hne => ?_⟩
    have hget : fs.tree.get? names = some e := by
      cases in_of_locate hlocate with
      | taken h => exact h
    -- No directory stands where the file is put, so nothing stands below that place.
    have hbelow : ¬ place.names <+: names := by
      rintro ⟨more, rfl⟩
      have hmore : more ≠ [] := fun hnil => hne (by rw [hnil, List.append_nil])
      rw [Entry.get?_below ((in_of_locate h).not_directory hdir) hmore] at hget
      cases hget
    exact Entry.eq_some_of_rel (hget ▸ Entry.rel_get?_put fs.tree (.file content) hbelow) hleaf
  · intro hc
    have hagrees := locate_of_not_comesBy hparts h hdir content hc
    exact (found_of_agrees hagrees).2.2.trans hread

end FileSystem

/-! ## Runs -/

variable {s : Surroundings} {line : List String} {i : Invocation}

/-- A run that records regions fails and leaves the files alone, or **puts a snapshot** of the regions
where the path of the snapshot leads. -/
theorem replaces_of_run {directory language : String} {extensions : List String}
    {output : Option String} (hline : Invocation.parse line = .ok i)
    (hcode : i.group.parse i.rest = .ok (.code directory language extensions output false)) :
    (run s line).files = s.files ∧ (run s line).outcome.exitCode ≠ 0 ∨
      ∃ settings regions p place snapshot,
        Configuration.load s.environment s.files (Run.overrides i) = .ok settings ∧
        (Command.scan s directory language extensions).result = .ok regions ∧
        Command.Replaces s (Command.snapshotName settings output) regions p place snapshot
          (run s line).files := by
  cases hload : Configuration.load s.environment s.files (Run.overrides i) with
  | error failure =>
    refine .inl ⟨by unfold run; simp only [hline, hload], fun hexit => ?_⟩
    obtain ⟨settings, hsettings⟩ := load_of_exitCode_eq_zero hline hexit
    cases hload.symm.trans hsettings
  | ok settings =>
    have hrun := run_eq hline hcode hload
    rw [Command.run_code] at hrun
    rw [hrun]
    simp only
    rcases Command.replaces_of_record s settings (Command.snapshotName settings output) directory
      language extensions with ⟨hfiles, failure, hfailure⟩ | ⟨regions, p, place, snapshot, h⟩
    · refine .inl ⟨hfiles, fun hexit => ?_⟩
      obtain ⟨r, hr, -⟩ := Run.result_of_exitCode_eq_zero hexit
      cases hfailure.symm.trans hr
    · exact .inr ⟨settings, regions, p, place, snapshot, rfl, h⟩

/-- A run that records regions **spares what it records**. It fails and leaves the files alone, or puts
a snapshot of the regions where the path of the snapshot leads: then every file that could be read
stands as it stood, unless it stood right there, and is read as before, unless its path comes by that
place; and a scan with the same arguments gives the same as before, unless the snapshot gets in its
way. -/
theorem recording_spares {directory language : String} {extensions : List String}
    {output : Option String} (hline : Invocation.parse line = .ok i)
    (hcode : i.group.parse i.rest = .ok (.code directory language extensions output false)) :
    (run s line).files = s.files ∧ (run s line).outcome.exitCode ≠ 0 ∨
      ∃ settings regions p place snapshot,
        Configuration.load s.environment s.files (Run.overrides i) = .ok settings ∧
        (Command.scan s directory language extensions).result = .ok regions ∧
        Command.Replaces s (Command.snapshotName settings output) regions p place snapshot
          (run s line).files ∧
        (∀ q bytes, s.files.read q = .ok bytes →
          s.files.Spared (run s line).files place.names q bytes) ∧
        (¬ Discovery.Disturbs s.files (Path.ofString (Path.ofString directory).text)
            (Extensions.normalize extensions) place.names →
          ∀ r, Scan.regions (run s line).files s.grammars r (Path.ofString directory).text language
              extensions
            = Scan.regions s.files s.grammars r (Path.ofString directory).text language extensions)
    := by
  rcases replaces_of_run (s := s) hline hcode with
    h | ⟨settings, regions, p, place, snapshot, hload, hscan, h⟩
  · exact .inl h
  refine .inr ⟨settings, regions, p, place, snapshot, hload, hscan, h, fun q bytes hread => ?_,
    fun hc r => ?_⟩
  · rw [h.put]
    exact FileSystem.spared_put h.parts h.locate h.notDirectory snapshot hread
  · rw [h.put]
    exact Scan.regions_put h.parts h.locate h.notDirectory snapshot hc s.grammars r language

/-! ### A record in the directory that is scanned -/

/-- Records what the directory holds, under a name. -/
def sampleRecordTo (name : String) : List String :=
  ["code", "p", "--lang", "js", "--ext", "js", "-o", name]

theorem parse_sampleRecordTo (name : String) : Invocation.parse (sampleRecordTo name)
    = .ok ⟨none, none, .code, (sampleRecordTo name).tail⟩ := rfl

theorem locate_sampleRecordTo :
    sample.files.locate .entry (Path.ofString "p/o") = .ok (.free ["p"] "o") := rfl

theorem locate_sampleRecordTo_root : sample.files.locate .content (Path.ofString "p")
    = .ok (.taken ["p"] (sampleDirectory "a.js")) := rfl

theorem not_comesBy_sample {q : Path} (hparts : q.parts ≠ []) {found : Place}
    (hfound : (sample.files.put ["p", "o"] (.file [])).locate .content q = .ok found)
    (hne : found.names ≠ ["p", "o"]) : ¬ sample.files.ComesBy q ["p", "o"] :=
  FileSystem.not_comesBy_of_locate locate_sampleRecordTo nofun [] (fun _ => hparts) hfound hne

theorem not_disturbs_sample :
    ¬ Discovery.Disturbs sample.files (Path.ofString "p") (Extensions.normalize ["js"]) ["p", "o"]
    := by
  rintro (h | ⟨hroot, hvisits, hfound, -, h⟩ | ⟨hroot, hplace, -, -, hselects⟩)
  · exact not_comesBy_sample (by decide) rfl (by decide) h
  · cases locate_sampleRecordTo_root.symm.trans hroot
    -- The walk comes to the directory and to its only entry.
    cases hvisits with
    | here => cases hfound
    | inside _ hmem hvisits =>
      cases List.mem_singleton.1 hmem
      cases hvisits
      exact not_comesBy_sample (by decide) rfl (by decide) h
  · cases locate_sampleRecordTo_root.symm.trans hroot
    obtain rfl := List.append_cancel_left (show ["p"] ++ ["o"] = ["p"] ++ _ from hplace)
    revert hselects
    decide +kernel

/-- A record under a name without the extension gets in nobody's way. -/
theorem recording_spares_sample :
    (run sample (sampleRecordTo "p/o")).outcome.exitCode = 0 ∧
    (run sample (sampleRecordTo "p/o")).files.read (Path.ofString "p/a.js") = .ok sampleSource ∧
    Scan.regions (run sample (sampleRecordTo "p/o")).files sample.grammars .fresh "p" "js" ["js"]
      = Scan.regions sample.files sample.grammars .fresh "p" "js" ["js"] := by
  have hexit : (run sample (sampleRecordTo "p/o")).outcome.exitCode = 0 := by decide +kernel
  refine ⟨hexit, ?_⟩
  obtain ⟨-, h⟩ | ⟨settings, regions, p, place, snapshot, -, -, hreplaces, hspared, hsame⟩ :=
    recording_spares (s := sample) (parse_sampleRecordTo "p/o") rfl
  · exact absurd hexit h
  obtain rfl : Path.ofString "p/o" = p := Except.ok.inj hreplaces.file
  obtain rfl := Except.ok.inj (locate_sampleRecordTo.symm.trans hreplaces.locate)
  refine ⟨(hspared (Path.ofString "p/a.js") _ rfl).read ?_, hsame not_disturbs_sample .fresh⟩
  exact not_comesBy_sample (by decide) rfl (by decide)

/-- Not every name spares what is recorded: a record under the name of a source **takes its place**,
and a scan **does not succeed** any more. -/
theorem recorded_over_source :
    (¬ ∀ (s : Surroundings) (line : List String) (i : Invocation) (directory language : String)
      (extensions : List String) (output : Option String) (files : List Candidate),
      Invocation.parse line = .ok i →
      i.group.parse i.rest = .ok (.code directory language extensions output false) →
      Discovery.candidates s.files (Path.ofString (Path.ofString directory).text)
        (Extensions.normalize extensions) = .ok files →
      ∀ c ∈ files, ∀ bytes, s.files.read c.path = .ok bytes →
        (run s line).files.read c.path = .ok bytes) ∧
    ¬ ∀ (s : Surroundings) (line : List String) (i : Invocation) (directory language : String)
      (extensions : List String) (output : Option String),
      Invocation.parse line = .ok i →
      i.group.parse i.rest = .ok (.code directory language extensions output false) →
      Scan.regions (run s line).files s.grammars .fresh (Path.ofString directory).text language
          extensions
        = Scan.regions s.files s.grammars .fresh (Path.ofString directory).text language extensions
    := by
  constructor
  · intro hclaim
    have hkept := hclaim sample (sampleRecordTo "p/a.js") _ "p" "js" ["js"] (some "p/a.js")
      [⟨Path.ofString "p/a.js", true⟩] (parse_sampleRecordTo _) rfl
      (eq_ok_of_toOption (by decide +kernel)) _ (List.mem_singleton_self _) sampleSource rfl
    have hread : ((run sample (sampleRecordTo "p/a.js")).files.read
        (Path.ofString "p/a.js")).toOption ≠ some sampleSource := by decide +kernel
    exact hread (by rw [hkept]; rfl)
  · intro hclaim
    have hsame := hclaim sample (sampleRecordTo "p/a.js") _ "p" "js" ["js"] (some "p/a.js")
      (parse_sampleRecordTo _) rfl
    have hfound :
        (Scan.regions sample.files sample.grammars .fresh "p" "js" ["js"]).2.result.toOption
          = some [sampleRegion "a.js"] := by decide +kernel
    have hlost : (Scan.regions (run sample (sampleRecordTo "p/a.js")).files sample.grammars .fresh
        "p" "js" ["js"]).2.result.toOption = none := by decide +kernel
    have hresults := congrArg (fun scan => scan.2.result.toOption) hsame
    cases hlost.symm.trans (hresults.trans hfound)

end Drift
