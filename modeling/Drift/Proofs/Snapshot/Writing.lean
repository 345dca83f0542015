import Drift.Proofs.FileSystem.Refusal
import Drift.Proofs.Snapshot.File
import Drift.Proofs.Snapshot.RoundTrip

/-!
# Snapshot files are written as a whole or not at all

* `Snapshot.Written` — how a file system with a newly written snapshot file differs from the one
  before; `Snapshot.written_of_write` — so it does when the snapshot has been written.
* `Snapshot.Refusal` — why no snapshot file is written; `Snapshot.refusal_of_write` — there is no
  other reason.
* `Snapshot.dump_error` — there is no snapshot of coordinates that are too large, nor at what is no
  level.
* **`Snapshot.write_all_or_nothing`** — one or the other, for every file system, path, list of
  regions and level.
-/

namespace Drift.Snapshot

open FileSystem (Barred Rewritten)
open MessagePack (lengthBound)

variable {fs fs' : FileSystem} {p : Path} {regions : List Region} {level : Int}

/-! ## Written -/

/-- A **newly written snapshot file**, at the end of some names: nothing else differs, and it is read
back by its path, unless that led through a link in whose place the file now stands. -/
structure Written (fs : FileSystem) (p : Path) (regions : List Region) (snapshot : Bytes)
    (names : List String) (fs' : FileSystem) : Prop where
  rewritten : Rewritten names fs fs'
  file : fs'.tree.get? names = some (.file snapshot)
  readBack : fs.Reaches p names → fs'.read p = .ok snapshot ∧
    read fs' p = ⟨[.snapshotRead p.text regions.length], .ok regions⟩
  lost : ¬ fs.Reaches p names → (∃ target, fs.tree.get? names = some (.link target)) ∧
    ∃ reason, read fs' p = .fail (.issue (.snapshotUnreadable p.text reason))

theorem written_of_put {place : Place} {snapshot : Bytes} (hparts : p.parts ≠ [])
    (hplace : fs.locate .entry p = .ok place)
    (hdir : ∀ names entries, place ≠ .taken names (.directory entries))
    (hload : load snapshot = .ok regions) :
    Written fs p regions snapshot place.names (fs.put place.names (.file snapshot)) where
  rewritten := FileSystem.rewritten_put (FileSystem.in_of_locate hplace) hdir snapshot
  file := (FileSystem.in_of_locate hplace).get?_put _
  readBack hreaches := by
    have hne := FileSystem.names_ne_nil hparts hplace hdir
    have hread := FileSystem.read_put_of_reaches hne hplace hreaches snapshot
    exact ⟨hread, read_eq hread hload⟩
  lost hreaches := by
    refine ⟨?_, ?_⟩
    · by_contra hlink
      refine hreaches (FileSystem.reaches_of_not_link hparts hplace hdir ?_)
      rintro names target rfl
      cases FileSystem.in_of_locate hplace with
      | taken h => exact hlink ⟨target, h⟩
    · obtain ⟨e, hread⟩ :=
        FileSystem.read_put_of_not_reaches hparts hplace hdir hreaches snapshot
      exact ⟨e.text, by unfold read; simp only [hread]; rfl⟩

/-- What has been written is the snapshot of the regions, in its whole length. -/
theorem written_of_write {count : Nat} (h : (write fs p regions level).2.result = .ok count) :
    ∃ snapshot place, dump regions level = .ok snapshot ∧ count = snapshot.length ∧
      fs.locate .entry p = .ok place ∧
      Written fs p regions snapshot place.names (write fs p regions level).1 := by
  obtain ⟨snapshot, hdump, hreplace⟩ := replace_of_write h
  have hresult : (fs.replace p snapshot).2 = .ok () := congrArg Prod.snd hreplace
  obtain ⟨place, hplace, hdir, hfiles⟩ := FileSystem.replace_ok hresult
  have hload := load_of_dumpAt hdump []
  rw [List.append_nil] at hload
  have hcount : count = snapshot.length := by
    unfold write writeAt Snapshot.place at h
    rw [show dumpAt regions (Zlib.Level.ofInt level) = .ok snapshot from hdump] at h
    simp only [hreplace] at h
    exact (Except.ok.inj h).symm
  have hwritten := written_of_put (FileSystem.parts_of_replace hresult) hplace hdir hload
  rw [← hfiles, hreplace] at hwritten
  exact ⟨snapshot, place, hdump, hcount, hplace, hwritten⟩

/-! ## Refused -/

/-- Why **no snapshot file is written**: there is no snapshot, the system refuses, or the path holds
a NUL. -/
inductive Refusal (p : Path) (regions : List Region) (level : Int) : Failure → Prop where
  | unencodable {fault : Drift.Fault} (h : dump regions level = .error fault) :
      Refusal p regions level (.fault fault)
  | unwritable {snapshot : Bytes} {reason : String} (h : dump regions level = .ok snapshot) :
      Refusal p regions level (.issue (.snapshotUnwritable p.text reason))
  | nul {snapshot : Bytes} (h : dump regions level = .ok snapshot)
      (hnul : '\x00' ∈ p.text.toList) : Refusal p regions level (.fault .nulInPath)

theorem refusal_of_write (hhere : ∀ name ∈ fs.here, '\x00' ∉ name.toList) {failure : Failure}
    (h : (write fs p regions level).2.result = .error failure) :
    Refusal p regions level failure := by
  unfold write writeAt place at h
  split at h
  · next hdump =>
    cases h
    exact .unencodable hdump
  · next snapshot hdump =>
    split at h
    · next hreplace =>
      cases h
      cases FileSystem.ofPath_of_replace hhere (congrArg Prod.snd hreplace) with
      | nul hnul => exact .nul hdump hnul
      | system => exact .unwritable hdump
    · cases h

theorem write_of_barred (h : fs.Barred p) :
    ∃ failure, (write fs p regions level).2.result = .error failure := by
  cases hresult : (write fs p regions level).2.result with
  | error failure => exact ⟨failure, rfl⟩
  | ok =>
    obtain ⟨snapshot, -, hreplace⟩ := replace_of_write hresult
    exact absurd (congrArg Prod.snd hreplace) (h.replace_ne_ok snapshot)

/-- There is **no snapshot** of coordinates that are too large, nor at what is no level. -/
theorem dump_error (hcount : regions.length < lengthBound) (hshort : ∀ r ∈ regions, r.Short)
    (h : ¬ (∀ r ∈ regions, r.Storable) ∨ ¬ (-1 ≤ level ∧ level ≤ 9)) :
    ∃ fault, dump regions level = .error fault ∧
      (fault.label = "OverflowError" ∨ fault.label = "error") := by
  by_cases hstorable : ∀ r ∈ regions, r.Storable
  · have hlevel := h.resolve_left (not_not.2 hstorable)
    obtain ⟨payload, hpayload⟩ := encode_eq_ok hcount hshort hstorable
    unfold dump Zlib.Level.ofInt
    rw [dif_neg hlevel]
    split
    · exact ⟨_, dumpAt_eq_level_error hpayload, .inl rfl⟩
    · exact ⟨_, dumpAt_eq_level_error hpayload, .inr rfl⟩
  · exact ⟨_, dumpAt_eq_error (encode_eq_error hcount hshort hstorable) _, .inl rfl⟩

theorem write_of_dump_error {fault : Drift.Fault} (h : dump regions level = .error fault) :
    (write fs p regions level).2.result = .error (.fault fault) := by
  unfold write writeAt Snapshot.place
  rw [show dumpAt regions (Zlib.Level.ofInt level) = .error fault from h]
  rfl

/-- **All or nothing**: either the file holds the snapshot, is read back as the regions and is all
that differs, or nothing has changed. Where no file can be replaced the system refuses, and regions
that have no snapshot are refused before anything is done. -/
theorem write_all_or_nothing (hhere : ∀ name ∈ fs.here, '\x00' ∉ name.toList) (p : Path)
    (regions : List Region) (level : Int) :
    ((∃ snapshot place, dump regions level = .ok snapshot ∧
        (write fs p regions level).2.result = .ok snapshot.length ∧
        fs.locate .entry p = .ok place ∧
        Written fs p regions snapshot place.names (write fs p regions level).1) ∨
      ∃ failure, (write fs p regions level).2.result = .error failure ∧
        Refusal p regions level failure ∧ (write fs p regions level).1 = fs) ∧
    (∀ snapshot, dump regions level = .ok snapshot → '\x00' ∉ p.text.toList → fs.Barred p →
      ∃ reason, (write fs p regions level).2.result
        = .error (.issue (.snapshotUnwritable p.text reason))) ∧
    (regions.length < lengthBound → (∀ r ∈ regions, r.Short) →
      (¬ (∀ r ∈ regions, r.Storable) ∨ ¬ (-1 ≤ level ∧ level ≤ 9)) →
      ∃ fault, (write fs p regions level).2.result = .error (.fault fault) ∧
        (fault.label = "OverflowError" ∨ fault.label = "error")) := by
  refine ⟨?_, fun snapshot hdump hnul hbarred => ?_, fun hcount hshort h => ?_⟩
  · cases hresult : (write fs p regions level).2.result with
    | ok count =>
      obtain ⟨snapshot, place, hdump, rfl, hplace, hwritten⟩ := written_of_write hresult
      exact .inl ⟨snapshot, place, hdump, rfl, hplace, hwritten⟩
    | error failure =>
      exact .inr ⟨failure, rfl, refusal_of_write hhere hresult, files_of_write_error hresult⟩
  · obtain ⟨failure, hfailure⟩ := write_of_barred hbarred
    cases refusal_of_write hhere hfailure with
    | unencodable h => cases h.symm.trans hdump
    | unwritable => exact ⟨_, hfailure⟩
    | nul _ h => exact absurd h hnul
  · obtain ⟨fault, hdump, hlabel⟩ := dump_error hcount hshort h
    exact ⟨fault, write_of_dump_error hdump, hlabel⟩

/-! ### A link in its own way -/

/-- A directory and a link to it. -/
def sampleLink : FileSystem := ⟨.directory [("d", .directory []), ("l", .link "d")], []⟩

/-- A region. -/
def sampleMark : Region := ⟨"src/a.js", "// control A-1", "f();", ⟨1, 0⟩, ⟨1, 4⟩⟩

/-- In the place of the link a snapshot is written and read back. -/
theorem write_all_or_nothing_sampleLink : ∃ snapshot,
    (write sampleLink (Path.ofString "l") [sampleMark] 6).2.result = .ok snapshot.length ∧
    Written sampleLink (Path.ofString "l") [sampleMark] snapshot ["l"]
      (write sampleLink (Path.ofString "l") [sampleMark] 6).1 := by
  have hhere : ∀ name ∈ sampleLink.here, '\x00' ∉ name.toList := by decide
  have hok : (write sampleLink (Path.ofString "l") [sampleMark] 6).2.result.isOk = true := rfl
  have hlocate : sampleLink.locate .entry (Path.ofString "l") = .ok (.taken ["l"] (.link "d")) := rfl
  obtain ⟨⟨snapshot, place, -, hresult, hplace, hwritten⟩ | ⟨_, hfailed, -⟩, -⟩ :=
    write_all_or_nothing hhere (Path.ofString "l") [sampleMark] 6
  · cases hlocate.symm.trans hplace
    exact ⟨snapshot, hresult, hwritten⟩
  · rw [hfailed] at hok
    cases hok

/-- What comes of writing a region in which a row is the value true. -/
def sampleTruth : FileSystem × Logged Nat :=
  place sampleLink (Path.ofString "s") 1
    (ofPayload (Draft.encode [trueRow]) (Zlib.Level.ofInt 6))

/-- A snapshot that is written by a way through the link in whose place it stands is **not read
back**, nor is one in which a row is the value true; and a link to a directory is replaced, though
the path is that of a directory. -/
theorem link_replaced :
    (¬ ∀ (fs : FileSystem) (p : Path) (regions : List Region) (level : Int) (count : Nat),
      (write fs p regions level).2.result = .ok count →
      (read (write fs p regions level).1 p).result = .ok regions) ∧
    (¬ ∀ (fs : FileSystem) (p : Path) (regions : List Region) (level : Int),
      fs.isDirectory p = .ok true →
      ∃ failure, (write fs p regions level).2.result = .error failure) ∧
    (∃ count, sampleTruth.2.result = .ok count) ∧
    (read sampleTruth.1 (Path.ofString "s")).result.toOption = none := by
  refine ⟨fun hclaim => ?_, fun hclaim => ?_, ⟨_, rfl⟩, by decide +kernel⟩
  · obtain ⟨count, hcount⟩ : ∃ count,
        (write sampleLink (Path.ofString "l/../l") [sampleMark] 6).2.result = .ok count := ⟨_, rfl⟩
    have hread := congrArg Except.toOption (hclaim _ _ _ _ _ hcount)
    exact absurd hread (by decide +kernel)
  · obtain ⟨failure, hfailure⟩ := hclaim sampleLink (Path.ofString "l") [sampleMark] 6 rfl
    have hok : (write sampleLink (Path.ofString "l") [sampleMark] 6).2.result.isOk = true := rfl
    rw [hfailure] at hok
    cases hok

end Drift.Snapshot
