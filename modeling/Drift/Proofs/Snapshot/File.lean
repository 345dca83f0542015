import Drift.Proofs.FileSystem.Changes
import Drift.Proofs.Snapshot.Loading
import Drift.Snapshot.File

/-!
# Snapshot files that are written and read back

* `load_of_dumpAt` — a snapshot gives its regions back, at every level.
* `replace_of_write` — writing a snapshot file replaces it by a snapshot of the regions;
  `files_of_write_error`, `rewritten_of_write` — and changes nothing else, or nothing at all.
* `read_eq` — what is read from a file that holds a snapshot.
-/

namespace Drift.Snapshot

/-- A snapshot **gives its regions back**, whatever stands behind it. -/
theorem load_of_dumpAt {regions : List Region} {level : Level} {snapshot : Bytes}
    (h : dumpAt regions level = .ok snapshot) (rest : Bytes) :
    load (snapshot ++ rest) = .ok regions := by
  unfold dumpAt ofPayload at h
  split at h
  · cases h
  · next payload hpayload =>
    split at h
    · cases h
    · cases h
      exact load_of_encode hpayload ((Zlib.carries_compress _ payload).append rest)

theorem encode_of_dumpAt {regions : List Region} {level : Level} {snapshot : Bytes}
    (h : dumpAt regions level = .ok snapshot) : ∃ payload, encode regions = .ok payload := by
  unfold dumpAt ofPayload at h
  split at h
  · cases h
  · next payload hpayload => exact ⟨payload, hpayload⟩

variable {fs : FileSystem} {p : Path} {regions : List Region} {level : Int} {count : Nat}

/-- Writing a snapshot file **replaces** it by a snapshot of the regions. -/
theorem replace_of_write (h : (write fs p regions level).2.result = .ok count) :
    ∃ snapshot, dump regions level = .ok snapshot ∧
      fs.replace p snapshot = ((write fs p regions level).1, .ok ()) := by
  unfold write writeAt place at h ⊢
  cases hdump : dumpAt regions (Zlib.Level.ofInt level) with
  | error => rw [hdump] at h; cases h
  | ok snapshot =>
    refine ⟨snapshot, hdump, ?_⟩
    rw [hdump] at h
    simp only at h ⊢
    split at h
    · cases h
    · next hfs => rw [hfs]

/-- A snapshot that is not written **changes nothing**. -/
theorem files_of_write_error {failure : Failure}
    (h : (write fs p regions level).2.result = .error failure) :
    (write fs p regions level).1 = fs := by
  unfold write writeAt place at h ⊢
  split at h
  · rfl
  · split at h
    · next heq =>
      have hfiles := FileSystem.replace_error (congrArg Prod.snd heq)
      rwa [heq] at hfiles
    · cases h

theorem rewritten_of_write (h : (write fs p regions level).2.result = .ok count) :
    ∃ place, fs.locate .entry p = .ok place ∧
      FileSystem.Rewritten place.names fs (write fs p regions level).1 := by
  obtain ⟨snapshot, -, hreplace⟩ := replace_of_write h
  have hrewritten := FileSystem.rewritten_of_replace (congrArg Prod.snd hreplace)
  rwa [hreplace] at hrewritten

theorem read_eq {snapshot : Bytes} (hfile : fs.read p = .ok snapshot)
    (hload : load snapshot = .ok regions) :
    read fs p = ⟨[.snapshotRead p.text regions.length], .ok regions⟩ := by
  unfold read
  simp only [hfile, hload]

end Drift.Snapshot
