import Drift.Draft
import Drift.Proofs.Snapshot.Loading

/-!
# Snapshots are read back

* `dumpAt_eq_ok` — regions that can be written have a snapshot at every level.
* `dumpAt_eq_error` — regions that cannot be written fail before the level is judged.
* **`dump_round_trip_at_every_level`** — at which levels there is a snapshot, and that it gives the
  same regions back.
-/

namespace Drift.Snapshot

open MessagePack (lengthBound maxNumber text_eq_error)
open Zlib (Stream)

variable {regions : List Region} {payload : Bytes}

theorem dumpAt_eq_ok {level : Zlib.Level} (h : encode regions = .ok payload) :
    dumpAt regions (.ok level) = .ok (Zlib.compress level payload) := by
  rw [dumpAt, h]
  rfl

theorem dumpAt_eq_level_error {fault : Zlib.Level.Fault} (h : encode regions = .ok payload) :
    dumpAt regions (.error fault) = .error (.level fault) := by
  rw [dumpAt, h]
  rfl

/-- What cannot be written is found out **before the level is judged**. -/
theorem dumpAt_eq_error {fault : MessagePack.WriteFault} (h : encode regions = .error fault)
    (level : Level) : dumpAt regions level = .error (.write fault) := by
  rw [dumpAt, h]
  rfl

/-- Fewer than `2 ^ 32` regions with short texts, of whatever size in all. When their coordinates
fit, there is a snapshot at **every level** from `-1` to `9`, which gives the same regions back, and
every other level of 32 bits is refused; else it is the coordinates that are refused, whatever the
level. Another compressor makes no difference: any stream of the payload gives the regions back. -/
theorem dump_round_trip_at_every_level (hcount : regions.length < lengthBound)
    (hshort : ∀ r ∈ regions, r.Short) :
    ((∀ r ∈ regions, r.Storable) →
      (∀ level : Int, -1 ≤ level ∧ level ≤ 9 →
        ∃ snapshot, dump regions level = .ok snapshot ∧ load snapshot = .ok regions) ∧
      ∀ level : Int, -Zlib.Level.range ≤ level ∧ level < Zlib.Level.range →
        ¬ (-1 ≤ level ∧ level ≤ 9) →
        ∃ fault, dump regions level = .error fault ∧ fault.label = "error" ∧
          fault.message = "Bad compression level") ∧
    ((¬ ∀ r ∈ regions, r.Storable) → ∀ level : Level,
      ∃ fault, dumpAt regions level = .error fault ∧ fault.label = "OverflowError") ∧
    ∀ payload stream, encode regions = .ok payload → Stream stream payload →
      load stream = .ok regions := by
  refine ⟨fun hstorable => ?_, fun hstorable level => ?_, fun payload stream h hstream => ?_⟩
  · obtain ⟨payload, h⟩ := encode_eq_ok hcount hshort hstorable
    refine ⟨fun level hlevel => ?_, fun level hrange hlevel => ?_⟩
    · have hofInt : Zlib.Level.ofInt level = .ok ⟨level, hlevel.1, hlevel.2⟩ := dif_pos hlevel
      have hcarries := Zlib.carries_compress ⟨level, hlevel.1, hlevel.2⟩ payload
      exact ⟨_, by rw [dump, hofInt, dumpAt_eq_ok h], load_of_encode h hcarries⟩
    · have hofInt : Zlib.Level.ofInt level = .error .unknown := by
        rw [Zlib.Level.ofInt, dif_neg hlevel, if_neg (by omega)]
      exact ⟨_, by rw [dump, hofInt, dumpAt_eq_level_error h], rfl, rfl⟩
  · exact ⟨_, dumpAt_eq_error (encode_eq_error hcount hshort hstorable) level, rfl⟩
  · exact load_of_encode h ⟨stream, [], (List.append_nil stream).symm, hstream⟩

/-- The greatest column is in a snapshot and level 10 is refused; so is the column after it. -/
theorem dump_greatest_column :
    (∃ snapshot, dump [⟨"p", "# c", "x", ⟨0, 0⟩, ⟨0, maxNumber⟩⟩] 9 = .ok snapshot ∧
      load snapshot = .ok [⟨"p", "# c", "x", ⟨0, 0⟩, ⟨0, maxNumber⟩⟩]) ∧
    (∃ fault, dump [⟨"p", "# c", "x", ⟨0, 0⟩, ⟨0, maxNumber⟩⟩] 10 = .error fault ∧
      fault.message = "Bad compression level") ∧
    ∃ fault, dump [⟨"p", "# c", "x", ⟨0, 0⟩, ⟨0, maxNumber + 1⟩⟩] 10 = .error fault ∧
      fault.label = "OverflowError" := by
  have hshort (n : Nat) : ∀ r ∈ [Region.mk "p" "# c" "x" ⟨0, 0⟩ ⟨0, n⟩], r.Short := by
    intro r hr
    obtain rfl := List.mem_singleton.1 hr
    change ∀ s ∈ ["p", "# c", "x"], _
    decide
  have hcount (n : Nat) : [Region.mk "p" "# c" "x" ⟨0, 0⟩ ⟨0, n⟩].length < lengthBound :=
    (by decide : 1 < lengthBound)
  obtain ⟨hfits, -, -⟩ := dump_round_trip_at_every_level (hcount maxNumber) (hshort maxNumber)
  obtain ⟨hok, hlevel⟩ := hfits (by simp [Region.Storable, maxNumber])
  obtain ⟨-, hlarge, -⟩ :=
    dump_round_trip_at_every_level (hcount (maxNumber + 1)) (hshort (maxNumber + 1))
  obtain ⟨fault, hdump, -, hmessage⟩ := hlevel 10 (by decide) (by decide)
  exact ⟨hok 9 (by decide), ⟨fault, hdump, hmessage⟩,
    hlarge (by simp [Region.Storable, maxNumber]) (Zlib.Level.ofInt 10)⟩

/-! ## What is not read back -/

theorem encode_eq_text_error {r : Region} (h : ¬ (Utf8.encodeString r.path).length < lengthBound) :
    encode [r] = .error (.tooLong .text) := by
  have hregion : encodeRegion r = .error (.tooLong .text) := by
    simp only [encodeRegion, text_eq_error h]
    rfl
  simp only [encode, encodeOnto, hregion]
  rfl

/-- A region of which a row is the value true, which counts as one. -/
def trueRow : Draft where
  path := .text "src/a.js"
  comment := .text "// control A-1"
  content := .text "f();"
  start := ⟨.bool true, .int 0⟩
  stop := ⟨.int 1, .int 4⟩

/-- A row that is the value true **is written but refused when it is read**, and a path of `2 ^ 32`
bytes is not written at all. -/
theorem dump_true_row :
    (∃ snapshot, ofPayload (Draft.encode [trueRow]) (Zlib.Level.ofInt 6) = .ok snapshot ∧
      Reports snapshot .malformed) ∧
    dump [⟨String.ofList (List.replicate (1 <<< 32) 'a'), "# c", "x", ⟨0, 0⟩, ⟨0, 1⟩⟩] 6
      = .error (.write (.tooLong .text)) := by
  refine ⟨⟨_, rfl, by decide +kernel⟩, dumpAt_eq_error (encode_eq_text_error ?_) _⟩
  have hlength (n : Nat) :
      (Utf8.encodeString (String.ofList (List.replicate n 'a'))).length = n := by
    rw [Utf8.encodeString, String.toList_ofList, Utf8.encode_eq_flatMap]
    induction n with
    | zero => rfl
    | succ n ih =>
      rw [List.replicate_succ, List.flatMap_cons, List.length_append, ih]
      exact Nat.add_comm 1 n
  rw [hlength]
  decide

end Drift.Snapshot
