import Drift.Proofs.Result
import Drift.Proofs.Snapshot.Loading

/-!
# Snapshots and payloads that are cut

* `Stream.not_carries_take` — no part of a stream carries a payload.
* **`load_of_cut`** — a snapshot has an end: what is cut before it is refused as not compressed, and
  what stands behind it changes nothing.
* **`decode_of_cut`** — no payload is the beginning of another one, and what is cut or prolonged is
  refused as malformed.
-/

namespace Drift

namespace Zlib

/-- No **part of a stream** carries a payload. -/
theorem Stream.not_carries_take {stream payload : Bytes} (h : Stream stream payload) {k : Nat}
    (hk : k < stream.length) (found : Bytes) : ¬ Carries (stream.take k) found := by
  rintro ⟨part, rest, hpart, hstream⟩
  have heq : stream ++ [] = part ++ (rest ++ stream.drop k) := by
    rw [← List.append_assoc, ← hpart, List.take_append_drop, List.append_nil]
  obtain ⟨rfl, -⟩ := h.unique hstream heq
  have hlength := congrArg List.length hpart
  rw [List.length_take_of_le (Nat.le_of_lt hk), List.length_append] at hlength
  omega

end Zlib

namespace Snapshot

open MessagePack (Form unpack_eq_extraData exists_unpack_eq_error)
open Zlib (Stream Carries)

/-! ## Streams -/

/-- A snapshot that gives regions has an **end**. Cut anywhere before it, it carries no payload; and
whatever begins with the bytes up to the end gives the same regions. -/
theorem load_of_cut {d : Bytes} {regions : List Region} (h : load d = .ok regions) :
    ∃ n ≤ d.length, (∃ payload, Stream (d.take n) payload) ∧
      (∀ k < n, Reports (d.take k) .notCompressed) ∧
      ∀ d', d.take n <+: d' → load d' = .ok regions := by
  obtain ⟨payload, version, ⟨stream, rest, rfl, hstream⟩, hone, hlog⟩ := load_eq_ok_iff.1 h
  refine ⟨stream.length, ?_, ⟨payload, ?_⟩, fun k hk => ?_, ?_⟩
  · rw [List.length_append]
    exact Nat.le_add_right _ _
  · rwa [List.take_left]
  · rw [reports_notCompressed_iff, List.take_append_of_le_length (Nat.le_of_lt hk)]
    rintro ⟨found, hfound⟩
    exact hstream.not_carries_take hk found hfound
  · rintro _ ⟨more, rfl⟩
    rw [List.take_left]
    exact load_eq_ok_iff.2 ⟨payload, version, ⟨stream, more, rfl, hstream⟩, hone, hlog⟩

/-- Two regions of two files. -/
def shortRegions : List Region :=
  [⟨"a.js", "// control A-1", "f();", ⟨1, 0⟩, ⟨1, 4⟩⟩,
   ⟨"b.js", "// control A-1", "f();", ⟨1, 0⟩, ⟨1, 4⟩⟩]

/-- A snapshot of them, in which the second one repeats most of the first, and a byte behind it. -/
def shortSnapshot : Bytes :=
  [120, 218, 155, 188, 58, 57, 63, 175, 164, 40, 63, 71, 55, 39, 63, 157, 113, 210, 212, 37, 137,
   122, 89, 197, 235, 244, 245, 21, 160, 194, 10, 142, 186, 134, 75, 210, 52, 52, 173, 39, 49, 50,
   76, 98, 100, 153, 186, 36, 9, 175, 60, 0, 153, 52, 26, 229, 10]

/-- A snapshot under a code, with a repetition in it, has an end. -/
theorem load_of_cut_shortSnapshot :
    ∃ n ≤ 57, (∃ payload, Stream (shortSnapshot.take n) payload) ∧
      (∀ k < n, Reports (shortSnapshot.take k) .notCompressed) ∧
      ∀ d', shortSnapshot.take n <+: d' → load d' = .ok shortRegions :=
  load_of_cut (eq_ok_of_toOption (by decide +kernel) : load shortSnapshot = .ok shortRegions)

/-! ## Payloads -/

/-- A payload that is **refused as malformed**. -/
def Malformed (payload : Bytes) : Prop :=
  ∃ fault, decode payload = .error fault ∧ fault.issue.kind = .malformed

theorem malformed_of_unpack {payload : Bytes} {fault : MessagePack.Fault}
    (h : MessagePack.unpack payload = .error fault) : Malformed payload :=
  ⟨.message fault, by rw [decode, h], rfl⟩

/-- No payload is **the beginning of another one**: what is cut anywhere, and what is prolonged by
anything, is refused as malformed. -/
theorem decode_of_cut {d : Bytes} {regions : List Region} (h : decode d = .ok regions) :
    (∀ part, part <+: d → part ≠ d → Malformed part) ∧ ∀ rest ≠ [], Malformed (d ++ rest) := by
  obtain ⟨version, hone, hspells⟩ := decode_eq_ok_iff.1 h
  have hlog := (form_log_iff hone).2 hspells
  constructor
  · rintro part ⟨rest, rfl⟩ hne
    have hrest : rest ≠ [] := by
      rintro rfl
      exact hne (List.append_nil part).symm
    obtain ⟨fault, hfault⟩ := exists_unpack_eq_error hlog hrest
    exact malformed_of_unpack hfault
  · exact fun rest hrest => malformed_of_unpack (unpack_eq_extraData hlog hrest)

/-- A payload with wider heads than it needs, and with the version as a float. -/
def widePayload : Bytes :=
  [0xDC, 0, 3, 0xD9, 11, 99, 111, 110, 116, 114, 111, 108, 45, 108, 111, 103,
   0xCA, 0x3F, 0x80, 0, 0, 0xDD, 0, 0, 0, 1,
   0x95, 0xDA, 0, 1, 112, 0xA3, 35, 32, 99, 0xA1, 120, 0x92, 0xD1, 0, 1, 0, 0x92, 1, 0xCF,
   0, 0, 0, 0, 0, 0, 0, 4]

/-- The empty payload and a longer one are refused, and so is one that ends inside a number. -/
theorem decode_of_cut_widePayload :
    decode widePayload = .ok [⟨"p", "# c", "x", ⟨1, 0⟩, ⟨1, 4⟩⟩] ∧ Malformed [] ∧
      Malformed (widePayload.take 50) ∧ Malformed (widePayload ++ [0]) := by
  have hwide : decode widePayload = .ok [⟨"p", "# c", "x", ⟨1, 0⟩, ⟨1, 4⟩⟩] :=
    eq_ok_of_toOption (by decide +kernel)
  obtain ⟨hcut, hlonger⟩ := decode_of_cut hwide
  exact ⟨hwide, hcut [] List.nil_prefix (by decide),
    hcut _ (List.take_prefix 50 widePayload) (by decide), hlonger [0] (by decide)⟩

end Snapshot

end Drift
