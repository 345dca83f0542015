import Drift.Proofs.Snapshot.Decoding
import Drift.Proofs.Snapshot.Encoding
import Drift.Proofs.Zlib
import Drift.Snapshot

/-!
# What a snapshot must be

* `ofValue_eq_version_iff`, `decode_eq_version_iff` — which payloads are refused for their version.
* `load_eq_ok_iff` — which bytes give regions; `load_of_encode` — those that carry a payload that
  was written give the same ones.
* `Reports` — bytes that are refused with an issue of some kind; `reports_notCompressed_iff` and
  `reports_version_iff` say when, for two of the kinds.
* **`load_reports_every_corruption`** — all bytes give regions or are refused with an issue of one
  of three kinds, and which of them it is depends on what the bytes begin with.
-/

namespace Drift.Snapshot

open MessagePack (Value Form Spells maxDepth)
open Zlib (Carries decompress_eq_ok_iff)

/-! ## Versions -/

theorem decodeRegion_ne_version (index : Nat) (v number : Value) :
    decodeRegion index v ≠ .error (.version number) := by
  unfold decodeRegion
  split
  · split
    · split
      · nofun
      · split <;> nofun
    · nofun
  · nofun

theorem decodeOnto_ne_version (done : List Region) (index : Nat) (items : List Value)
    (number : Value) : decodeOnto done index items ≠ .error (.version number) := by
  induction items generalizing done index with
  | nil => nofun
  | cons v items ih =>
    unfold decodeOnto
    split
    · next hfault =>
      intro h
      cases h
      exact decodeRegion_ne_version index v number hfault
    · exact ih _ _

/-- A value is refused for its version **exactly when it has the mark and another version**,
whatever its third element is. -/
theorem ofValue_eq_version_iff {v number : Value} :
    ofValue v = .error (.version number) ↔
      ∃ list, v = .array [.text mark, number, list] ∧ ¬ One number := by
  constructor
  · intro h
    unfold ofValue at h
    split at h
    · next name found list hparts =>
      split at h
      · cases h
      · next hname =>
        split at h
        · next hone =>
          cases h
          rw [eq_array_of_parts? hparts nofun, not_ne_iff.1 hname]
          exact ⟨list, rfl, fun hyes => by rw [isOne_iff.2 hyes] at hone; cases hone⟩
        · split at h
          · cases h
          · exact absurd h (decodeOnto_ne_version _ _ _ _)
    · cases h
  · rintro ⟨list, rfl, hone⟩
    have hone : (!number.isOne) = true := by
      rw [Bool.not_eq_true', Bool.eq_false_iff]
      exact mt isOne_iff.1 hone
    simp only [ofValue, parts?_array, hone, ne_eq, not_true_eq_false, if_false, if_true]

theorem decode_eq_version_iff {payload : Bytes} {number : Value} :
    decode payload = .error (.version number) ↔
      ∃ list, Form maxDepth (.array [.text mark, number, list]) payload ∧ ¬ One number := by
  constructor
  · intro h
    unfold decode at h
    split at h
    · cases h
    · next hv =>
      obtain ⟨list, rfl, hone⟩ := ofValue_eq_version_iff.1 h
      exact ⟨list, MessagePack.unpack_eq_ok_iff.1 hv, hone⟩
  · rintro ⟨list, hform, hone⟩
    rw [decode, MessagePack.unpack_eq_ok_iff.2 hform]
    exact ofValue_eq_version_iff.2 ⟨list, rfl, hone⟩

/-! ## Snapshots -/

variable {d payload : Bytes}

theorem load_of_carries (h : Carries d payload) :
    load d = (decode payload).mapError Fault.issue := by
  simp only [load, decompress_eq_ok_iff.2 h]
  cases decode payload <;> rfl

/-- Bytes give regions **exactly when they carry a log of them**. -/
theorem load_eq_ok_iff {regions : List Region} :
    load d = .ok regions ↔ ∃ payload version, Carries d payload ∧ One version ∧
      Spells (log version regions) payload := by
  constructor
  · intro h
    unfold load at h
    split at h
    · cases h
    · next payload hpayload =>
      split at h
      · cases h
      · next hdecode =>
        cases h
        obtain ⟨version, hone, hlog⟩ := decode_eq_ok_iff.1 hdecode
        exact ⟨payload, version, decompress_eq_ok_iff.1 hpayload, hone, hlog⟩
  · rintro ⟨payload, version, hcarries, hone, hlog⟩
    rw [load_of_carries hcarries, decode_eq_ok_iff.2 ⟨version, hone, hlog⟩]
    rfl

/-- Bytes that carry a payload that was written give **the same regions**. -/
theorem load_of_encode {regions : List Region} (h : encode regions = .ok payload)
    (hcarries : Carries d payload) : load d = .ok regions :=
  load_eq_ok_iff.2 ⟨payload, .int 1, hcarries, .int, 4, form_of_encode h⟩

/-! ## Reports -/

/-- Bytes are **refused with an issue** of a kind. -/
def Reports (d : Bytes) (kind : Issue.Kind) : Prop :=
  ∃ issue, load d = .error issue ∧ issue.kind = kind

theorem reports_iff_of_load {issue : Issue} (h : load d = .error issue) {kind : Issue.Kind} :
    Reports d kind ↔ issue.kind = kind := by
  constructor
  · rintro ⟨issue', h', hkind⟩
    cases h.symm.trans h'
    exact hkind
  · exact fun hkind => ⟨issue, h, hkind⟩

theorem not_reports_of_load {regions : List Region} (h : load d = .ok regions) (kind : Issue.Kind) :
    ¬ Reports d kind := by
  rintro ⟨issue, h', -⟩
  cases h.symm.trans h'

instance (d : Bytes) (kind : Issue.Kind) : Decidable (Reports d kind) :=
  match h : load d with
  | .error issue => decidable_of_iff (issue.kind = kind) (reports_iff_of_load h).symm
  | .ok _ => isFalse (not_reports_of_load h kind)

theorem reports_of_not_carries (h : ¬ ∃ payload, Carries d payload) : Reports d .notCompressed := by
  cases hz : Zlib.decompress d with
  | ok payload => exact absurd ⟨payload, decompress_eq_ok_iff.1 hz⟩ h
  | error fault => exact ⟨fault.issue, by rw [load, hz], rfl⟩

theorem reports_iff_of_carries (h : Carries d payload) {kind : Issue.Kind} :
    Reports d kind ↔ ∃ fault, decode payload = .error fault ∧ fault.issue.kind = kind := by
  rw [Reports, load_of_carries h]
  cases decode payload with
  | ok regions => exact ⟨nofun, nofun⟩
  | error fault =>
    constructor
    · rintro ⟨issue, hissue, hkind⟩
      cases hissue
      exact ⟨fault, rfl, hkind⟩
    · rintro ⟨_, hfault, hkind⟩
      cases hfault
      exact ⟨fault.issue, rfl, hkind⟩

theorem kind_issue (fault : Fault) :
    fault.issue.kind = .version ∧ (∃ number, fault = .version number) ∨
      fault.issue.kind = .malformed ∧ ¬ ∃ number, fault = .version number := by
  cases fault with
  | version number => exact .inl ⟨rfl, number, rfl⟩
  | _ => exact .inr ⟨rfl, nofun⟩

theorem reports_notCompressed_iff : Reports d .notCompressed ↔ ¬ ∃ payload, Carries d payload := by
  refine ⟨?_, reports_of_not_carries⟩
  rintro h ⟨payload, hcarries⟩
  obtain ⟨fault, -, hkind⟩ := (reports_iff_of_carries hcarries).1 h
  rcases kind_issue fault with ⟨hkind', -⟩ | ⟨hkind', -⟩ <;> cases hkind.symm.trans hkind'

theorem reports_version_iff :
    Reports d .version ↔ ∃ payload number list, Carries d payload ∧
      Form maxDepth (.array [.text mark, number, list]) payload ∧ ¬ One number := by
  constructor
  · intro h
    obtain ⟨payload, hcarries⟩ : ∃ payload, Carries d payload := by
      by_contra hnone
      obtain ⟨issue, hload, hkind⟩ := reports_of_not_carries hnone
      cases ((reports_iff_of_load hload).1 h).symm.trans hkind
    obtain ⟨fault, hfault, hkind⟩ := (reports_iff_of_carries hcarries).1 h
    rcases kind_issue fault with ⟨-, number, rfl⟩ | ⟨hkind', -⟩
    · obtain ⟨list, hform, hone⟩ := decode_eq_version_iff.1 hfault
      exact ⟨payload, number, list, hcarries, hform, hone⟩
    · cases hkind.symm.trans hkind'
  · rintro ⟨payload, number, list, hcarries, hform, hone⟩
    exact (reports_iff_of_carries hcarries).2
      ⟨.version number, decode_eq_version_iff.2 ⟨list, hform, hone⟩, rfl⟩

/-- Bytes give regions or are refused with an issue of **one of three kinds**. -/
theorem load_or_reports (d : Bytes) :
    (∃ regions, load d = .ok regions) ∨
      ∃ kind ∈ [Issue.Kind.notCompressed, .malformed, .version], Reports d kind := by
  by_cases h : ∃ payload, Carries d payload
  · obtain ⟨payload, hcarries⟩ := h
    cases hdecode : decode payload with
    | ok regions => exact .inl ⟨regions, by rw [load_of_carries hcarries, hdecode]; rfl⟩
    | error fault =>
      refine .inr ⟨fault.issue.kind, ?_, (reports_iff_of_carries hcarries).2 ⟨fault, hdecode, rfl⟩⟩
      rcases kind_issue fault with ⟨hkind, -⟩ | ⟨hkind, -⟩ <;> rw [hkind] <;> decide
  · exact .inr ⟨.notCompressed, by decide, reports_of_not_carries h⟩

theorem ofCoordinates_of_position? {v : Value} {p : Position} (h : position? v = some p) :
    ∃ row column, v = .array [.int row, .int column] ∧
      Position.ofCoordinates row column = .ok p := by
  rw [position?_eq_some_iff.1 h]
  exact ⟨p.row, p.column, rfl, Position.ofCoordinates_eq_ok_iff.2 ⟨rfl, rfl⟩⟩

/-- All bytes give regions or are refused with an issue of **one of three kinds**: they carry no
payload, the payload is malformed, or its version is another one. The first and the last are told by
what the bytes begin with, whatever else is wrong with them; and no position is made of numbers that
positions refuse. -/
theorem load_reports_every_corruption (d : Bytes) :
    ((∃ regions, load d = .ok regions) ∨
      ∃ kind ∈ [Issue.Kind.notCompressed, .malformed, .version], Reports d kind) ∧
    (Reports d .notCompressed ↔ ¬ ∃ payload, Carries d payload) ∧
    (Reports d .version ↔ ∃ payload number list, Carries d payload ∧
      Form maxDepth (.array [.text mark, number, list]) payload ∧ ¬ One number) ∧
    ∀ v p, position? v = some p →
      ∃ row column, v = .array [.int row, .int column] ∧
        Position.ofCoordinates row column = .ok p :=
  ⟨load_or_reports d, reports_notCompressed_iff, reports_version_iff,
    fun _ _ => ofCoordinates_of_position?⟩

end Drift.Snapshot
