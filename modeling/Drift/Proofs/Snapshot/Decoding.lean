import Drift.Proofs.MessagePack.Reading
import Drift.Snapshot.Stream

/-!
# What a payload must be

* `Position.value`, `Region.value`, `log` — the values of positions, of regions and of a whole log.
* `One` — the values that pass for the version.
* `ofValue_eq_ok_iff` — a value gives regions exactly when it is a log of them.
* **`decode_accepts_exactly_logs`** — bytes give regions exactly when they spell a log of them, and
  nothing with a value of a foreign kind in it is taken for a log.
-/

namespace Drift

open MessagePack (Value Form Spells Nests maxDepth)

/-! ## Logs as values -/

/-- A position as a value. -/
def Position.value (p : Position) : Value := .array [.int p.row, .int p.column]

/-- A region as a value. -/
def Region.value (r : Region) : Value :=
  .array [.text r.path, .text r.comment, .text r.content, r.start.value, r.stop.value]

namespace Snapshot

/-- The **values that equal one**. -/
inductive One : Value → Prop where
  | int : One (.int 1)
  | bool : One (.bool true)
  | float : One (.float Double.one)

/-- A **log** of regions, of some version. -/
def log (version : Value) (regions : List Region) : Value :=
  .array [.text mark, version, .array (regions.map Region.value)]

/-- The kinds of values that no log has inside. -/
inductive Foreign : Value → Prop where
  | nil : Foreign .nil
  | binary (data : Bytes) : Foreign (.binary data)
  | map (pairs : List (Value × Value)) : Foreign (.map pairs)
  | extension (code : Nat) (data : Bytes) : Foreign (.extension code data)
  | timestamp (seconds : Int) (nanoseconds : Nat) : Foreign (.timestamp seconds nanoseconds)

theorem isOne_iff {v : Value} : v.isOne = true ↔ One v := by
  constructor
  · intro h
    cases v with
    | int n => rw [beq_iff_eq.1 h]; exact .int
    | bool b => cases h; exact .bool
    | float x => rw [beq_iff_eq.1 h]; exact .float
    | _ => cases h
  · rintro (_ | _ | _) <;> rfl

/-! ## Checking a value -/

@[simp] theorem parts?_array (items : List Value) : (Value.array items).parts? = some items := rfl

theorem eq_array_of_parts? {v : Value} {parts : List Value} (h : v.parts? = some parts)
    (hlen : parts.length ≠ 2) : v = .array parts := by
  cases v with
  | array items => cases h; rfl
  | extension code data => cases h; exact absurd rfl hlen
  | _ => cases h

theorem position?_eq_some_iff {v : Value} {p : Position} :
    position? v = some p ↔ v = p.value := by
  constructor
  · intro h
    unfold position? at h
    split at h
    · next row column hparts =>
      split at h
      · next hsign =>
        cases h
        cases v with
        | array items =>
          cases hparts
          rw [Position.value, Int.toNat_of_nonneg hsign.1, Int.toNat_of_nonneg hsign.2]
        | _ => cases hparts
      · cases h
    · cases h
  · rintro rfl
    have hsign : 0 ≤ (p.row : Int) ∧ 0 ≤ (p.column : Int) := by omega
    simp only [position?, Position.value, parts?_array, if_pos hsign, Int.toNat_natCast]

theorem decodeRegion_eq_ok_iff {index : Nat} {v : Value} {r : Region} :
    decodeRegion index v = .ok r ↔ v = r.value := by
  constructor
  · intro h
    unfold decodeRegion at h
    split at h
    · next hparts =>
      split at h
      · split at h
        · cases h
        · next hstart =>
          split at h
          · cases h
          · next hstop =>
            cases h
            rw [eq_array_of_parts? hparts nofun, position?_eq_some_iff.1 hstart,
              position?_eq_some_iff.1 hstop]
            rfl
      · cases h
    · cases h
  · rintro rfl
    simp only [decodeRegion, Region.value, parts?_array, position?_eq_some_iff.2 rfl]

theorem decodeOnto_eq_ok_iff {items : List Value} {done regions : List Region} {index : Nat} :
    decodeOnto done index items = .ok regions ↔
      ∃ rs : List Region, regions = done.reverse ++ rs ∧ items = rs.map Region.value := by
  induction items generalizing done index with
  | nil =>
    constructor
    · intro h
      cases h
      exact ⟨[], (List.append_nil _).symm, rfl⟩
    · rintro ⟨rs, rfl, hrs⟩
      rw [List.map_eq_nil_iff.1 hrs.symm, List.append_nil]
      rfl
  | cons v items ih =>
    constructor
    · intro h
      unfold decodeOnto at h
      split at h
      · cases h
      · next r hr =>
        obtain ⟨rs, rfl, rfl⟩ := ih.1 h
        refine ⟨r :: rs, ?_, by rw [decodeRegion_eq_ok_iff.1 hr, List.map_cons]⟩
        rw [List.reverse_cons, List.append_assoc, List.singleton_append]
    · rintro ⟨rs, rfl, hrs⟩
      obtain ⟨r, rs, rfl, rfl, rfl⟩ := List.map_eq_cons_iff.1 hrs.symm
      simp only [decodeOnto, decodeRegion_eq_ok_iff.2 rfl]
      refine ih.2 ⟨rs, ?_, rfl⟩
      rw [List.reverse_cons, List.append_assoc, List.singleton_append]

/-- A value gives regions exactly when it is **a log of them**. -/
theorem ofValue_eq_ok_iff {v : Value} {regions : List Region} :
    ofValue v = .ok regions ↔ ∃ version, One version ∧ v = log version regions := by
  constructor
  · intro h
    unfold ofValue at h
    split at h
    · next name number list hparts =>
      split at h
      · cases h
      · next hname =>
        split at h
        · cases h
        · next hone =>
          rw [Bool.not_eq_true', Bool.not_eq_false] at hone
          refine ⟨number, isOne_iff.1 hone, ?_⟩
          rw [eq_array_of_parts? hparts nofun, not_ne_iff.1 hname]
          cases list with
          | array items =>
            obtain ⟨rs, rfl, rfl⟩ := decodeOnto_eq_ok_iff.1 h
            rfl
          | extension => cases h
          | _ => cases h
    · cases h
  · rintro ⟨version, hone, rfl⟩
    have hlist : decodeOnto [] 0 (regions.map Region.value) = .ok regions :=
      decodeOnto_eq_ok_iff.2 ⟨regions, rfl, rfl⟩
    simp only [ofValue, log, parts?_array, isOne_iff.2 hone, hlist]
    rfl

/-! ## Checking bytes -/

theorem nests_position (p : Position) : Nests 1 p.value := by
  refine .array fun v hv => ?_
  simp only [List.mem_cons, List.not_mem_nil, or_false] at hv
  rcases hv with rfl | rfl <;> exact .leaf nofun nofun

theorem nests_region (r : Region) : Nests 2 r.value := by
  refine .array fun v hv => ?_
  simp only [List.mem_cons, List.not_mem_nil, or_false] at hv
  rcases hv with rfl | rfl | rfl | rfl | rfl
  · exact .leaf nofun nofun
  · exact .leaf nofun nofun
  · exact .leaf nofun nofun
  · exact nests_position _
  · exact nests_position _

theorem nests_log {version : Value} (hone : One version) (regions : List Region) :
    Nests 4 (log version regions) := by
  refine .array fun v hv => ?_
  simp only [List.mem_cons, List.not_mem_nil, or_false] at hv
  rcases hv with rfl | rfl | rfl
  · exact .leaf nofun nofun
  · cases hone <;> exact .leaf nofun nofun
  · refine .array fun v hv => ?_
    obtain ⟨r, -, rfl⟩ := List.mem_map.1 hv
    exact nests_region r

theorem form_log_iff {version : Value} (hone : One version) {regions : List Region}
    {payload : Bytes} :
    Form maxDepth (log version regions) payload ↔ Spells (log version regions) payload := by
  constructor
  · exact fun h => ⟨_, h⟩
  · rintro ⟨room, h⟩
    exact (h.of_nests (nests_log hone regions)).mono (by decide)

theorem decode_eq_ok_iff {payload : Bytes} {regions : List Region} :
    decode payload = .ok regions ↔
      ∃ version, One version ∧ Spells (log version regions) payload := by
  constructor
  · intro h
    unfold decode at h
    split at h
    · cases h
    · next hv =>
      obtain ⟨version, hone, rfl⟩ := ofValue_eq_ok_iff.1 h
      exact ⟨version, hone, _, MessagePack.unpack_eq_ok_iff.1 hv⟩
  · rintro ⟨version, hone, h⟩
    rw [decode, MessagePack.unpack_eq_ok_iff.2 ((form_log_iff hone).2 h)]
    exact ofValue_eq_ok_iff.2 ⟨version, hone, rfl⟩

theorem not_holds_foreign_position (p : Position) : ¬ p.value.Holds Foreign := by
  rintro (h | ⟨hv, h⟩)
  · cases h
  · simp only [List.mem_cons, List.not_mem_nil, or_false] at hv
    rcases hv with rfl | rfl <;> rcases h with ⟨⟨⟩⟩

theorem not_holds_foreign_region (r : Region) : ¬ r.value.Holds Foreign := by
  rintro (h | ⟨hv, h⟩)
  · cases h
  · simp only [List.mem_cons, List.not_mem_nil, or_false] at hv
    rcases hv with rfl | rfl | rfl | rfl | rfl
    · rcases h with ⟨⟨⟩⟩
    · rcases h with ⟨⟨⟩⟩
    · rcases h with ⟨⟨⟩⟩
    · exact not_holds_foreign_position _ h
    · exact not_holds_foreign_position _ h

theorem not_holds_foreign_log {version : Value} (hone : One version) (regions : List Region) :
    ¬ (log version regions).Holds Foreign := by
  rintro (h | ⟨hv, h⟩)
  · cases h
  · simp only [List.mem_cons, List.not_mem_nil, or_false] at hv
    rcases hv with rfl | rfl | rfl
    · rcases h with ⟨⟨⟩⟩
    · cases hone <;> rcases h with ⟨⟨⟩⟩
    · rcases h with h | ⟨hv, h⟩
      · cases h
      · obtain ⟨r, -, rfl⟩ := List.mem_map.1 hv
        exact not_holds_foreign_region r h

/-- Bytes give regions **exactly when they spell a log of them**, with any heads and any version
that equals one, and with nothing before or after. Bytes that spell a value with a value of a
foreign kind at any place in it give none. -/
theorem decode_accepts_exactly_logs (payload : Bytes) (regions : List Region) :
    (decode payload = .ok regions ↔
      ∃ version, One version ∧ Spells (log version regions) payload) ∧
    ¬ ∃ v, Spells v payload ∧ v.Holds Foreign ∧ decode payload = .ok regions := by
  refine ⟨decode_eq_ok_iff, ?_⟩
  rintro ⟨v, ⟨room, hv⟩, hforeign, h⟩
  obtain ⟨version, hone, room', hlog⟩ := decode_eq_ok_iff.1 h
  obtain ⟨rfl, -, -⟩ := hv.unique hlog (rfl : payload ++ [] = _)
  exact not_holds_foreign_log hone regions hforeign

end Snapshot

end Drift
