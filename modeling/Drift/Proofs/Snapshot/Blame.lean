import Drift.Failure
import Drift.Proofs.Snapshot.Decoding

/-!
# What a malformed region is blamed for

* `Check` — the checks of a value that is to be a region; `Fails` — the first one that it fails.
* `decodeRegion_of_fails`, `fails_of_decodeRegion` — a value is refused for that check.
* `decodeOnto_of_fails`, `fails_of_decodeOnto` — several values are refused for the first one that
  fails a check, by its index.
* `Lists` — a payload that lists some values as its regions.
* **`decode_blames_first`** — it gives as many regions as it lists values, or is refused for the first
  one that is malformed, whatever follows it.
-/

namespace Drift.Snapshot

open MessagePack (Value)

/-! ## Checks -/

/-- A **check** of a value that is to be a region: that it is a list of five, that its first three
parts are texts, and that the other two are positions. -/
inductive Check where
  | fields
  | texts
  | position (corner : Corner)
  deriving DecidableEq, Repr

namespace Check

/-- Why a payload is refused whose value of this index fails the check. -/
def fault (index : Nat) : Check → Fault
  | fields => .fields index
  | texts => .texts index
  | position corner => .position index corner

/-- What is said of a value that fails the check. -/
def words : Check → String
  | fields => "expected 5 fields"
  | texts => "path, annotation and content must be strings"
  | position .start => "malformed start position"
  | position .stop => "malformed end position"

theorem issue_fault (check : Check) (index : Nat) : (check.fault index).issue
    = .malformed (String.join ["region ", toString index, ": " ++ check.words]) := by
  cases check with
  | fields | texts => rfl
  | position corner => cases corner <;> rfl

end Check

/-- A value that is **a region's**. -/
def WellFormed (v : Value) : Prop := ∃ r : Region, v = r.value

/-- The **first check that a value fails**: those before it are passed. -/
inductive Fails : Value → Check → Prop where
  | fields {v : Value}
      (h : ∀ path comment content start stop, v ≠ .array [path, comment, content, start, stop]) :
      Fails v .fields
  | texts {path comment content start stop : Value}
      (h : ∃ part ∈ [path, comment, content], ∀ s, part ≠ .text s) :
      Fails (.array [path, comment, content, start, stop]) .texts
  | start {path comment content : String} {start stop : Value}
      (h : ∀ p : Position, start ≠ p.value) :
      Fails (.array [.text path, .text comment, .text content, start, stop]) (.position .start)
  | stop {path comment content : String} {start : Position} {stop : Value}
      (h : ∀ p : Position, stop ≠ p.value) :
      Fails (.array [.text path, .text comment, .text content, start.value, stop])
        (.position .stop)

variable {v : Value} {check : Check} {index : Nat} {fault : Fault}

theorem Fails.not_wellFormed (h : Fails v check) : ¬ WellFormed v := by
  rintro ⟨r, hr⟩
  cases h with
  | fields h => exact h _ _ _ _ _ hr
  | texts h =>
    cases hr
    obtain ⟨part, hpart, h⟩ := h
    simp only [List.mem_cons, List.not_mem_nil, or_false] at hpart
    rcases hpart with rfl | rfl | rfl <;> exact h _ rfl
  | start h =>
    cases hr
    exact h _ rfl
  | stop h =>
    simp only [Region.value, Value.array.injEq, List.cons.injEq] at hr
    exact h _ hr.2.2.2.2.1

/-! ## One value -/

theorem position?_eq_none_iff : position? v = none ↔ ∀ p : Position, v ≠ p.value := by
  rw [Option.eq_none_iff_forall_ne_some]
  exact forall_congr' fun p => not_congr position?_eq_some_iff

/-- A value is refused for **the first check that it fails**. -/
theorem decodeRegion_of_fails (h : Fails v check) (index : Nat) :
    decodeRegion index v = .error (check.fault index) := by
  cases h with
  | fields h =>
    unfold decodeRegion
    split
    · next hparts => exact absurd (eq_array_of_parts? hparts nofun) (h _ _ _ _ _)
    · rfl
  | texts h =>
    obtain ⟨part, hpart, h⟩ := h
    simp only [decodeRegion, parts?_array]
    split
    · simp only [List.mem_cons, List.not_mem_nil, or_false] at hpart
      rcases hpart with rfl | rfl | rfl <;> exact absurd rfl (h _)
    · rfl
  | start h =>
    simp only [decodeRegion, parts?_array, position?_eq_none_iff.2 h]
    rfl
  | stop h =>
    simp only [decodeRegion, parts?_array, position?_eq_some_iff.2 rfl, position?_eq_none_iff.2 h]
    rfl

theorem fails_of_decodeRegion (h : decodeRegion index v = .error fault) :
    ∃ check, Fails v check ∧ fault = check.fault index := by
  unfold decodeRegion at h
  split at h
  · next path comment content start stop hparts =>
    rw [eq_array_of_parts? hparts nofun]
    split at h
    · split at h
      · next hstart =>
        cases h
        exact ⟨.position .start, .start (position?_eq_none_iff.1 hstart), rfl⟩
      · next hstart =>
        rw [position?_eq_some_iff.1 hstart]
        split at h
        · next hstop =>
          cases h
          exact ⟨.position .stop, .stop (position?_eq_none_iff.1 hstop), rfl⟩
        · cases h
    · next hnone =>
      cases h
      refine ⟨.texts, .texts ?_, rfl⟩
      by_contra htexts
      simp only [List.mem_cons, List.not_mem_nil, or_false, exists_eq_or_imp, exists_eq_left,
        not_or, not_forall, not_not] at htexts
      obtain ⟨⟨s, hs⟩, ⟨t, ht⟩, u, hu⟩ := htexts
      exact hnone s t u hs ht hu
  · next hnone =>
    cases h
    refine ⟨.fields, .fields ?_, rfl⟩
    rintro path comment content start stop rfl
    exact hnone _ _ _ _ _ rfl

theorem Fails.unique {check' : Check} (h : Fails v check) (h' : Fails v check') :
    check = check' := by
  have hfault : check.fault 0 = check'.fault 0 :=
    Except.error.inj ((decodeRegion_of_fails h 0).symm.trans (decodeRegion_of_fails h' 0))
  cases check <;> cases check' <;> cases hfault <;> rfl

/-! ## Several values -/

variable {before after items : List Value}

/-- Behind regions, the **first value that fails a check** ends the reading, whatever follows it. -/
theorem decodeOnto_of_fails (hbefore : ∀ w ∈ before, WellFormed w) (hv : Fails v check)
    (done : List Region) (index : Nat) :
    decodeOnto done index (before ++ v :: after)
      = .error (check.fault (index + before.length)) := by
  induction before generalizing done index with
  | nil => simp only [List.nil_append, decodeOnto, decodeRegion_of_fails hv, List.length_nil,
      Nat.add_zero]
  | cons w before ih =>
    obtain ⟨⟨r, hr⟩, hrest⟩ := List.forall_mem_cons.1 hbefore
    simp only [List.cons_append, decodeOnto, decodeRegion_eq_ok_iff.2 hr, ih hrest,
      List.length_cons, Nat.add_assoc, Nat.add_comm 1]

/-- Values that are refused begin with regions, and **the next one fails the check**. -/
theorem fails_of_decodeOnto {done : List Region} (h : decodeOnto done index items = .error fault) :
    ∃ before v after check, items = before ++ v :: after ∧ (∀ w ∈ before, WellFormed w) ∧
      Fails v check ∧ fault = check.fault (index + before.length) := by
  induction items generalizing done index with
  | nil => cases h
  | cons v items ih =>
    unfold decodeOnto at h
    split at h
    · next hfault =>
      cases h
      obtain ⟨check, hfails, rfl⟩ := fails_of_decodeRegion hfault
      exact ⟨[], v, items, check, rfl, nofun, hfails, rfl⟩
    · next r hr =>
      obtain ⟨before, w, after, check, rfl, hbefore, hfails, rfl⟩ := ih h
      refine ⟨v :: before, w, after, check, rfl, List.forall_mem_cons.2 ⟨?_, hbefore⟩, hfails, ?_⟩
      · exact ⟨r, decodeRegion_eq_ok_iff.1 hr⟩
      · rw [List.length_cons, Nat.add_assoc, Nat.add_comm 1]

/-! ## Payloads -/

/-- A payload that **lists some values** as its regions: it has the mark and a version that equals
one, and its third element is a list of them, or an extension of which they are the parts. -/
def Lists (payload : Bytes) (items : List Value) : Prop :=
  ∃ version list, MessagePack.unpack payload = .ok (.array [.text mark, version, list]) ∧
    One version ∧ list.parts? = some items

theorem Lists.decode_eq {payload : Bytes} (h : Lists payload items) :
    decode payload = decodeOnto [] 0 items := by
  obtain ⟨version, list, hpayload, hone, hlist⟩ := h
  simp only [decode, hpayload, ofValue, parts?_array, isOne_iff.2 hone, hlist]
  rfl

/-- A payload that lists values gives **as many regions**, if all of them are regions. Otherwise it is
refused, and the report names the first one that is malformed and the first check that it fails; so
does that of every payload that lists the same values up to there. -/
theorem decode_blames_first {payload : Bytes} (h : Lists payload items) :
    ((∀ v ∈ items, WellFormed v) → ∃ regions, decode payload = .ok regions ∧
        items = regions.map Region.value ∧ regions.length = items.length) ∧
    ((¬ ∀ v ∈ items, WellFormed v) → ∃ before v after check, items = before ++ v :: after ∧
        (∀ w ∈ before, WellFormed w) ∧ ¬ WellFormed v ∧ Fails v check ∧
        decode payload = .error (check.fault before.length) ∧
        (check.fault before.length).issue
          = .malformed (String.join ["region ", toString before.length, ": " ++ check.words]) ∧
        ∀ payload' after', Lists payload' (before ++ v :: after') →
          decode payload' = decode payload) := by
  rw [h.decode_eq]
  cases hdecode : decodeOnto [] 0 items with
  | ok regions =>
    obtain ⟨rs, hrs, rfl⟩ := decodeOnto_eq_ok_iff.1 hdecode
    obtain rfl : regions = rs := hrs
    refine ⟨fun _ => ⟨regions, rfl, rfl, List.length_map _ |>.symm⟩, fun hnot => absurd ?_ hnot⟩
    intro v hv
    obtain ⟨r, -, rfl⟩ := List.mem_map.1 hv
    exact ⟨r, rfl⟩
  | error fault =>
    obtain ⟨before, v, after, check, rfl, hbefore, hfails, rfl⟩ := fails_of_decodeOnto hdecode
    rw [Nat.zero_add]
    refine ⟨fun hall => absurd (hall v (by simp)) hfails.not_wellFormed, fun _ => ?_⟩
    refine ⟨before, v, after, check, rfl, hbefore, hfails.not_wellFormed, hfails, rfl,
      check.issue_fault _, fun payload' after' h' => ?_⟩
    rw [h'.decode_eq, decodeOnto_of_fails hbefore hfails, Nat.zero_add]

/-! ### Several faults at once -/

/-- A region's value. -/
def sampleValue : Value := (Region.mk "p" "# c" "x" ⟨1, 0⟩ ⟨1, 4⟩).value

/-- A value with three faults: its third part is a number, and it has no positions. -/
def faulty : Value := .array [.text "p", .text "# c", .int 7, .nil, .nil]

/-- The region's value, the faulty one and nil. -/
def faultyPayload : Bytes :=
  [0x93, 0xAB, 99, 111, 110, 116, 114, 111, 108, 45, 108, 111, 103, 1, 0x93,
   0x95, 0xA1, 112, 0xA3, 35, 32, 99, 0xA1, 120, 0x92, 1, 0, 0x92, 1, 4,
   0x95, 0xA1, 112, 0xA3, 35, 32, 99, 7, 0xC0, 0xC0, 0xC0]

/-- The first two of these values, behind a wider head and the version true. -/
def wideFaultyPayload : Bytes :=
  [0x93, 0xAB, 99, 111, 110, 116, 114, 111, 108, 45, 108, 111, 103, 0xC3, 0xDC, 0, 2,
   0x95, 0xA1, 112, 0xA3, 35, 32, 99, 0xA1, 120, 0x92, 1, 0, 0x92, 1, 4,
   0x95, 0xA1, 112, 0xA3, 35, 32, 99, 7, 0xC0, 0xC0]

theorem lists_faultyPayload : Lists faultyPayload [sampleValue, faulty, .nil] :=
  ⟨.int 1, .array _, by with_unfolding_all rfl, .int, rfl⟩

theorem lists_wideFaultyPayload : Lists wideFaultyPayload [sampleValue, faulty] :=
  ⟨.bool true, .array _, by with_unfolding_all rfl, .bool, rfl⟩

theorem fails_faulty : Fails faulty .texts :=
  .texts ⟨.int 7, by simp, nofun⟩

/-- Of several faults in two of three values, the report is of **the first one**, for both
payloads. -/
theorem decode_blames_first_faulty :
    decode faultyPayload = .error (.texts 1) ∧
      decode wideFaultyPayload = decode faultyPayload := by
  have hsample : WellFormed sampleValue := ⟨_, rfl⟩
  have hnot : ¬ ∀ v ∈ [sampleValue, faulty, .nil], WellFormed v :=
    fun hall => fails_faulty.not_wellFormed (hall faulty (by simp))
  obtain ⟨-, hblame⟩ := decode_blames_first lists_faultyPayload
  obtain ⟨before, v, after, check, hitems, hbefore, hv, hfails, hdecode, -, hsame⟩ := hblame hnot
  obtain ⟨rfl, rfl⟩ : before = [sampleValue] ∧ v = faulty := by
    match before with
    | [] => exact absurd ((List.cons.inj hitems).1 ▸ hsample) hv
    | [w] =>
      simp only [List.cons_append, List.nil_append, List.cons.injEq] at hitems
      exact ⟨by rw [hitems.1], hitems.2.1.symm⟩
    | _ :: w :: _ =>
      simp only [List.cons_append, List.cons.injEq] at hitems
      exact absurd (hbefore w (by simp)) (hitems.2.1 ▸ fails_faulty.not_wellFormed)
  obtain rfl := hfails.unique fails_faulty
  exact ⟨hdecode, hsame wideFaultyPayload [] lists_wideFaultyPayload⟩

end Drift.Snapshot
