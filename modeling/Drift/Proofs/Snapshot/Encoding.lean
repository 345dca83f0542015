import Drift.Proofs.MessagePack.Writing
import Drift.Proofs.Snapshot.Decoding

/-!
# Payloads that are written and read back

* `form_of_encode` — a payload that is written is a form of the log of its regions.
* `encode_eq_ok`, `encode_eq_error` — regions with short texts are written exactly when their
  coordinates fit.
* **`encode_round_trip`** — both together, and the payload gives the same regions back.
-/

namespace Drift

open MessagePack

/-- The texts of the region are short enough to be written. -/
def Region.Short (r : Region) : Prop :=
  ∀ s ∈ [r.path, r.comment, r.content], (Utf8.encodeString s).length < lengthBound

/-- The coordinates of the region are small enough to be written. -/
def Region.Storable (r : Region) : Prop :=
  ∀ n ∈ [r.start.row, r.start.column, r.stop.row, r.stop.column], n ≤ maxNumber

namespace Snapshot

/-! ## What is written -/

theorem form_of_encodePosition {room : Nat} {p : Position} {f : Bytes}
    (h : encodePosition p = .ok f) : Form (room + 1) p.value f := by
  obtain ⟨head, hhead, h⟩ := bind_eq_ok_iff.1 h
  obtain ⟨row, hrow, h⟩ := bind_eq_ok_iff.1 h
  obtain ⟨column, hcolumn, h⟩ := bind_eq_ok_iff.1 h
  cases h
  have hbody : Row (Form room) [.int p.row, .int p.column] (row ++ (column ++ [])) :=
    .cons (.of_leaf (.scalar (form_of_nat hrow)))
      (.cons (.of_leaf (.scalar (form_of_nat hcolumn))) .nil)
  rw [List.append_assoc, ← List.append_nil column]
  exact .inr (.array (form_of_arrayHead hhead) hbody)

theorem form_of_encodeRegion {room : Nat} {r : Region} {f : Bytes}
    (h : encodeRegion r = .ok f) : Form (room + 2) r.value f := by
  obtain ⟨head, hhead, h⟩ := bind_eq_ok_iff.1 h
  obtain ⟨path, hpath, h⟩ := bind_eq_ok_iff.1 h
  obtain ⟨comment, hcomment, h⟩ := bind_eq_ok_iff.1 h
  obtain ⟨content, hcontent, h⟩ := bind_eq_ok_iff.1 h
  obtain ⟨start, hstart, h⟩ := bind_eq_ok_iff.1 h
  obtain ⟨stop, hstop, h⟩ := bind_eq_ok_iff.1 h
  cases h
  have hbody : Row (Form (room + 1)) _
      (path ++ (comment ++ (content ++ (start ++ (stop ++ []))))) :=
    .cons (.of_leaf (leaf_of_text hpath))
      (.cons (.of_leaf (leaf_of_text hcomment))
        (.cons (.of_leaf (leaf_of_text hcontent))
          (.cons (form_of_encodePosition hstart)
            (.cons (form_of_encodePosition hstop) .nil))))
  rw [← List.append_nil stop]
  simp only [List.append_assoc]
  exact .inr (.array (form_of_arrayHead hhead) hbody)

theorem row_of_encodeOnto {room : Nat} {regions : List Region} {done : List Bytes} {f : Bytes}
    (h : encodeOnto done regions = .ok f) :
    ∃ body, Row (Form (room + 2)) (regions.map Region.value) body ∧
      f = done.reverse.flatten ++ body := by
  induction regions generalizing done with
  | nil =>
    cases h
    exact ⟨[], .nil, (List.append_nil _).symm⟩
  | cons r regions ih =>
    unfold encodeOnto at h
    split at h
    · cases h
    · next bytes hr =>
      obtain ⟨body, hbody, rfl⟩ := ih h
      refine ⟨bytes ++ body, .cons (form_of_encodeRegion hr) hbody, ?_⟩
      rw [List.reverse_cons, List.flatten_append, List.flatten_singleton, List.append_assoc]

/-- A payload that is written is **a form of the log** of its regions. -/
theorem form_of_encode {regions : List Region} {payload : Bytes}
    (h : encode regions = .ok payload) : Form 4 (log (.int 1) regions) payload := by
  obtain ⟨head, hhead, h⟩ := bind_eq_ok_iff.1 h
  obtain ⟨name, hname, h⟩ := bind_eq_ok_iff.1 h
  obtain ⟨number, hnumber, h⟩ := bind_eq_ok_iff.1 h
  obtain ⟨count, hcount, h⟩ := bind_eq_ok_iff.1 h
  obtain ⟨body, hbody, h⟩ := bind_eq_ok_iff.1 h
  cases h
  obtain ⟨body, hrow, rfl⟩ : ∃ row, Row (Form 2) _ row ∧ body = [] ++ row :=
    row_of_encodeOnto hbody
  have hcount : HeadForm (.array (regions.map Region.value).length) count := by
    rw [List.length_map]
    exact form_of_arrayHead hcount
  have hall : Row (Form 3) [.text mark, .int 1, .array (regions.map Region.value)]
      (name ++ (number ++ (count ++ body ++ []))) :=
    .cons (.of_leaf (leaf_of_text hname))
      (.cons (.of_leaf (.scalar (form_of_nat hnumber)))
        (.cons (.inr (.array hcount hrow)) .nil))
  rw [← List.append_nil body]
  simp only [List.append_assoc] at hall ⊢
  exact .inr (.array (form_of_arrayHead hhead) hall)

theorem decode_of_encode {regions : List Region} {payload : Bytes}
    (h : encode regions = .ok payload) : decode payload = .ok regions :=
  decode_eq_ok_iff.2 ⟨.int 1, .int, 4, form_of_encode h⟩

/-! ## When something is written -/

theorem encodePosition_eq_ok {p : Position} (hrow : p.row ≤ maxNumber)
    (hcolumn : p.column ≤ maxNumber) : ∃ f, encodePosition p = .ok f := by
  obtain ⟨row, hrow⟩ := nat_eq_ok hrow
  obtain ⟨column, hcolumn⟩ := nat_eq_ok hcolumn
  unfold encodePosition
  rw [hrow, hcolumn]
  exact ⟨_, rfl⟩

theorem encodePosition_eq_error {p : Position} (h : ¬ (p.row ≤ maxNumber ∧ p.column ≤ maxNumber)) :
    encodePosition p = .error .numberTooLarge := by
  unfold encodePosition
  by_cases hrow : p.row ≤ maxNumber
  · obtain ⟨row, hok⟩ := nat_eq_ok hrow
    rw [hok, nat_eq_error fun hcolumn => h ⟨hrow, hcolumn⟩]
    rfl
  · rw [nat_eq_error hrow]
    rfl

theorem storable_iff {r : Region} :
    r.Storable ↔ (r.start.row ≤ maxNumber ∧ r.start.column ≤ maxNumber) ∧
      r.stop.row ≤ maxNumber ∧ r.stop.column ≤ maxNumber := by
  simp only [Region.Storable, List.forall_mem_cons, List.not_mem_nil, false_implies, implies_true,
    and_true, and_assoc]

theorem le_of_encodePosition {p : Position} {f : Bytes} (h : encodePosition p = .ok f) :
    p.row ≤ maxNumber ∧ p.column ≤ maxNumber := by
  by_contra hlarge
  cases h.symm.trans (encodePosition_eq_error hlarge)

theorem storable_of_encodeRegion {r : Region} {f : Bytes} (h : encodeRegion r = .ok f) :
    r.Storable := by
  obtain ⟨_, -, h⟩ := bind_eq_ok_iff.1 h
  obtain ⟨_, -, h⟩ := bind_eq_ok_iff.1 h
  obtain ⟨_, -, h⟩ := bind_eq_ok_iff.1 h
  obtain ⟨_, -, h⟩ := bind_eq_ok_iff.1 h
  obtain ⟨_, hstart, h⟩ := bind_eq_ok_iff.1 h
  obtain ⟨_, hstop, -⟩ := bind_eq_ok_iff.1 h
  exact storable_iff.2 ⟨le_of_encodePosition hstart, le_of_encodePosition hstop⟩

theorem storable_of_encodeOnto {regions : List Region} {done : List Bytes} {f : Bytes}
    (h : encodeOnto done regions = .ok f) : ∀ r ∈ regions, r.Storable := by
  induction regions generalizing done with
  | nil => nofun
  | cons r regions ih =>
    unfold encodeOnto at h
    split at h
    · cases h
    · next hr => exact List.forall_mem_cons.2 ⟨storable_of_encodeRegion hr, ih h⟩

theorem storable_of_encode {regions : List Region} {payload : Bytes}
    (h : encode regions = .ok payload) : ∀ r ∈ regions, r.Storable := by
  obtain ⟨_, -, h⟩ := bind_eq_ok_iff.1 h
  obtain ⟨_, -, h⟩ := bind_eq_ok_iff.1 h
  obtain ⟨_, -, h⟩ := bind_eq_ok_iff.1 h
  obtain ⟨_, -, h⟩ := bind_eq_ok_iff.1 h
  obtain ⟨_, hbody, -⟩ := bind_eq_ok_iff.1 h
  exact storable_of_encodeOnto hbody

theorem encodeRegion_eq_ok {r : Region} (hshort : r.Short) (h : r.Storable) :
    ∃ f, encodeRegion r = .ok f := by
  obtain ⟨hstart, hstop⟩ := storable_iff.1 h
  obtain ⟨path, hpath⟩ := text_eq_ok (hshort r.path (by simp))
  obtain ⟨comment, hcomment⟩ := text_eq_ok (hshort r.comment (by simp))
  obtain ⟨content, hcontent⟩ := text_eq_ok (hshort r.content (by simp))
  obtain ⟨start, hstart⟩ := encodePosition_eq_ok hstart.1 hstart.2
  obtain ⟨stop, hstop⟩ := encodePosition_eq_ok hstop.1 hstop.2
  unfold encodeRegion
  rw [hpath, hcomment, hcontent, hstart, hstop]
  exact ⟨_, rfl⟩

theorem encodeRegion_eq_error {r : Region} (hshort : r.Short) (h : ¬ r.Storable) :
    encodeRegion r = .error .numberTooLarge := by
  obtain ⟨path, hpath⟩ := text_eq_ok (hshort r.path (by simp))
  obtain ⟨comment, hcomment⟩ := text_eq_ok (hshort r.comment (by simp))
  obtain ⟨content, hcontent⟩ := text_eq_ok (hshort r.content (by simp))
  unfold encodeRegion
  rw [hpath, hcomment, hcontent]
  by_cases hstart : r.start.row ≤ maxNumber ∧ r.start.column ≤ maxNumber
  · obtain ⟨start, hok⟩ := encodePosition_eq_ok hstart.1 hstart.2
    rw [hok, encodePosition_eq_error fun hstop => h (storable_iff.2 ⟨hstart, hstop⟩)]
    rfl
  · rw [encodePosition_eq_error hstart]
    rfl

theorem encodeOnto_eq_ok {regions : List Region} {done : List Bytes}
    (hshort : ∀ r ∈ regions, r.Short) (h : ∀ r ∈ regions, r.Storable) :
    ∃ f, encodeOnto done regions = .ok f := by
  induction regions generalizing done with
  | nil => exact ⟨_, rfl⟩
  | cons r regions ih =>
    rw [List.forall_mem_cons] at hshort h
    obtain ⟨f, hf⟩ := encodeRegion_eq_ok hshort.1 h.1
    simp only [encodeOnto, hf]
    exact ih hshort.2 h.2

theorem encodeOnto_eq_error {regions : List Region} {done : List Bytes}
    (hshort : ∀ r ∈ regions, r.Short) (h : ¬ ∀ r ∈ regions, r.Storable) :
    encodeOnto done regions = .error .numberTooLarge := by
  induction regions generalizing done with
  | nil => exact absurd nofun h
  | cons r regions ih =>
    rw [List.forall_mem_cons] at hshort h
    by_cases hr : r.Storable
    · obtain ⟨f, hf⟩ := encodeRegion_eq_ok hshort.1 hr
      simp only [encodeOnto, hf]
      exact ih hshort.2 fun hrest => h ⟨hr, hrest⟩
    · simp only [encodeOnto, encodeRegion_eq_error hshort.1 hr]

theorem short_mark : (Utf8.encodeString mark).length < lengthBound := by
  decide

theorem encode_eq_ok {regions : List Region} (hcount : regions.length < lengthBound)
    (hshort : ∀ r ∈ regions, r.Short) (h : ∀ r ∈ regions, r.Storable) :
    ∃ payload, encode regions = .ok payload := by
  obtain ⟨name, hname⟩ := text_eq_ok short_mark
  obtain ⟨count, hcount⟩ := arrayHead_eq_ok hcount
  obtain ⟨body, hbody⟩ := encodeOnto_eq_ok hshort h
  unfold encode
  rw [hname, hcount, hbody]
  exact ⟨_, rfl⟩

theorem encode_eq_error {regions : List Region} (hcount : regions.length < lengthBound)
    (hshort : ∀ r ∈ regions, r.Short) (h : ¬ ∀ r ∈ regions, r.Storable) :
    encode regions = .error .numberTooLarge := by
  obtain ⟨name, hname⟩ := text_eq_ok short_mark
  obtain ⟨count, hcount⟩ := arrayHead_eq_ok hcount
  unfold encode
  rw [hname, hcount, encodeOnto_eq_error hshort h]
  rfl

/-- Fewer than `2 ^ 32` regions with short texts are written **exactly when their coordinates fit**,
and whatever is written gives **the same regions** back. -/
theorem encode_round_trip {regions : List Region} (hcount : regions.length < lengthBound)
    (hshort : ∀ r ∈ regions, r.Short) :
    ((∃ payload, encode regions = .ok payload) ↔ ∀ r ∈ regions, r.Storable) ∧
    ((¬ ∀ r ∈ regions, r.Storable) → encode regions = .error .numberTooLarge) ∧
    ∀ payload, encode regions = .ok payload → decode payload = .ok regions := by
  refine ⟨⟨?_, encode_eq_ok hcount hshort⟩, encode_eq_error hcount hshort,
    fun _ => decode_of_encode⟩
  rintro ⟨payload, hok⟩
  by_contra h
  cases hok.symm.trans (encode_eq_error hcount hshort h)

/-- The greatest column is written and read back, the one after it is refused. -/
theorem encode_greatest_column :
    (∃ payload, encode [⟨"p", "# c", "x", ⟨0, 0⟩, ⟨0, maxNumber⟩⟩] = .ok payload ∧
      decode payload = .ok [⟨"p", "# c", "x", ⟨0, 0⟩, ⟨0, maxNumber⟩⟩]) ∧
    encode [⟨"p", "# c", "x", ⟨0, 0⟩, ⟨0, maxNumber + 1⟩⟩] = .error .numberTooLarge := by
  have hshort (n : Nat) : ∀ r ∈ [Region.mk "p" "# c" "x" ⟨0, 0⟩ ⟨0, n⟩], r.Short := by
    intro r hr
    obtain rfl := List.mem_singleton.1 hr
    change ∀ s ∈ ["p", "# c", "x"], _
    decide
  have hcount (n : Nat) : [Region.mk "p" "# c" "x" ⟨0, 0⟩ ⟨0, n⟩].length < lengthBound :=
    (by decide : 1 < lengthBound)
  obtain ⟨hok, -, hback⟩ := encode_round_trip (hcount maxNumber) (hshort maxNumber)
  obtain ⟨-, herror, -⟩ := encode_round_trip (hcount (maxNumber + 1)) (hshort (maxNumber + 1))
  refine ⟨?_, herror (by simp [Region.Storable, maxNumber])⟩
  obtain ⟨payload, hpayload⟩ := hok.2 (by simp [Region.Storable, maxNumber])
  exact ⟨payload, hpayload, hback payload hpayload⟩

end Snapshot

end Drift
