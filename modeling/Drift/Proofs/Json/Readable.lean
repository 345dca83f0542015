import Drift.Proofs.Json.Number
import Drift.Proofs.Json.String
import Drift.Proofs.Keyed

/-!
# Values that can be read

* `Json.Readable` — a value that has a JSON text: its texts are proper, its whole numbers not too
  long, its undefined numbers the one that has a name, and no key of an object comes twice.
* **`Json.readable_of_parse`** — whatever is read is such a value.
-/

namespace Drift

/-! ## Doubles that are nearest -/

namespace Double

theorem not_nan_ofBits {negative : Bool} {bits : Nat} (h : bits ≤ 2047 <<< 52) :
    (ofBits negative bits).isNaN = false := by
  have hbound : bits ≤ 2047 * 2 ^ 52 := by rwa [Nat.shiftLeft_eq] at h
  have hsize : UInt64.size = 2 ^ 64 := rfl
  have hbits : (ofBits negative bits).bits.toNat = if negative then bits + 2 ^ 63 else bits := by
    unfold ofBits
    cases negative
    · exact UInt64.toNat_ofNat_of_lt' (by simp only [Bool.false_eq_true, if_false, hsize]; omega)
    · exact UInt64.toNat_ofNat_of_lt' (by simp only [if_true, hsize]; omega)
  unfold isNaN exponentField fraction
  rw [hbits]
  simp only [Nat.shiftRight_eq_div_pow, Nat.one_shiftLeft, Bool.and_eq_false_iff,
    beq_eq_false_iff_ne, bne_eq_false_iff_eq]
  cases negative <;> simp only [Bool.false_eq_true, if_false, if_true] <;> omega

theorem not_nan_ofRatio (negative : Bool) (num den : Nat) :
    (ofRatio negative num den).isNaN = false := by
  unfold ofRatio
  split
  · exact not_nan_ofBits (Nat.zero_le _)
  · simp only
    split
    · exact not_nan_ofBits le_rfl
    · next h => exact not_nan_ofBits (Nat.not_le.1 h).le

theorem not_nan_ofDecimal (negative : Bool) (digits : Nat) (exponent : Int) :
    (ofDecimal negative digits exponent).isNaN = false := by
  unfold ofDecimal
  split
  · exact not_nan_ofBits (Nat.zero_le _)
  · simp only
    split
    · exact not_nan_ofBits le_rfl
    · split
      · exact not_nan_ofBits (Nat.zero_le _)
      · split <;> exact not_nan_ofRatio ..

end Double

namespace Json

/-! ## Readable values -/

/-- A value **that can be read**. -/
inductive Readable : Value → Prop where
  | null : Readable .null
  | bool (b : Bool) : Readable (.bool b)
  | int {n : Int} (h : n.natAbs < 10 ^ digitLimit) : Readable (.int n)
  | float {x : Double} (h : x.isNaN = true → x = Double.nan) : Readable (.float x)
  | text {t : Text} (h : t.Proper) : Readable (.text t)
  | list {items : List Value} (h : ∀ v ∈ items, Readable v) : Readable (.list items)
  | object {members : Members} (hnodup : (members.map (·.1)).Nodup)
      (hkeys : ∀ m ∈ members, m.1.Proper) (h : ∀ m ∈ members, Readable m.2) :
      Readable (.object members)

theorem Readable.items {items : List Value} (h : Readable (.list items)) :
    ∀ v ∈ items, Readable v := by
  cases h with
  | list h => exact h

theorem Readable.nodup {members : Members} (h : Readable (.object members)) :
    (members.map (·.1)).Nodup := by
  cases h with
  | object hnodup _ _ => exact hnodup

theorem Readable.keys {members : Members} (h : Readable (.object members)) :
    ∀ m ∈ members, m.1.Proper := by
  cases h with
  | object _ hkeys _ => exact hkeys

theorem Readable.values {members : Members} (h : Readable (.object members)) :
    ∀ m ∈ members, Readable m.2 := by
  cases h with
  | object _ _ h => exact h

theorem Readable.put {members : Members} {key : Text} {v : Value} (h : Readable (.object members))
    (hkey : key.Proper) (hv : Readable v) : Readable (.object (Keyed.put key v members)) := by
  refine .object (Keyed.nodup_put key v h.nodup) (fun m hm => ?_) fun m hm => ?_
  · rcases Keyed.mem_put hm with rfl | hm
    · exact hkey
    · exact h.keys m hm
  · rcases Keyed.mem_put hm with rfl | hm
    · exact hv
    · exact h.values m hm

theorem Readable.ofPlain (members : List (String × Value))
    (hnodup : (members.map (·.1)).Nodup) (h : ∀ m ∈ members, Readable m.2) :
    Readable (.object (members.map fun m => (.plain m.1, m.2))) := by
  refine .object ?_ (fun m hm => ?_) fun m hm => ?_
  · have hkeys := hnodup.map (f := Text.plain) fun _ _ => Text.plain.inj
    rwa [List.map_map] at hkeys ⊢
  · obtain ⟨m, -, rfl⟩ := List.mem_map.1 hm
    exact Text.proper_plain m.1
  · obtain ⟨m, hmem, rfl⟩ := List.mem_map.1 hm
    exact h m hmem

/-! ## What is read -/

variable {s rest : List Char} {v : Value}

theorem digitsValue_lt {digits : List Char} (h : Digits digits) :
    digitsValue digits < 10 ^ digits.length := by
  induction digits using List.reverseRecOn with
  | nil => exact Nat.one_pos
  | append_singleton digits c ih =>
    have hlast : digitsValue [c] < 10 := by
      have hdigit : c.isDigit = true := h c (by simp)
      unfold Char.isDigit at hdigit
      simp only [ge_iff_le, Bool.and_eq_true, decide_eq_true_eq, UInt32.le_iff_toNat_le] at hdigit
      change 0 * 10 + (c.val.toNat - 48) < 10
      have hnine : '9'.val.toNat = 57 := rfl
      omega
    have hlt := ih fun d hd => h d (List.mem_append_left _ hd)
    rw [digitsValue_append, List.length_append, List.length_singleton, pow_one, pow_succ]
    omega

theorem wholePart_digits (s : List Char) : Digits (wholePart s).1 := by
  unfold wholePart
  split
  · simp [Digits]
  · intro c hc
    exact List.all_eq_true.1 List.all_takeWhile c hc

theorem readable_of_number {token : List Char} {negative : Bool}
    (h : number token negative s = .ok (v, rest)) : Readable v := by
  have hdigits := wholePart_digits s
  have hfloat (negative : Bool) (digits : Nat) (exponent : Int) :
      Readable (.float (Double.ofDecimal negative digits exponent)) :=
    .float fun hnan => absurd ((Double.not_nan_ofDecimal ..).symm.trans hnan) nofun
  have hint {whole : List Char} (hwhole : Digits whole) (hlimit : ¬ digitLimit < whole.length)
      (negative : Bool) :
      Readable (.int (if negative then -digitsValue whole else digitsValue whole)) := by
    have hlt : digitsValue whole < 10 ^ digitLimit :=
      (digitsValue_lt hwhole).trans_le (Nat.pow_le_pow_right (by decide) (Nat.not_lt.1 hlimit))
    refine .int ?_
    cases negative
    · exact hlt
    · simpa using hlt
  unfold number at h
  split at h
  · cases h
  · next whole _ _ hwhole =>
    rw [hwhole] at hdigits
    split at h
    split at h
    split at h
    · cases h
      exact hfloat ..
    · split at h
      · cases h
      · next hlimit =>
        cases h
        exact hint hdigits hlimit negative

theorem readable_names : ∀ entry ∈ names, Readable entry.2 := by
  intro entry hentry
  simp only [names, List.mem_cons, List.not_mem_nil, or_false] at hentry
  have hinfinity (negative : Bool) : Readable (.float (Double.infinity negative)) :=
    .float fun hnan => absurd ((Double.not_nan_ofBits le_rfl).symm.trans hnan) Bool.false_ne_true
  rcases hentry with rfl | rfl | rfl | rfl | rfl | rfl
  · exact .null
  · exact .bool _
  · exact .bool _
  · exact .float fun _ => rfl
  · exact hinfinity _
  · exact hinfinity _

theorem readable_of_scalar (h : scalar s = .ok (v, rest)) : Readable v := by
  unfold scalar at h
  split at h
  · next hname =>
    cases h
    unfold name? at hname
    obtain ⟨⟨name, w⟩, hmem, hfound⟩ := List.exists_of_findSome?_eq_some hname
    simp only [Option.ite_none_right_eq_some, Option.some.injEq, Prod.mk.injEq] at hfound
    obtain ⟨-, rfl, -⟩ := hfound
    exact readable_names _ hmem
  · split at h <;> exact readable_of_number h

theorem proper_of_string {opening : List Char} {t : Text}
    (h : stringOnto opening [] s = .ok (t, rest)) : t.Proper := by
  have hnone : ∀ point ∈ ([] : List Nat).head?, isHigh point = true → lowUnit? s = .ok none := nofun
  refine proper_of_stringOnto ?_ hnone h
  exact points_nil

/-! ## One more step -/

section

variable {fuel : Nat}

theorem readable_of_value_succ
    (hitems : ∀ {done s rest v}, (∀ w ∈ done, Readable w) → items fuel done s = .ok (v, rest) →
      Readable v)
    (hmembers : ∀ {done s rest v}, Readable (.object done) →
      members fuel done s = .ok (v, rest) → Readable v)
    (h : value (fuel + 1) s = .ok (v, rest)) : Readable v := by
  have hlist : Readable (.list []) := .list nofun
  have hobject : Readable (.object []) := .object List.nodup_nil nofun nofun
  unfold value at h
  split at h
  · split at h
    · cases h
    · next hstring =>
      cases h
      exact .text (proper_of_string hstring)
  · split at h
    · cases h
      exact hlist
    · exact hitems hlist.items h
  · split at h
    · cases h
      exact hobject
    · exact hmembers hobject h
  · exact readable_of_scalar h

variable (hvalue : ∀ {s rest v}, value fuel s = .ok (v, rest) → Readable v)

include hvalue

theorem readable_of_items_succ {done : List Value}
    (hitems : ∀ {done s rest v}, (∀ w ∈ done, Readable w) → items fuel done s = .ok (v, rest) →
      Readable v)
    (hdone : ∀ w ∈ done, Readable w) (h : items (fuel + 1) done s = .ok (v, rest)) :
    Readable v := by
  unfold items at h
  split at h
  · cases h
  next hv =>
  have hnext := List.forall_mem_cons.2 ⟨hvalue hv, hdone⟩
  split at h
  · exact hitems hnext h
  · cases h
    exact .list fun w hw => hnext w (List.mem_reverse.1 hw)
  · cases h

theorem readable_of_members_succ {done : Members}
    (hmembers : ∀ {done s rest v}, Readable (.object done) →
      members fuel done s = .ok (v, rest) → Readable v)
    (hdone : Readable (.object done)) (h : members (fuel + 1) done s = .ok (v, rest)) :
    Readable v := by
  unfold members at h
  split at h
  · split at h
    · cases h
    next hstring =>
    split at h
    · split at h
      · cases h
      next hv =>
      have hnext := hdone.put (proper_of_string hstring) (hvalue hv)
      split at h
      · exact hmembers hnext h
      · cases h
        exact hnext
      · cases h
    · cases h
  · cases h

end

theorem readable_of_value (fuel : Nat) :
    (∀ {s rest v}, value fuel s = .ok (v, rest) → Readable v) ∧
    (∀ {done s rest v}, (∀ w ∈ done, Readable w) → items fuel done s = .ok (v, rest) →
      Readable v) ∧
    ∀ {done s rest v}, Readable (.object done) → members fuel done s = .ok (v, rest) →
      Readable v := by
  induction fuel with
  | zero => exact ⟨nofun, fun _ => nofun, fun _ => nofun⟩
  | succ fuel ih =>
    obtain ⟨hvalue, hitems, hmembers⟩ := ih
    exact ⟨readable_of_value_succ hitems hmembers, readable_of_items_succ hvalue hitems,
      readable_of_members_succ hvalue hmembers⟩

/-- Whatever is read is **a value that can be read**. -/
theorem readable_of_parse {text : List Char} (h : parse text = .ok v) : Readable v := by
  unfold parse at h
  split at h
  · cases h
  · split at h
    · cases h
    · next hvalue =>
      split at h
      · cases h
        exact (readable_of_value _).1 hvalue
      · cases h

end Json

end Drift
