import Drift.Proofs.Utf8
import Drift.Proofs.Words
import Drift.Unicode.Case
import Mathlib.Data.Nat.ModEq

/-!
# Small letters stay as they are

* `Unicode.CaseRun.meets` — small forms of one run may belong to another run;
  `Unicode.capitals_apart` — none of them do.
* `Unicode.IsSmall` — a character that is its own small form;
  `Unicode.exists_lowerAfter_cons` — what becomes of the first character of a text.
* `Unicode.lowerAfter_of_small`, **`Unicode.lower_lower`** — a text in small letters stays as it is.
* `Unicode.IsCaseless` — signs, digits and blanks; `Unicode.mem_of_mem_lowerAfter`,
  `Unicode.head?_of_head?_lower`, `Unicode.getLast?_of_getLast?_lowerAfter` — they come from the text.
* `Unicode.mem_lowerAfter_of_mem`, `Unicode.head?_lower` — what is small in a text stays there.
-/

namespace Drift.Unicode

/-! ## Runs -/

namespace CaseRun

/-- The first small form of a run. -/
def smallFirst (r : CaseRun) : Nat := (r.first + r.shift).toNat

/-- The last small form of a run. -/
def smallLast (r : CaseRun) : Nat := (r.last + r.shift).toNat

/-- A small form of the run **may belong to another run**: the forms reach into the range of that
run, and it is not so that all of them fall between its letters. -/
def meets (r q : CaseRun) : Bool :=
  Nat.ble q.first r.smallLast && Nat.ble r.smallFirst q.last &&
    !((r.first == r.last || r.step % q.step == 0) && r.smallFirst % q.step != q.first % q.step)

/-- The small forms of a run are characters, and **no signs or digits**. -/
def GivesLetters (r : CaseRun) : Prop :=
  0x61 ≤ r.first + r.shift ∧
    (r.last + r.shift < 0xD800 ∨ 0xE000 ≤ r.first + r.shift ∧ r.last + r.shift < 0x110000)

instance (r : CaseRun) : Decidable r.GivesLetters := by unfold GivesLetters; infer_instance

variable {r q : CaseRun} {n : Nat}

theorem covers_iff : r.covers n = true ↔
    r.first ≤ n ∧ n ≤ r.last ∧ (n - r.first) % r.step = 0 := by
  simp [covers, and_assoc]

theorem between_of_not_meets (h : r.meets q = false) (hfirst : q.first ≤ r.smallLast)
    (hlast : r.smallFirst ≤ q.last) :
    (r.first = r.last ∨ q.step ∣ r.step) ∧ r.smallFirst % q.step ≠ q.first % q.step := by
  rw [meets, Nat.ble_eq_true_of_le hfirst, Nat.ble_eq_true_of_le hlast] at h
  simpa [Nat.dvd_iff_mod_eq_zero, or_iff_not_imp_left] using h

theorem GivesLetters.small_eq (h : r.GivesLetters) (hn : r.covers n = true) :
    (n + r.shift).toNat = r.smallFirst + (n - r.first) ∧ (n + r.shift).toNat ≤ r.smallLast := by
  obtain ⟨hfirst, hlast, -⟩ := covers_iff.1 hn
  obtain ⟨hlow, -⟩ := h
  unfold smallFirst smallLast
  omega

theorem GivesLetters.not_covers (hr : r.GivesLetters) (h : r.meets q = false)
    (hn : r.covers n = true) : q.covers (n + r.shift).toNat = false := by
  obtain ⟨hsmall, hle⟩ := hr.small_eq hn
  obtain ⟨hfirst, hlast, hstep⟩ := covers_iff.1 hn
  rw [Bool.eq_false_iff]
  intro hq
  obtain ⟨hqfirst, hqlast, hqstep⟩ := covers_iff.1 hq
  obtain ⟨hsteps, hne⟩ := between_of_not_meets h (by omega) (by omega)
  -- Whole steps of the other run lie between the first small form, this one and its own first
  -- letter.
  have hfromFirst : q.step ∣ n - r.first := by
    rcases hsteps with hsingle | hdvd
    · rw [(by omega : n - r.first = 0)]
      exact dvd_zero _
    · exact hdvd.trans (Nat.dvd_of_mod_eq_zero hstep)
  have hhere : (n + r.shift).toNat % q.step = r.smallFirst % q.step := by
    rw [hsmall, Nat.add_mod, Nat.mod_eq_zero_of_dvd hfromFirst, Nat.add_zero, Nat.mod_mod]
  have hthere : (n + r.shift).toNat % q.step = q.first % q.step :=
    ((Nat.modEq_iff_dvd' hqfirst).2 (Nat.dvd_of_mod_eq_zero hqstep)).symm
  exact hne (hhere.symm.trans hthere)

end CaseRun

/-- The letters that have a small form other than themselves, **the dotted capital I** included. -/
def capitals : List CaseRun := ⟨0x130, 0x130, 1, 0⟩ :: smallForms

theorem givesLetters : ∀ r ∈ smallForms, r.GivesLetters := by decide +kernel

/-- **No small form is a capital.** -/
theorem capitals_apart {r q : CaseRun} (hr : r ∈ smallForms) (hq : q ∈ capitals) :
    r.meets q = false := by
  have hall : (smallForms.all fun r => capitals.all fun q => !r.meets q) = true := by
    decide +kernel
  simp only [List.all_eq_true, Bool.not_eq_true'] at hall
  exact hall r hr q hq

/-- **No small form is a blank.** -/
theorem blanks_apart {r : CaseRun} (hr : r ∈ smallForms) :
    ∀ blank ∈ blanks, blank.2 < r.smallFirst ∨ r.smallLast < blank.1 := by
  have hall : ∀ r ∈ smallForms, ∀ blank ∈ blanks,
      blank.2 < r.smallFirst ∨ r.smallLast < blank.1 := by decide +kernel
  exact hall r hr

/-! ## Characters -/

/-- A sign, a digit or a blank. **No letter** has it as its small form. -/
def IsCaseless (c : Char) : Prop := c.toNat < 0x61 ∨ isBlank c = true

instance (c : Char) : Decidable (IsCaseless c) := by unfold IsCaseless; infer_instance

/-- A character that **is its own small form**. -/
def IsSmall (c : Char) : Prop := ∀ q ∈ capitals, q.covers c.toNat = false

instance (c : Char) : Decidable (IsSmall c) := by unfold IsSmall; infer_instance

theorem IsSmall.ne {c d : Char} (h : IsSmall c) (hd : ¬ IsSmall d) : (c == d) = false := by
  rw [beq_eq_false_iff_ne]
  rintro rfl
  exact hd h

theorem isSmall_of_isBlank {c : Char} (h : isBlank c = true) : IsSmall c := by
  have hapart : ∀ q ∈ capitals, ∀ blank ∈ blanks, blank.2 < q.first ∨ q.last < blank.1 := by
    decide +kernel
  obtain ⟨blank, hblank, hfrom, hto⟩ := CharSet.exists_range h
  intro q hq
  rw [Bool.eq_false_iff]
  intro hc
  obtain ⟨hfirst, hlast, -⟩ := CaseRun.covers_iff.1 hc
  have := hapart q hq blank hblank
  omega

theorem IsSmall.lowerChar_eq {c : Char} (h : IsSmall c) : lowerChar c = c := by
  have hnone : smallForms.find? (·.covers c.toNat) = none :=
    List.find?_eq_none.2 fun q hq => by simp [h q (List.mem_cons_of_mem _ hq)]
  rw [lowerChar, hnone]

theorem lowerChar_cases {c : Char} (h : c ≠ 'İ') :
    IsSmall (lowerChar c) ∧ (lowerChar c = c ∨ ¬ IsCaseless (lowerChar c)) := by
  unfold lowerChar
  split
  · next r hr =>
    have hmem := List.mem_of_find?_eq_some hr
    have hcovers : r.covers c.toNat = true := by simpa using List.find?_some hr
    have hletters := givesLetters r hmem
    obtain ⟨hsmall, hle⟩ := hletters.small_eq hcovers
    have hvalid : (c.toNat + r.shift).toNat.isValidChar := by
      obtain ⟨hlow, hrange⟩ := hletters
      unfold CaseRun.smallFirst at hsmall
      unfold CaseRun.smallLast at hle
      unfold Nat.isValidChar
      omega
    have hnat : (Char.ofNat (c.toNat + r.shift).toNat).toNat = (c.toNat + r.shift).toNat :=
      Utf8.toNat_ofNat hvalid
    refine ⟨fun q hq => ?_, .inr ?_⟩
    · rw [hnat]
      exact hletters.not_covers (capitals_apart hmem hq) hcovers
    · rintro (hsign | hblank)
      · obtain ⟨hlow, -⟩ := hletters
        unfold CaseRun.smallFirst at hsmall
        omega
      · obtain ⟨blank, hblank, hfrom, hto⟩ := CharSet.exists_range hblank
        have := blanks_apart hmem blank hblank
        omega
  · next hnone =>
    refine ⟨List.forall_mem_cons.2 ⟨?_, fun q hq => ?_⟩, .inl rfl⟩
    · rw [Bool.eq_false_iff]
      intro hc
      obtain ⟨hfirst, hlast, -⟩ := CaseRun.covers_iff.1 hc
      exact h (Char.toNat_inj.1 (Nat.le_antisymm hlast hfirst))
    · simpa using List.find?_eq_none.1 hnone q hq

/-! ## Texts -/

/-- What becomes of **the first character**: one or two small characters, which are signs, digits or
blanks only if it is one itself. -/
theorem exists_lowerAfter_cons (cased : Bool) (c : Char) (cs : List Char) :
    ∃ d part cased', lowerAfter cased (c :: cs) = d :: part ++ lowerAfter cased' cs ∧
      ∀ x ∈ d :: part, IsSmall x ∧ (x = c ∨ ¬ IsCaseless x) := by
  rw [lowerAfter]
  split
  · refine ⟨_, [], _, rfl, List.forall_mem_singleton.2 ?_⟩
    split <;> exact ⟨by decide +kernel, .inr (by decide)⟩
  split
  · refine ⟨_, ['\u0307'], _, rfl, ?_⟩
    simp only [List.forall_mem_cons]
    exact ⟨⟨by decide +kernel, .inr (by decide)⟩, ⟨by decide +kernel, .inr (by decide)⟩, nofun⟩
  · next hdotted =>
    have hc : c ≠ 'İ' := by simpa using hdotted
    exact ⟨_, [], _, rfl, List.forall_mem_singleton.2 (lowerChar_cases hc)⟩

theorem exists_lowerAfter_of_small {c : Char} (h : IsSmall c) (cased : Bool) (cs : List Char) :
    ∃ cased', lowerAfter cased (c :: cs) = c :: lowerAfter cased' cs := by
  have hsigma : (c == 'Σ') = false := h.ne (by decide +kernel)
  have hdotted : (c == 'İ') = false := h.ne (by decide +kernel)
  rw [lowerAfter]
  simp only [hsigma, hdotted, Bool.false_eq_true, if_false, h.lowerChar_eq]
  exact ⟨_, rfl⟩

theorem lowerAfter_of_small {s : List Char} (h : ∀ c ∈ s, IsSmall c) (cased : Bool) :
    lowerAfter cased s = s := by
  induction s generalizing cased with
  | nil => rfl
  | cons c s ih =>
    obtain ⟨hc, hs⟩ := List.forall_mem_cons.1 h
    obtain ⟨cased', heq⟩ := exists_lowerAfter_of_small hc cased s
    rw [heq, ih hs]

theorem isSmall_of_mem_lowerAfter {s : List Char} {cased : Bool} :
    ∀ c ∈ lowerAfter cased s, IsSmall c := by
  induction s generalizing cased with
  | nil => exact nofun
  | cons c s ih =>
    obtain ⟨d, part, cased', heq, hpart⟩ := exists_lowerAfter_cons cased c s
    rw [heq]
    intro x hx
    rcases List.mem_append.1 hx with hx | hx
    · exact (hpart x hx).1
    · exact ih x hx

/-- A text in small letters **stays as it is**. -/
theorem lower_lower (s : List Char) : lower (lower s) = lower s :=
  lowerAfter_of_small isSmall_of_mem_lowerAfter _

/-- What is small in a text **stays there**. -/
theorem mem_lowerAfter_of_mem {s : List Char} {c : Char} (h : c ∈ s) (hc : IsSmall c)
    (cased : Bool) : c ∈ lowerAfter cased s := by
  induction s generalizing cased with
  | nil => exact h
  | cons d s ih =>
    rcases List.mem_cons.1 h with rfl | h
    · obtain ⟨cased', heq⟩ := exists_lowerAfter_of_small hc cased s
      rw [heq]
      exact List.mem_cons_self
    · obtain ⟨x, part, cased', heq, -⟩ := exists_lowerAfter_cons cased d s
      rw [heq]
      exact List.mem_append_right _ (ih h cased')

/-- A sign, a digit or a blank in small letters **stands in the text**. -/
theorem mem_of_mem_lowerAfter {s : List Char} {cased : Bool} {c : Char}
    (h : c ∈ lowerAfter cased s) (hc : IsCaseless c) : c ∈ s := by
  induction s generalizing cased with
  | nil => exact h
  | cons d s ih =>
    obtain ⟨x, part, cased', heq, hpart⟩ := exists_lowerAfter_cons cased d s
    rw [heq] at h
    rcases List.mem_append.1 h with h | h
    · rcases (hpart c h).2 with rfl | hletter
      · exact List.mem_cons_self
      · exact absurd hc hletter
    · exact List.mem_cons_of_mem _ (ih h)

theorem head?_of_head?_lower {s : List Char} {c : Char} (h : (lower s).head? = some c)
    (hc : IsCaseless c) : s.head? = some c := by
  cases s with
  | nil => exact h
  | cons d s =>
    obtain ⟨x, part, cased', heq, hpart⟩ := exists_lowerAfter_cons false d s
    rw [lower, heq] at h
    obtain rfl := Option.some.inj h
    rcases (hpart x List.mem_cons_self).2 with rfl | hletter
    · rfl
    · exact absurd hc hletter

theorem head?_lower {s : List Char} {c : Char} (h : s.head? = some c) (hc : IsSmall c) :
    (lower s).head? = some c := by
  cases s with
  | nil => exact h
  | cons d s =>
    obtain rfl := Option.some.inj h
    obtain ⟨cased', heq⟩ := exists_lowerAfter_of_small hc false s
    rw [lower, heq]
    rfl

theorem lowerAfter_eq_nil_iff {s : List Char} {cased : Bool} :
    lowerAfter cased s = [] ↔ s = [] := by
  cases s with
  | nil => exact Iff.rfl
  | cons c s =>
    obtain ⟨d, part, cased', heq, -⟩ := exists_lowerAfter_cons cased c s
    simp [heq]

theorem getLast?_of_getLast?_lowerAfter {s : List Char} {cased : Bool} {c : Char}
    (h : (lowerAfter cased s).getLast? = some c) (hc : IsCaseless c) : s.getLast? = some c := by
  induction s generalizing cased with
  | nil => exact h
  | cons d s ih =>
    obtain ⟨x, part, cased', heq, hpart⟩ := exists_lowerAfter_cons cased d s
    rw [heq] at h
    cases s with
    | nil =>
      rw [lowerAfter, List.append_nil] at h
      rcases (hpart c (List.mem_of_getLast? h)).2 with rfl | hletter
      · rfl
      · exact absurd hc hletter
    | cons e s =>
      have hne : lowerAfter cased' (e :: s) ≠ [] := by simp [lowerAfter_eq_nil_iff]
      rw [List.getLast?_append_of_ne_nil _ hne] at h
      rw [List.getLast?_cons_cons]
      exact ih h

end Drift.Unicode
