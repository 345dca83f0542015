import Drift.Json.Parser
import Drift.Json.Printer
import Drift.Proofs.Json.Text

/-!
# Strings as JSON

* `Json.unit?_hex` — four hexadecimal digits spell a unit.
* **`Json.stringOnto_points`** — the characters that are written for the code points of a proper
  text are read as these code points.
* **`Json.proper_of_stringOnto`** — whatever string is read is a proper text.
-/

namespace Drift.Json

variable {opening rest : List Char} {done : List Nat} {style : Style}

/-! ## Units -/

theorem hexValue?_digitChar : ∀ d < 16, hexValue? (Nat.digitChar d) = some d := by decide

theorem toDigits_step {n : Nat} (h : 16 ≤ n) :
    Nat.toDigits 16 n = Nat.toDigits 16 (n / 16) ++ [Nat.digitChar (n % 16)] :=
  Nat.toDigits_of_base_le (by decide) h

theorem hex_four {n : Nat} (h : n < 0x10000) : (hex 4 n).toList =
    [Nat.digitChar (n / 4096), Nat.digitChar (n / 256 % 16), Nat.digitChar (n / 16 % 16),
      Nat.digitChar (n % 16)] := by
  unfold hex
  rw [String.toList_ofList]
  -- Each digit but the first one is taken off at the end.
  rcases Nat.lt_or_ge n 16 with h₁ | h₁
  · rw [Nat.toDigits_of_lt_base h₁]
    have hdigits : n / 4096 = 0 ∧ n / 256 % 16 = 0 ∧ n / 16 % 16 = 0 ∧ n % 16 = n := by omega
    rw [hdigits.1, hdigits.2.1, hdigits.2.2.1, hdigits.2.2.2]
    rfl
  rw [toDigits_step h₁]
  rcases Nat.lt_or_ge (n / 16) 16 with h₂ | h₂
  · rw [Nat.toDigits_of_lt_base h₂]
    have hdigits : n / 4096 = 0 ∧ n / 256 % 16 = 0 ∧ n / 16 % 16 = n / 16 := by omega
    rw [hdigits.1, hdigits.2.1, hdigits.2.2]
    rfl
  rw [toDigits_step h₂, Nat.div_div_eq_div_mul]
  rcases Nat.lt_or_ge (n / 256) 16 with h₃ | h₃
  · rw [Nat.toDigits_of_lt_base h₃]
    have hdigits : n / 4096 = 0 ∧ n / 256 % 16 = n / 256 := by omega
    rw [hdigits.1, hdigits.2]
    rfl
  rw [toDigits_step h₃, Nat.div_div_eq_div_mul, Nat.toDigits_of_lt_base (by omega)]
  rfl

theorem unit?_hex {n : Nat} (h : n < 0x10000) (hrest : rest ≠ []) :
    unit? ((hex 4 n).toList ++ rest) = some (n, rest) := by
  obtain ⟨next, tail, rfl⟩ := List.exists_cons_of_ne_nil hrest
  rw [hex_four h]
  simp only [List.cons_append, List.nil_append, unit?]
  rw [hexValue?_digitChar _ (by omega), hexValue?_digitChar _ (by omega),
    hexValue?_digitChar _ (by omega), hexValue?_digitChar _ (by omega)]
  simp only [Option.bind_eq_bind, Option.bind_some, Option.pure_def, Option.some.injEq,
    Prod.mk.injEq, and_true]
  omega

/-! ## One step -/

theorem stringOnto_quote : stringOnto opening done ('"' :: rest)
    = .ok (Text.ofPoints done.reverse, rest) := by
  rw [stringOnto]
  rfl

theorem stringOnto_escape {point : Nat} {after : List Char}
    (h : escape opening rest = .ok (point, after)) :
    stringOnto opening done ('\\' :: rest) = stringOnto opening (point :: done) after := by
  rw [stringOnto, if_neg (by decide), if_pos (by decide)]
  split
  · next hfault => rw [h] at hfault; cases hfault
  · next hpoint => rw [h] at hpoint; cases hpoint; rfl

theorem stringOnto_char {c : Char} (hquote : c ≠ '"') (hslash : c ≠ '\\') (h : 0x20 ≤ c.toNat) :
    stringOnto opening done (c :: rest) = stringOnto opening (c.toNat :: done) rest := by
  rw [stringOnto, if_neg (by simpa using hquote), if_neg (by simpa using hslash),
    if_neg (by omega)]

/-! ## Reading what is written -/

theorem unitEscape_append (n : Nat) :
    unitEscape n ++ rest = '\\' :: 'u' :: ((hex 4 n).toList ++ rest) := rfl

theorem lowUnit?_eq {n : Nat} (h : n < 0x10000) (hrest : rest ≠ []) :
    lowUnit? (unitEscape n ++ rest) = .ok (if isLow n then some (n, rest) else none) := by
  have hunit := unit?_hex h hrest
  obtain ⟨next, tail, rfl⟩ := List.exists_cons_of_ne_nil hrest
  unfold unitEscape
  rw [hex_four h] at hunit ⊢
  simp only [List.cons_append, List.nil_append, lowUnit?] at hunit ⊢
  rw [hunit]
  rfl

theorem lowUnit?_of_ne {c : Char} (h : c ≠ '\\') : lowUnit? (c :: rest) = .ok none := by
  unfold lowUnit?
  split
  · next heq => exact absurd (List.cons.inj heq).1 h
  · rfl

theorem lowUnit?_letter {c : Char} (h : c ≠ 'u') : lowUnit? ('\\' :: c :: rest) = .ok none := by
  unfold lowUnit?
  split
  · next heq => exact absurd (List.cons.inj (List.cons.inj heq).2).1 h
  · rfl

/-- What is written for a character: itself, an escape of one letter, or units. -/
inductive Written (c : Char) : List Char → Prop where
  | self (hquote : c ≠ '"') (hslash : c ≠ '\\') (h : 0x20 ≤ c.toNat) : Written c [c]
  | letter {d : Char} (hu : d ≠ 'u') (h : letterEscape? d = some c) : Written c ['\\', d]
  | units : Written c (escaped c)

theorem written_stringChar (style : Style) (c : Char) : Written c (stringChar style c) := by
  unfold stringChar
  split_ifs with hquote hslash hn hr ht hb hf hcontrol hbeyond
  · obtain rfl := eq_of_beq hquote
    exact .letter (by decide) rfl
  · obtain rfl := eq_of_beq hslash
    exact .letter (by decide) rfl
  · obtain rfl := eq_of_beq hn
    exact .letter (by decide) rfl
  · obtain rfl := eq_of_beq hr
    exact .letter (by decide) rfl
  · obtain rfl := eq_of_beq ht
    exact .letter (by decide) rfl
  · obtain rfl := eq_of_beq hb
    exact .letter (by decide) rfl
  · obtain rfl := eq_of_beq hf
    exact .letter (by decide) rfl
  · exact .units
  · exact .units
  · exact .self (by simpa using hquote) (by simpa using hslash) (by omega)

theorem pair_of_beyond {n : Nat} (hlow : 0x10000 ≤ n) (hhigh : n < 0x110000) :
    isHigh (0xD800 + (n - 0x10000) / 1024) = true ∧
      isLow (0xDC00 + (n - 0x10000) % 1024) = true := by
  unfold isHigh isLow
  simp only [Bool.and_eq_true, decide_eq_true_eq]
  omega

theorem lowUnit?_stringPoint {point : Nat} (hvalid : point < 0x110000) (hlow : isLow point = false)
    (hrest : rest ≠ []) : lowUnit? (stringPoint style point ++ rest) = .ok none := by
  have hunit {n : Nat} {rest : List Char} (h : n < 0x10000) (hlow : isLow n = false)
      (hrest : rest ≠ []) : lowUnit? (unitEscape n ++ rest) = .ok none := by
    rw [lowUnit?_eq h hrest, hlow]
    rfl
  unfold stringPoint
  split
  · next hhalf =>
    unfold isHalf at hhalf
    simp only [Bool.and_eq_true, decide_eq_true_eq] at hhalf
    exact hunit (by omega) hlow hrest
  · next hhalf =>
    have hpoint := toNat_ofNat hvalid (Bool.eq_false_iff.2 hhalf)
    have hwritten := written_stringChar style (Char.ofNat point)
    generalize stringChar style (Char.ofNat point) = text at hwritten ⊢
    cases hwritten with
    | self _ hslash => exact lowUnit?_of_ne hslash
    | letter hu => exact lowUnit?_letter hu
    | units =>
      unfold escaped
      rw [hpoint]
      simp only
      split
      · next hsmall => exact hunit hsmall hlow hrest
      · next hlarge =>
        have hpair := (pair_of_beyond (Nat.not_lt.1 hlarge) hvalid).1
        unfold isHigh at hpair
        simp only [Bool.and_eq_true, decide_eq_true_eq] at hpair
        rw [List.append_assoc]
        refine hunit (by omega) ?_ (List.append_ne_nil_of_left_ne_nil (List.cons_ne_nil _ _) _)
        unfold isLow
        rw [Bool.and_eq_false_iff, decide_eq_false_iff_not]
        exact .inl (by omega)

theorem escape_unit {n : Nat} (h : n < 0x10000) (hrest : rest ≠ [])
    (hpair : isHigh n = true → lowUnit? rest = .ok none) :
    escape opening ('u' :: ((hex 4 n).toList ++ rest)) = .ok (n, rest) := by
  unfold escape
  simp only [unit?_hex h hrest]
  split
  · rfl
  · next hhigh =>
    have hhigh : isHigh n = true := by
      unfold isHigh
      simp only [Bool.or_eq_true, decide_eq_true_eq, not_or] at hhigh
      simp only [Bool.and_eq_true, decide_eq_true_eq]
      omega
    rw [hpair hhigh]

theorem escape_letter {c d : Char} (hu : d ≠ 'u') (h : letterEscape? d = some c) :
    escape opening (d :: rest) = .ok (c.toNat, rest) := by
  unfold escape
  split
  · next heq => cases heq
  · next heq => exact absurd (List.cons.inj heq).1 hu
  · next heq =>
    cases heq
    rw [h]

theorem escape_pair {n : Nat} (hlow : 0x10000 ≤ n) (hhigh : n < 0x110000) (hrest : rest ≠ []) :
    escape opening ('u' :: ((hex 4 (0xD800 + (n - 0x10000) / 1024)).toList
      ++ (unitEscape (0xDC00 + (n - 0x10000) % 1024) ++ rest))) = .ok (n, rest) := by
  obtain ⟨hfirst, hsecond⟩ := pair_of_beyond hlow hhigh
  have hsecond' := lowUnit?_eq (n := 0xDC00 + (n - 0x10000) % 1024) (by omega) hrest
  have hfirst' : unit? ((hex 4 (0xD800 + (n - 0x10000) / 1024)).toList
      ++ (unitEscape (0xDC00 + (n - 0x10000) % 1024) ++ rest)) = some (0xD800 + (n - 0x10000) / 1024,
        unitEscape (0xDC00 + (n - 0x10000) % 1024) ++ rest) :=
    unit?_hex (by omega) (List.append_ne_nil_of_left_ne_nil (List.cons_ne_nil _ _) _)
  rw [hsecond, if_pos rfl] at hsecond'
  unfold escape
  simp only [hfirst', hsecond']
  have hhigh : (decide (0xD800 + (n - 0x10000) / 1024 < 0xD800)
      || decide (0xDC00 ≤ 0xD800 + (n - 0x10000) / 1024)) = false := by
    simp only [Bool.or_eq_false_iff, decide_eq_false_iff_not]
    omega
  have hsum : 0x10000 + (0xD800 + (n - 0x10000) / 1024 - 0xD800) * 1024
      + (0xDC00 + (n - 0x10000) % 1024 - 0xDC00) = n := by omega
  rw [hhigh, hsum]
  rfl

theorem stringOnto_stringPoint {point : Nat} (hvalid : point < 0x110000) (hrest : rest ≠ [])
    (hpair : isHigh point = true → lowUnit? rest = .ok none) :
    stringOnto opening done (stringPoint style point ++ rest)
      = stringOnto opening (point :: done) rest := by
  unfold stringPoint
  split
  · next hhalf =>
    unfold isHalf at hhalf
    simp only [Bool.and_eq_true, decide_eq_true_eq] at hhalf
    rw [unitEscape_append]
    exact stringOnto_escape (escape_unit (by omega) hrest hpair)
  · next hhalf =>
    have hpoint := toNat_ofNat hvalid (Bool.eq_false_iff.2 hhalf)
    have hwritten := written_stringChar style (Char.ofNat point)
    generalize stringChar style (Char.ofNat point) = text at hwritten ⊢
    cases hwritten with
    | self hquote hslash hle =>
      rw [List.singleton_append, stringOnto_char hquote hslash hle, hpoint]
    | @letter d hu hletter =>
      rw [List.cons_append, List.singleton_append, ← hpoint]
      exact stringOnto_escape (escape_letter hu hletter)
    | units =>
      unfold escaped
      rw [hpoint]
      simp only
      split
      · next hsmall =>
        rw [unitEscape_append]
        exact stringOnto_escape (escape_unit hsmall hrest hpair)
      · next hlarge =>
        rw [List.append_assoc, unitEscape_append]
        exact stringOnto_escape (escape_pair (Nat.not_lt.1 hlarge) hvalid hrest)

/-- The characters that are written for the code points of a text **are read as these**. -/
theorem stringOnto_points {points : List Nat} (h : Points points) :
    stringOnto opening done (points.flatMap (stringPoint style) ++ '"' :: rest)
      = .ok (Text.ofPoints (done.reverse ++ points), rest) := by
  induction points generalizing done with
  | nil => rw [List.append_nil]; exact stringOnto_quote
  | cons point points ih =>
    have hnext : isHigh point = true →
        lowUnit? (points.flatMap (stringPoint style) ++ '"' :: rest) = .ok none := by
      intro hhigh
      cases points with
      | nil => exact lowUnit?_of_ne (by decide)
      | cons next points =>
        have hapart := (List.isChain_cons_cons.1 h.apart).1
        rw [List.flatMap_cons, List.append_assoc]
        exact lowUnit?_stringPoint (h.valid next (by simp))
          (Bool.eq_false_iff.2 fun hlow => hapart ⟨hhigh, hlow⟩)
          (List.append_ne_nil_of_right_ne_nil _ (List.cons_ne_nil _ _))
    rw [List.flatMap_cons, List.append_assoc, stringOnto_stringPoint (h.valid point (by simp))
      (List.append_ne_nil_of_right_ne_nil _ (List.cons_ne_nil _ _)) hnext, ih h.tail,
      List.reverse_cons, List.append_assoc, List.singleton_append]

/-! ## Writing -/

theorem put_eq (s done : List Char) : put s done = s.reverse ++ done := List.reverseAux_eq ..

theorem foldl_put {α : Type} (f : α → List Char) (items : List α) (done : List Char) :
    items.foldl (fun done item => put (f item) done) done = (items.flatMap f).reverse ++ done := by
  induction items generalizing done with
  | nil => rfl
  | cons item items ih =>
    rw [List.foldl_cons, ih, put_eq, List.flatMap_cons, List.reverse_append, List.append_assoc]

theorem putText_eq (style : Style) (done : List Char) (t : Text) :
    putText style done t = (t.points.flatMap (stringPoint style)).reverse ++ done := by
  cases t with
  | broken points => exact foldl_put ..
  | plain s =>
    have hpoints : (Text.plain s).points.flatMap (stringPoint style)
        = s.toList.flatMap (stringChar style) := by
      rw [Text.points, List.flatMap_map]
      refine List.flatMap_congr fun c _ => ?_
      unfold stringPoint
      rw [isHalf_toNat, if_neg Bool.false_ne_true, Char.ofNat_toNat]
    rw [hpoints]
    exact foldl_put ..

/-! ## Strings that are read -/

theorem lt_of_hexValue? {c : Char} {n : Nat} (h : hexValue? c = some n) : n < 16 := by
  have hle (d : Char) : c ≤ d ↔ c.toNat ≤ d.toNat := Iff.rfl
  have hnine : '9'.toNat = 57 := rfl
  have hsmall : 'f'.toNat = 102 := rfl
  have hlarge : 'F'.toNat = 70 := rfl
  unfold hexValue? at h
  simp only [Bool.and_eq_true, decide_eq_true_eq, hle, hnine, hsmall, hlarge] at h
  split_ifs at h
  all_goals
    cases h
    omega

theorem lt_of_unit? {s after : List Char} {n : Nat} (h : unit? s = some (n, after)) :
    n < 0x10000 := by
  unfold unit? at h
  split at h
  · simp only [Option.pure_def, Option.bind_eq_bind, Option.bind_eq_some_iff, Option.some.injEq,
      Prod.mk.injEq] at h
    obtain ⟨a, ha, b, hb, c, hc, d, hd, rfl, -⟩ := h
    have ha := lt_of_hexValue? ha
    have hb := lt_of_hexValue? hb
    have hc := lt_of_hexValue? hc
    have hd := lt_of_hexValue? hd
    omega
  · cases h

theorem not_half_of_le {point : Nat} (h : 0xE000 ≤ point) :
    isHigh point = false ∧ isLow point = false := by
  unfold isHigh isLow
  simp only [Bool.and_eq_false_iff, decide_eq_false_iff_not]
  omega

theorem lowUnit?_of_unit? {s after : List Char} {n : Nat} (h : unit? s = some (n, after)) :
    lowUnit? ('\\' :: 'u' :: s) = .ok (if isLow n then some (n, after) else none) := by
  unfold lowUnit?
  split
  · next heq =>
    cases heq
    rw [h]
    rfl
  · next hshort =>
    unfold unit? at h
    split at h
    · exact absurd rfl (hshort _ _ _ _ _ _)
    · cases h

theorem isLow_of_lowUnit? {s after : List Char} {n : Nat} (h : lowUnit? s = .ok (some (n, after))) :
    isLow n = true := by
  unfold lowUnit? at h
  split at h
  · split at h
    · cases h
    · simp only [Except.ok.injEq, Option.ite_none_right_eq_some, Option.some.injEq,
        Prod.mk.injEq] at h
      obtain ⟨hlow, rfl, -⟩ := h
      exact hlow
  · cases h

theorem not_low_of_lowUnit? {s after : List Char} {n : Nat} (h : unit? s = some (n, after))
    (hnone : lowUnit? ('\\' :: 'u' :: s) = .ok none) : isLow n = false := by
  rw [lowUnit?_of_unit? h] at hnone
  refine Bool.eq_false_iff.2 fun hlow => ?_
  rw [hlow] at hnone
  cases hnone

theorem pair_range {high low : Nat} (hhigh : isHigh high = true) (hlow : isLow low = true) :
    0xE000 ≤ 0x10000 + (high - 0xD800) * 1024 + (low - 0xDC00) ∧
      0x10000 + (high - 0xD800) * 1024 + (low - 0xDC00) < 0x110000 := by
  unfold isHigh at hhigh
  unfold isLow at hlow
  simp only [Bool.and_eq_true, decide_eq_true_eq] at hhigh hlow
  omega

theorem not_low_of_high {n : Nat} (h : isHigh n = true) : isLow n = false := by
  unfold isHigh at h
  unfold isLow
  simp only [Bool.and_eq_true, decide_eq_true_eq] at h
  rw [Bool.and_eq_false_iff, decide_eq_false_iff_not]
  exact .inl (by omega)

/-- What an escape spells: no first half of a pair whose second half follows, and no second half
where there is none by looking ahead. -/
theorem escape_spec {s after : List Char} {point : Nat} (h : escape opening s = .ok (point, after)) :
    point < 0x110000 ∧ (isHigh point = true → lowUnit? after = .ok none) ∧
      (lowUnit? ('\\' :: s) = .ok none → isLow point = false) := by
  unfold escape at h
  split at h
  · cases h
  · split at h
    · cases h
    next n next hunit =>
    have hn := lt_of_unit? hunit
    have hsingle : (decide (n < 0xD800) || decide (0xDC00 ≤ n)) = !isHigh n := by
      simp only [isHigh, Bool.not_and, ← decide_not, Nat.not_le, Nat.not_lt]
    rw [hsingle] at h
    cases hhigh : isHigh n with
    | false =>
      rw [hhigh] at h
      cases h
      exact ⟨by omega, fun h => absurd (hhigh.symm.trans h) nofun, not_low_of_lowUnit? hunit⟩
    | true =>
      rw [hhigh] at h
      simp only [Bool.not_true, Bool.false_eq_true, if_false] at h
      split at h
      · cases h
      · next hnone =>
        cases h
        exact ⟨by omega, fun _ => hnone, fun _ => not_low_of_high hhigh⟩
      · next m _ hsecond =>
        obtain ⟨hge, hlt⟩ := pair_range hhigh (isLow_of_lowUnit? hsecond)
        simp only [Except.ok.injEq, Prod.mk.injEq] at h
        obtain ⟨rfl, rfl⟩ := h
        obtain ⟨hhigh, hlow⟩ := not_half_of_le hge
        exact ⟨hlt, fun h => absurd (hhigh.symm.trans h) nofun, fun _ => hlow⟩
  · split at h
    · cases h
    · next c _ =>
      cases h
      have hno := isHalf_toNat c
      rw [isHalf_eq, Bool.or_eq_false_iff] at hno
      refine ⟨toNat_lt c, fun hhigh => ?_, fun _ => hno.2⟩
      rw [hno.1] at hhigh
      cases hhigh

/-- A string that is read is **a proper text**. -/
theorem proper_of_stringOnto {s : List Char} {t : Text} (hdone : Points done.reverse)
    (hhead : ∀ point ∈ done.head?, isHigh point = true → lowUnit? s = .ok none)
    (h : stringOnto opening done s = .ok (t, rest)) : t.Proper := by
  have hlast {done : List Nat} {point : Nat} (hlow : ∀ last ∈ done.head?,
      isHigh last = true → isLow point = false) :
      ∀ last ∈ done.reverse.getLast?, ¬ (isHigh last = true ∧ isLow point = true) := by
    intro last hlast hpair
    rw [List.getLast?_reverse] at hlast
    have hno := hlow last hlast hpair.1
    rw [hpair.2] at hno
    cases hno
  fun_induction stringOnto opening done s with
  | case1 => cases h
  | case2 =>
    cases h
    exact ⟨_, hdone, rfl⟩
  | case3 => cases h
  | case4 done c rest hquote hslash point after hescape ih =>
    obtain rfl := eq_of_beq hslash
    obtain ⟨hvalid, hhigh, hlow⟩ := escape_spec hescape
    refine ih ?_ (fun _ hpoint => by cases hpoint; exact hhigh) h
    rw [List.reverse_cons]
    exact hdone.snoc hvalid (hlast fun last hmem hlast => hlow (hhead last hmem hlast))
  | case5 => cases h
  | case6 done c rest hquote hslash hcontrol ih =>
    have hno := isHalf_toNat c
    rw [isHalf_eq, Bool.or_eq_false_iff] at hno
    refine ih ?_ (fun _ hpoint hhigh => ?_) h
    · rw [List.reverse_cons]
      exact hdone.snoc (toNat_lt c) (hlast fun _ _ _ => hno.2)
    · cases hpoint
      rw [hno.1] at hhigh
      cases hhigh

end Drift.Json
