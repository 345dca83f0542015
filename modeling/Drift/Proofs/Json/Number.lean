import Drift.Json.Parser
import Drift.Json.Printer
import Drift.Proofs.Double.Shortest
import Drift.Proofs.Words

/-!
# Numbers as JSON

* `Json.Stops` — no number goes on here.
* `Json.Decimal`, `Json.number_of_decimal` — the forms of a number with a fraction or an exponent,
  and how they are read.
* **`Json.scalar_of_int`**, **`Json.scalar_of_float`** — numbers are read as what was written.
-/

namespace Drift.Json

variable {digits rest : List Char} {token : List Char} {negative : Bool}

/-! ## Digits -/

/-- **No number goes on** here. -/
def Stops (rest : List Char) : Prop :=
  ∀ c ∈ rest.head?, c.isDigit = false ∧ c ≠ '.' ∧ c ≠ 'e' ∧ c ≠ 'E'

/-- The characters are decimal digits. -/
def Digits (digits : List Char) : Prop := ∀ c ∈ digits, c.isDigit = true

theorem digits_toDigits (n : Nat) : Digits (Nat.toDigits 10 n) := fun _ hc =>
  Nat.isDigit_of_mem_toDigits (by decide) (by decide) hc

theorem digitsValue_eq (digits : List Char) :
    digitsValue digits = Nat.ofDigitChars 10 digits 0 := by
  rw [Nat.ofDigitChars_eq_foldl, digitsValue]
  congr 1
  funext n c
  rw [Nat.mul_comm]
  rfl

theorem digitsValue_append (digits more : List Char) :
    digitsValue (digits ++ more) = digitsValue digits * 10 ^ more.length + digitsValue more := by
  rw [digitsValue_eq, digitsValue_eq, digitsValue_eq, Nat.ofDigitChars_append,
    Nat.ofDigitChars_eq_ofDigitChars_zero, Nat.mul_comm]

theorem digitsValue_toDigits (n : Nat) : digitsValue (Nat.toDigits 10 n) = n := by
  rw [digitsValue_eq, Nat.ofDigitChars_ten_toDigits]

theorem digitsValue_zeros (count : Nat) : digitsValue (List.replicate count '0') = 0 := by
  rw [digitsValue_eq, Nat.ofDigitChars_replicate_zero, Nat.mul_zero]

/-! ## The parts of a number -/

/-- Digits of a **whole part**: a zero alone, or digits that begin with another. -/
structure Whole (digits : List Char) : Prop where
  allDigits : Digits digits
  notEmpty : digits ≠ []
  head : digits.head? = some '0' → digits = ['0']

theorem wholePart_append (h : Whole digits) (hrest : ∀ c ∈ rest.head?, c.isDigit = false) :
    wholePart (digits ++ rest) = (digits, rest) := by
  unfold wholePart
  split
  · next tail heq =>
    cases digits with
    | nil => exact absurd rfl h.notEmpty
    | cons c more =>
      cases heq
      obtain rfl : more = [] := (List.cons.inj (h.head rfl)).2
      rfl
  · rw [takeWhile_run h.allDigits hrest, dropWhile_run h.allDigits hrest]

theorem fractionPart_append (h : Digits digits) (hne : digits ≠ [])
    (hrest : ∀ c ∈ rest.head?, c.isDigit = false) :
    fractionPart ('.' :: (digits ++ rest)) = some (digits, rest) := by
  unfold fractionPart
  simp only [takeWhile_run h hrest, dropWhile_run h hrest]

theorem fractionPart_none (h : ∀ c ∈ rest.head?, c ≠ '.') : fractionPart rest = none := by
  unfold fractionPart
  split
  · exact absurd rfl (h '.' rfl)
  · rfl

/-- The sign of an exponent. -/
def signOf : Bool → Char × Int
  | true => ('-', -1)
  | false => ('+', 1)

theorem exponentPart_append (below : Bool) (h : Digits digits) (hne : digits ≠ [])
    (hrest : ∀ c ∈ rest.head?, c.isDigit = false) :
    exponentPart ('e' :: (signOf below).1 :: (digits ++ rest))
      = some ((signOf below).2 * digitsValue digits, rest) := by
  unfold exponentPart
  cases below <;>
    simp only [signOf, beq_self_eq_true, Bool.true_or, if_true, takeWhile_run h hrest,
      dropWhile_run h hrest]

theorem exponentPart_none (h : ∀ c ∈ rest.head?, c ≠ 'e' ∧ c ≠ 'E') : exponentPart rest = none := by
  unfold exponentPart
  cases rest with
  | nil => rfl
  | cons c rest =>
    obtain ⟨he, hE⟩ := h c rfl
    simp [he, hE]

/-! ## Reading numbers -/

/-- A fraction, if there are digits of one. -/
def pointed : List Char → List Char
  | [] => []
  | digits => '.' :: digits

/-- An exponent, if there is one: whether it is negative, and its digits. -/
def powered : Option (Bool × List Char) → List Char
  | none => []
  | some (below, digits) => 'e' :: (signOf below).1 :: digits

/-- The value of an exponent. -/
def powerOf : Option (Bool × List Char) → Int
  | none => 0
  | some (below, digits) => (signOf below).2 * digitsValue digits

variable {whole fraction : List Char} {power : Option (Bool × List Char)}

theorem head_powered (hrest : Stops rest) :
    ∀ c ∈ (powered power ++ rest).head?, c.isDigit = false ∧ c ≠ '.' := by
  cases power with
  | none => exact fun c hc => ⟨(hrest c hc).1, (hrest c hc).2.1⟩
  | some power =>
    intro c hc
    cases hc
    exact ⟨rfl, by decide⟩

theorem head_pointed (hrest : Stops rest) :
    ∀ c ∈ (pointed fraction ++ (powered power ++ rest)).head?, c.isDigit = false := by
  cases fraction with
  | nil => exact fun c hc => (head_powered hrest c hc).1
  | cons d fraction =>
    intro c hc
    cases hc
    rfl

theorem exponentPart_powered (hpower : ∀ below digits, power = some (below, digits) →
    Digits digits ∧ digits ≠ []) (hrest : Stops rest) :
    exponentPart (powered power ++ rest) = power.map fun _ => (powerOf power, rest) := by
  cases power with
  | none => exact exponentPart_none fun c hc => (hrest c hc).2.2
  | some power =>
    obtain ⟨below, digits⟩ := power
    obtain ⟨hdigits, hne⟩ := hpower _ _ rfl
    exact exponentPart_append below hdigits hne fun c hc => (hrest c hc).1

theorem fractionPart_pointed (hfraction : Digits fraction) (hrest : Stops rest) :
    fractionPart (pointed fraction ++ (powered power ++ rest))
      = if fraction = [] then none else some (fraction, powered power ++ rest) := by
  cases fraction with
  | nil => exact fractionPart_none fun c hc => (head_powered hrest c hc).2
  | cons d fraction =>
    rw [if_neg (List.cons_ne_nil _ _)]
    exact fractionPart_append hfraction (List.cons_ne_nil _ _) fun c hc => (head_powered hrest c hc).1

theorem number_of_parts (hwhole : Whole whole) (hfraction : Digits fraction)
    (hpower : ∀ below digits, power = some (below, digits) → Digits digits ∧ digits ≠ [])
    (hmark : fraction ≠ [] ∨ power ≠ none) (hrest : Stops rest) :
    number token negative (whole ++ (pointed fraction ++ (powered power ++ rest)))
      = .ok (.float (Double.ofDecimal negative (digitsValue (whole ++ fraction))
          (powerOf power - fraction.length)), rest) := by
  have hne := hwhole.notEmpty
  unfold number
  rw [wholePart_append hwhole (head_pointed hrest)]
  cases whole with
  | nil => exact absurd rfl hne
  | cons d whole =>
    simp only [fractionPart_pointed hfraction hrest]
    by_cases hempty : fraction = []
    · subst hempty
      obtain ⟨power, rfl⟩ := Option.ne_none_iff_exists'.1 (hmark.resolve_left (absurd rfl))
      simp only [if_true, pointed, List.nil_append, exponentPart_powered hpower hrest]
      rfl
    · simp only [if_neg hempty, exponentPart_powered hpower hrest]
      cases power <;> rfl

theorem number_of_whole (hwhole : Whole whole) (hlimit : whole.length ≤ digitLimit)
    (hrest : Stops rest) : number token negative (whole ++ rest)
      = .ok (.int (if negative then -digitsValue whole else digitsValue whole), rest) := by
  have hne := hwhole.notEmpty
  unfold number
  rw [wholePart_append hwhole fun c hc => (hrest c hc).1]
  cases whole with
  | nil => exact absurd rfl hne
  | cons d whole =>
    have hnofraction : fractionPart rest = none := fractionPart_none fun c hc => (hrest c hc).2.1
    have hnoexponent : exponentPart rest = none := exponentPart_none fun c hc => (hrest c hc).2.2
    simp only [hnofraction, hnoexponent, Bool.or_self, Bool.false_eq_true, if_false,
      if_neg (Nat.not_lt.2 hlimit)]

/-! ## Writing digits -/

theorem head_toDigits {n : Nat} (h : 0 < n) : (Nat.toDigits 10 n).head? ≠ some '0' := by
  induction n using Nat.strongRecOn with
  | ind n ih =>
    rw [Nat.toDigits_eq_if (by decide)]
    split
    · next hlt =>
      have hdigit : ∀ n < 10, 0 < n → some n.digitChar ≠ some '0' := by decide
      exact hdigit n hlt h
    · rw [List.head?_append_of_ne_nil _ Nat.toDigits_ne_nil]
      exact ih (n / 10) (by omega) (by omega)

theorem whole_toDigits (n : Nat) : Whole (Nat.toDigits 10 n) where
  allDigits := digits_toDigits n
  notEmpty := Nat.toDigits_ne_nil
  head h := by
    rcases Nat.eq_zero_or_pos n with rfl | hpos
    · rfl
    · exact absurd h (head_toDigits hpos)

theorem exists_trim (digits : List Char) :
    ∃ count, digits = Double.trim digits ++ List.replicate count '0' := by
  have hsplit := List.takeWhile_append_dropWhile (p := (· == '0')) (l := digits.reverse)
  have hzeros : digits.reverse.takeWhile (· == '0')
      = List.replicate (digits.reverse.takeWhile (· == '0')).length '0' :=
    List.eq_replicate_of_mem fun c hc => eq_of_beq (List.all_eq_true.1 List.all_takeWhile c hc)
  refine ⟨(digits.reverse.takeWhile (· == '0')).length, ?_⟩
  rw [Double.trim, ← List.reverse_replicate, ← hzeros, ← List.reverse_append, hsplit,
    List.reverse_reverse]

/-- Digits that **begin a number**: the first one is no zero. -/
structure Leading (digits : List Char) : Prop where
  allDigits : Digits digits
  notEmpty : digits ≠ []
  head : digits.head? ≠ some '0'

theorem Leading.toWhole (h : Leading digits) (more : List Char) (hmore : Digits more) :
    Whole (digits ++ more) where
  allDigits c hc := (List.mem_append.1 hc).elim (h.allDigits c) (hmore c)
  notEmpty := List.append_ne_nil_of_left_ne_nil h.notEmpty _
  head hhead := by
    rw [List.head?_append_of_ne_nil _ h.notEmpty] at hhead
    exact absurd hhead h.head

theorem leading_trim {n : Nat} (h : 0 < n) : Leading (Double.trim (Nat.toDigits 10 n)) := by
  obtain ⟨count, hcount⟩ := exists_trim (Nat.toDigits 10 n)
  have hhead := head_toDigits h
  have hdigits := digits_toDigits n
  have hne : Nat.toDigits 10 n ≠ [] := Nat.toDigits_ne_nil
  generalize hall : Nat.toDigits 10 n = all at hcount hhead hdigits hne
  have htrim : Double.trim all ≠ [] := by
    intro hnil
    rw [hnil, List.nil_append] at hcount
    cases count with
    | zero => exact hne hcount
    | succ count => exact hhead (hcount ▸ rfl)
  refine ⟨fun c hc => hdigits c (hcount ▸ List.mem_append_left _ hc), htrim, fun hzero => ?_⟩
  rw [hcount, List.head?_append_of_ne_nil _ htrim] at hhead
  exact hhead hzero

/-! ## Writing decimals -/

/-- The text of a number with a fraction or an exponent, and **what it stands for**. -/
inductive Decimal : List Char → ℚ → Prop where
  | mk {whole fraction : List Char} {power : Option (Bool × List Char)} (hwhole : Whole whole)
      (hfraction : Digits fraction)
      (hpower : ∀ below digits, power = some (below, digits) → Digits digits ∧ digits ≠ [])
      (hmark : fraction ≠ [] ∨ power ≠ none) :
      Decimal (whole ++ (pointed fraction ++ powered power))
        (digitsValue (whole ++ fraction) * 10 ^ (powerOf power - fraction.length))

/-- What `0.digits · 10 ^ point` stands for. -/
def valueAt (digits : List Char) (point : Int) : ℚ :=
  digitsValue digits * 10 ^ (point - digits.length)

theorem pointed_eq (h : fraction ≠ []) : pointed fraction = '.' :: fraction := by
  cases fraction with
  | nil => exact absurd rfl h
  | cons => rfl

theorem digits_append {more : List Char} (h : Digits digits) (hmore : Digits more) :
    Digits (digits ++ more) :=
  fun c hc => (List.mem_append.1 hc).elim (h c) (hmore c)

theorem digits_zeros (count : Nat) : Digits (List.replicate count '0') := by
  intro c hc
  rw [List.eq_of_mem_replicate hc]
  rfl

theorem whole_zero : Whole ['0'] := ⟨by simp [Digits], by simp, fun _ => rfl⟩

theorem decimal_of_point (hwhole : Whole whole) (hfraction : Digits fraction) (hne : fraction ≠ []) :
    Decimal (whole ++ '.' :: fraction)
      (digitsValue (whole ++ fraction) * 10 ^ (-fraction.length : Int)) := by
  have h : Decimal (whole ++ (pointed fraction ++ powered none))
      (digitsValue (whole ++ fraction) * 10 ^ (powerOf none - fraction.length)) :=
    .mk hwhole hfraction nofun (.inl hne)
  rwa [pointed_eq hne, powered, List.append_nil, powerOf, zero_sub] at h

theorem Leading.isWhole (h : Leading digits) : Whole digits :=
  List.append_nil digits ▸ h.toWhole [] nofun

theorem decimal_below_point (h : Leading digits) (point : Int) (hpoint : point ≤ 0) :
    Decimal ('0' :: '.' :: (List.replicate point.natAbs '0' ++ digits)) (valueAt digits point) := by
  have hzeros : digitsValue (['0'] ++ List.replicate point.natAbs '0') = 0 :=
    digitsValue_zeros (point.natAbs + 1)
  have hvalue : valueAt digits point
      = digitsValue (['0'] ++ (List.replicate point.natAbs '0' ++ digits))
        * 10 ^ (-(List.replicate point.natAbs '0' ++ digits).length : Int) := by
    rw [← List.append_assoc, digitsValue_append, hzeros, Nat.zero_mul, Nat.zero_add,
      List.length_append, List.length_replicate, valueAt]
    congr 2
    omega
  rw [hvalue]
  exact decimal_of_point whole_zero (digits_append (digits_zeros _) h.allDigits)
    (List.append_ne_nil_of_right_ne_nil _ h.notEmpty)

theorem decimal_above_point (h : Leading digits) (point : Int) (hpoint : digits.length ≤ point) :
    Decimal ((digits ++ List.replicate (point.toNat - digits.length) '0') ++ ['.', '0'])
      (valueAt digits point) := by
  have hpower : point - digits.length = ((point.toNat - digits.length : Nat) : Int) := by omega
  have hzero : digitsValue (['0'] : List Char) = 0 := rfl
  have hvalue : valueAt digits point
      = digitsValue ((digits ++ List.replicate (point.toNat - digits.length) '0') ++ ['0'])
        * 10 ^ (-(['0'] : List Char).length : Int) := by
    rw [digitsValue_append, digitsValue_append, digitsValue_zeros, hzero, List.length_replicate,
      List.length_singleton, valueAt, hpower, zpow_natCast]
    push_cast
    norm_num
    ring
  rw [hvalue]
  exact decimal_of_point (h.toWhole _ (digits_zeros _)) (digits_zeros 1) (List.cons_ne_nil _ _)

theorem decimal_at_point (h : Leading digits) (point : Int) (hpos : 0 < point)
    (hpoint : point < digits.length) :
    Decimal (digits.take point.toNat ++ '.' :: digits.drop point.toNat) (valueAt digits point) := by
  have htake : Leading (digits.take point.toNat) := by
    refine ⟨fun c hc => h.allDigits c (List.mem_of_mem_take hc), ?_, ?_⟩
    · rw [ne_eq, List.take_eq_nil_iff, not_or]
      exact ⟨by omega, h.notEmpty⟩
    · rw [List.head?_take, if_neg (by omega)]
      exact h.head
  have hdrop : digits.drop point.toNat ≠ [] := by
    rw [ne_eq, List.drop_eq_nil_iff]
    omega
  have hvalue : valueAt digits point
      = digitsValue (digits.take point.toNat ++ digits.drop point.toNat)
        * 10 ^ (-(digits.drop point.toNat).length : Int) := by
    rw [List.take_append_drop, List.length_drop, valueAt]
    congr 2
    omega
  rw [hvalue]
  exact decimal_of_point htake.isWhole (fun c hc => h.allDigits c (List.mem_of_mem_drop hc)) hdrop

theorem decimal_positional (h : Leading digits) (point : Int) :
    Decimal (Double.positional floatLayout digits point).toList (valueAt digits point) := by
  unfold Double.positional
  split
  · next hpoint => simpa using decimal_below_point h point hpoint
  split
  · next hlength => simpa [floatLayout] using decimal_above_point h point (by omega)
  · next hpoint hlength => simpa using decimal_at_point h point (by omega) (by omega)

theorem Leading.first (h : Leading digits) : Leading (digits.take 1) := by
  obtain ⟨d, more, rfl⟩ := List.exists_cons_of_ne_nil h.notEmpty
  exact ⟨fun c hc => h.allDigits c (List.mem_of_mem_take hc), List.cons_ne_nil _ _, h.head⟩

/-- The sign and the size of an exponent. -/
def sizeOf (exponent : Int) : Bool × List Char :=
  (exponent < 0, (Nat.toDigits 10 exponent.natAbs).leftpad floatLayout.exponentWidth '0')

theorem powerOf_sizeOf (exponent : Int) : powerOf (some (sizeOf exponent)) = exponent := by
  have hvalue : digitsValue ((Nat.toDigits 10 exponent.natAbs).leftpad
      floatLayout.exponentWidth '0') = exponent.natAbs := by
    rw [List.leftpad, digitsValue_append, digitsValue_zeros, digitsValue_toDigits, Nat.zero_mul,
      Nat.zero_add]
  by_cases hneg : exponent < 0 <;> simp only [powerOf, sizeOf, hvalue, hneg, decide_true,
    decide_false, signOf] <;> omega

theorem decimal_scientific (h : Leading digits) (point : Int) :
    Decimal (Double.scientific floatLayout digits point).toList (valueAt digits point) := by
  have htail : (if 1 < digits.length then '.' :: digits.drop 1 else [])
      = pointed (digits.drop 1) := by
    split
    · next hlength => rw [pointed_eq (by rw [ne_eq, List.drop_eq_nil_iff]; omega)]
    · next hlength => rw [List.drop_eq_nil_iff.2 (by omega)]; rfl
  have hsize : Digits (sizeOf (point - 1)).2 ∧ (sizeOf (point - 1)).2 ≠ [] :=
    ⟨digits_append (digits_zeros _) (digits_toDigits _),
      List.append_ne_nil_of_right_ne_nil _ Nat.toDigits_ne_nil⟩
  have htext : (Double.scientific floatLayout digits point).toList
      = digits.take 1 ++ (pointed (digits.drop 1) ++ powered (some (sizeOf (point - 1)))) := by
    unfold Double.scientific
    simp only [htail]
    by_cases hneg : point - 1 < 0 <;>
      simp [hneg, powered, sizeOf, signOf]
  have hvalue : valueAt digits point = digitsValue (digits.take 1 ++ digits.drop 1)
      * 10 ^ (powerOf (some (sizeOf (point - 1))) - (digits.drop 1).length : Int) := by
    have hlength := List.length_pos_iff.2 h.notEmpty
    rw [List.take_append_drop, powerOf_sizeOf, List.length_drop, valueAt]
    congr 2
    omega
  rw [htext, hvalue]
  refine .mk h.first.isWhole (fun c hc => h.allDigits c (List.mem_of_mem_drop hc)) ?_ (.inr nofun)
  intro below size heq
  cases heq
  exact hsize

/-! ## Reading back -/

variable {x : Double}

/-- A decimal is read as **the double nearest to it**. -/
theorem number_of_decimal {text : List Char} {q : ℚ} (h : Decimal text q) (hrest : Stops rest) :
    ∃ (digits : Nat) (exponent : Int), (digits * 10 ^ exponent : ℚ) = q ∧
      number token negative (text ++ rest)
        = .ok (.float (Double.ofDecimal negative digits exponent), rest) := by
  obtain ⟨hwhole, hfraction, hpower, hmark⟩ := h
  rw [List.append_assoc, List.append_assoc]
  exact ⟨_, _, rfl, number_of_parts hwhole hfraction hpower hmark hrest⟩

theorem Decimal.head {text : List Char} {q : ℚ} (h : Decimal text q) :
    ∃ c tail, text = c :: tail ∧ c.isDigit = true := by
  obtain ⟨hwhole, -, -, -⟩ := h
  obtain ⟨c, tail, rfl⟩ := List.exists_cons_of_ne_nil hwhole.notEmpty
  exact ⟨c, _, rfl, hwhole.allDigits c List.mem_cons_self⟩

theorem shortest_pos (hfinite : x.isFinite = true) (hm : 0 < x.magnitude.1) : 0 < x.shortest.1 := by
  refine Nat.pos_of_ne_zero fun hzero => ?_
  have hrange := ((Double.rounds_shortest hfinite hm).range hfinite hm).1
  have hleast : (0 : ℚ) < 2 ^ (-1075 : Int) := by positivity
  rw [hzero, Nat.cast_zero, zero_mul] at hrange
  linarith

theorem valueAt_trim (digits : Nat) (exponent : Int) :
    valueAt (Double.trim (Nat.toDigits 10 digits)) (exponent + (Nat.toDigits 10 digits).length)
      = digits * 10 ^ exponent := by
  obtain ⟨count, hcount⟩ := exists_trim (Nat.toDigits 10 digits)
  have hdigits := congrArg digitsValue hcount
  rw [digitsValue_toDigits, digitsValue_append, digitsValue_zeros, Nat.add_zero,
    List.length_replicate] at hdigits
  have hlength := congrArg List.length hcount
  rw [List.length_append, List.length_replicate] at hlength
  have hexponent : exponent + ((Double.trim (Nat.toDigits 10 digits)).length + count : Nat)
      - (Double.trim (Nat.toDigits 10 digits)).length = count + exponent := by
    push_cast
    ring
  rw [valueAt, hlength, hexponent, zpow_add₀ (by norm_num), zpow_natCast]
  conv_rhs => rw [hdigits]
  push_cast
  ring

theorem decimal_text (hfinite : x.isFinite = true) (hm : 0 < x.magnitude.1) : ∃ body,
    (x.text floatLayout).toList = (if x.isNegative then ['-'] else []) ++ body ∧
      Decimal body (x.shortest.1 * 10 ^ x.shortest.2) := by
  have hleading := leading_trim (shortest_pos hfinite hm)
  rw [← valueAt_trim]
  unfold Double.text
  rw [Double.not_nan_of_isFinite hfinite, hfinite]
  simp only [Bool.false_eq_true, if_false, Bool.not_true, beq_iff_eq, hm.ne']
  generalize Double.trim (Nat.toDigits 10 x.shortest.1) = digits at hleading ⊢
  generalize x.shortest.2 + ((Nat.toDigits 10 x.shortest.1).length : Int) = point
  generalize (decide (floatLayout.least ≤ point - 1) && decide (point - 1 < floatLayout.bound))
    = positionally
  refine ⟨(if positionally then Double.positional floatLayout digits point
      else Double.scientific floatLayout digits point).toList, ?_, ?_⟩
  · cases x.isNegative <;> simp
  · cases positionally
    · exact decimal_scientific hleading point
    · exact decimal_positional hleading point

/-! ## Numbers as values -/

theorem names_head : ∀ entry ∈ names, ∃ c more, entry.1.toList = c :: more ∧ c.isDigit = false ∧
    (c = '-' → ∃ d rest, more = d :: rest ∧ d.isDigit = false) := by
  intro entry hentry
  simp only [names, List.mem_cons, List.not_mem_nil, or_false] at hentry
  rcases hentry with rfl | rfl | rfl | rfl | rfl | rfl
  case inr.inr.inr.inr.inr => exact ⟨_, _, rfl, rfl, fun _ => ⟨_, _, rfl, rfl⟩⟩
  all_goals exact ⟨_, _, rfl, rfl, fun h => absurd h (by decide)⟩

theorem name?_digit {c : Char} {tail : List Char} (hc : c.isDigit = true) (negative : Bool) :
    name? ((if negative then ['-'] else []) ++ c :: tail) = none := by
  unfold name?
  rw [List.findSome?_eq_none_iff]
  intro entry hentry
  obtain ⟨d, more, hname, hd, hminus⟩ := names_head entry hentry
  refine if_neg fun hprefix => ?_
  rw [hname, List.isPrefixOf_iff_prefix] at hprefix
  cases negative with
  | false =>
    obtain ⟨rfl, -⟩ := List.cons_prefix_cons.1 hprefix
    rw [hc] at hd
    cases hd
  | true =>
    obtain ⟨rfl, hmore⟩ := List.cons_prefix_cons.1 hprefix
    obtain ⟨d, rest, rfl, hd⟩ := hminus rfl
    obtain ⟨rfl, -⟩ := List.cons_prefix_cons.1 hmore
    rw [hc] at hd
    cases hd

theorem scalar_of_number {c : Char} {tail : List Char} (hc : c.isDigit = true) (negative : Bool) :
    scalar ((if negative then ['-'] else []) ++ c :: tail)
      = number ((if negative then ['-'] else []) ++ c :: tail) negative (c :: tail) := by
  unfold scalar
  rw [name?_digit hc negative]
  cases negative with
  | true => rfl
  | false =>
    have hne : c ≠ '-' := by rintro rfl; cases hc
    simp only [Bool.false_eq_true, if_false, List.nil_append]
    split
    · next heq => exact absurd (List.cons.inj heq).1 hne
    · rfl

theorem scalar_of_name {name : String} {v : Value} (h : (name, v) ∈ names) (rest : List Char) :
    scalar (name.toList ++ rest) = .ok (v, rest) := by
  simp only [names, List.mem_cons, List.not_mem_nil, or_false, Prod.mk.injEq] at h
  rcases h with ⟨rfl, rfl⟩ | ⟨rfl, rfl⟩ | ⟨rfl, rfl⟩ | ⟨rfl, rfl⟩ | ⟨rfl, rfl⟩ | ⟨rfl, rfl⟩ <;> rfl

theorem int_text (n : Int) : (toString n).toList
    = (if decide (n < 0) then ['-'] else []) ++ Nat.toDigits 10 n.natAbs := by
  cases n with
  | ofNat n =>
    have hpos : ¬ Int.ofNat n < 0 := not_lt.2 (Int.natCast_nonneg n)
    change (Nat.repr n).toList = _
    rw [Nat.repr_eq_ofList_toDigits]
    simp
  | negSucc n =>
    change ("-" ++ Nat.repr (n + 1)).toList = _
    rw [Nat.repr_eq_ofList_toDigits]
    simp [Int.negSucc_lt_zero]

/-- A whole number is **read as it was written**, when it has not too many digits. -/
theorem scalar_of_int {n : Int} (hn : n.natAbs < 10 ^ digitLimit) (hrest : Stops rest) :
    scalar ((toString n).toList ++ rest) = .ok (.int n, rest) := by
  have hlimit : (Nat.toDigits 10 n.natAbs).length ≤ digitLimit :=
    (Nat.length_toDigits_le_iff (by decide) (by decide)).2 hn
  have hread (token : List Char) : number token (decide (n < 0)) (Nat.toDigits 10 n.natAbs ++ rest)
      = .ok (.int n, rest) := by
    rw [number_of_whole (whole_toDigits _) hlimit hrest, digitsValue_toDigits]
    congr 3
    by_cases hneg : n < 0 <;> simp only [hneg, decide_true, decide_false, if_true,
      Bool.false_eq_true, if_false] <;> omega
  have hne : Nat.toDigits 10 n.natAbs ≠ [] := Nat.toDigits_ne_nil
  have hdigits := digits_toDigits n.natAbs
  rw [int_text, List.append_assoc]
  generalize Nat.toDigits 10 n.natAbs = digits at *
  obtain ⟨c, tail, rfl⟩ := List.exists_cons_of_ne_nil hne
  rw [List.cons_append, scalar_of_number (hdigits c List.mem_cons_self)]
  exact hread _

theorem eq_infinity (hfinite : x.isFinite = false) (hnan : x.isNaN = false) :
    x = Double.infinity x.isNegative := by
  have hlt : x.exponentField < 2048 := Nat.mod_lt _ (by norm_num)
  have hge : ¬ x.exponentField < 2047 := of_decide_eq_false hfinite
  have hfield : x.exponentField = 2047 := by omega
  have hfraction : x.fraction = 0 := by
    unfold Double.isNaN at hnan
    rw [hfield, beq_self_eq_true, Bool.true_and] at hnan
    simpa using hnan
  conv_lhs => rw [← x.ofBits_fields, hfield, hfraction]
  rfl

theorem eq_zero_of_magnitude (h : x.magnitude.1 = 0) (hfinite : x.isFinite = true) :
    x = Double.ofBits x.isNegative 0 := by
  have hx := x.parts hfinite
  rw [h] at hx
  obtain ⟨-, -, -, -, hnormal, hbits, -⟩ := hx
  rw [hnormal.resolve_right (by norm_num)] at hbits
  exact hbits.symm

/-- The text of a finite double is a decimal, to which **the double is nearest**. -/
theorem exists_decimal (hfinite : x.isFinite = true) (hnan : x.isNaN = false) : ∃ body q,
    (x.text floatLayout).toList = (if x.isNegative then ['-'] else []) ++ body ∧ Decimal body q ∧
      ∀ (digits : Nat) (exponent : Int), (digits * 10 ^ exponent : ℚ) = q →
        Double.ofDecimal x.isNegative digits exponent = x := by
  by_cases hzero : x.magnitude.1 = 0
  · have htext : (x.text floatLayout).toList
        = (if x.isNegative then ['-'] else []) ++ (['0'] ++ (pointed ['0'] ++ powered none)) := by
      unfold Double.text
      rw [hnan, hfinite, hzero]
      simp only [Bool.false_eq_true, if_false, Bool.not_true, beq_self_eq_true, if_true]
      cases x.isNegative <;> rfl
    refine ⟨_, _, htext, .mk whole_zero (by simp [Digits]) nofun (.inl (by simp)), ?_⟩
    intro digits exponent hvalue
    have hdigits : digits = 0 := by
      have hnone : digitsValue (['0'] ++ ['0']) = 0 := rfl
      rw [hnone, Nat.cast_zero, zero_mul, mul_eq_zero, or_iff_left (by positivity)] at hvalue
      exact_mod_cast hvalue
    conv_rhs => rw [eq_zero_of_magnitude hzero hfinite]
    rw [hdigits]
    rfl
  · have hm := Nat.pos_of_ne_zero hzero
    obtain ⟨body, htext, hdecimal⟩ := decimal_text hfinite hm
    refine ⟨body, _, htext, hdecimal, fun digits exponent hvalue => ?_⟩
    exact Double.ofDecimal_of_rounds hfinite hm (hvalue ▸ Double.rounds_shortest hfinite hm)

theorem infinite_text (hnan : x.isNaN = false) (hfinite : x.isFinite = false) :
    x.text floatLayout = if x.isNegative then "-Infinity" else "Infinity" := by
  unfold Double.text
  rw [hnan, hfinite]
  cases x.isNegative <;> rfl

/-- A double is **read as it was written**; the undefined number has one form. -/
theorem scalar_of_float (hone : x.isNaN = true → x = Double.nan) (hrest : Stops rest) :
    scalar ((x.text floatLayout).toList ++ rest) = .ok (.float x, rest) := by
  by_cases hnan : x.isNaN = true
  · have htext : x.text floatLayout = "NaN" := if_pos hnan
    rw [htext, hone hnan]
    exact scalar_of_name (by simp [names]) rest
  have hnan := Bool.eq_false_iff.2 hnan
  by_cases hfinite : x.isFinite = true
  · obtain ⟨body, q, htext, hdecimal, hnearest⟩ := exists_decimal hfinite hnan
    obtain ⟨digits, exponent, hvalue, hread⟩ : ∃ (digits : Nat) (exponent : Int),
        (digits * 10 ^ exponent : ℚ) = q ∧
          number ((x.text floatLayout).toList ++ rest) x.isNegative (body ++ rest)
            = .ok (.float (Double.ofDecimal x.isNegative digits exponent), rest) :=
      number_of_decimal hdecimal hrest
    rw [hnearest digits exponent hvalue] at hread
    obtain ⟨c, tail, rfl, hc⟩ := hdecimal.head
    rw [htext, List.append_assoc] at hread ⊢
    exact (scalar_of_number hc _).trans hread
  · have hfinite := Bool.eq_false_iff.2 hfinite
    rw [infinite_text hnan hfinite]
    conv_rhs => rw [eq_infinity hfinite hnan]
    cases x.isNegative
    · exact scalar_of_name (by simp [names]) rest
    · exact scalar_of_name (by simp [names]) rest

end Drift.Json
