import Drift.Configuration
import Drift.Proofs.Json.RoundTrip

/-!
# Lines that are written

* `Json.Printed` — the characters of lines: none of them is a control character but the line feed;
  `Json.printed_textOf` — those of every value are, as control characters in texts are escaped.
* **`Configuration.parse_characters`** — so the value that is read from a file is the one that was
  written to it.
-/

namespace Drift

namespace Json

variable {style : Style} {level : Nat}

/-- The characters **of lines**: none of them is a control character, but for line feeds. -/
def Printed (s : List Char) : Prop := ∀ c ∈ s, c = '\n' ∨ 0x20 ≤ c.toNat

instance (s : List Char) : Decidable (Printed s) := List.decidableBAll _ s

theorem printed_append {s t : List Char} : Printed (s ++ t) ↔ Printed s ∧ Printed t :=
  List.forall_mem_append

theorem printed_cons {c : Char} {s : List Char} :
    Printed (c :: s) ↔ (c = '\n' ∨ 0x20 ≤ c.toNat) ∧ Printed s :=
  List.forall_mem_cons

/-! ## Texts -/

theorem printed_hex {n : Nat} (h : n < 0x10000) : Printed (unitEscape n) := by
  have hdigit : ∀ d < 16, 0x20 ≤ (Nat.digitChar d).toNat := by decide
  unfold unitEscape
  rw [hex_four h]
  simp only [printed_cons]
  exact ⟨by decide, by decide, .inr (hdigit _ (by omega)), .inr (hdigit _ (by omega)),
    .inr (hdigit _ (by omega)), .inr (hdigit _ (by omega)), nofun⟩

theorem printed_stringPoint {point : Nat} (h : point < 0x110000) :
    Printed (stringPoint style point) := by
  unfold stringPoint
  split
  · next hhalf =>
    unfold isHalf at hhalf
    simp only [Bool.and_eq_true, decide_eq_true_eq] at hhalf
    exact printed_hex (by omega)
  · next hhalf =>
    have hpoint := toNat_ofNat h (Bool.eq_false_iff.2 hhalf)
    generalize Char.ofNat point = c at hpoint
    have hescaped : Printed (escaped c) := by
      unfold escaped
      rw [hpoint]
      simp only
      split
      · next hsmall => exact printed_hex hsmall
      · exact printed_append.2 ⟨printed_hex (by omega), printed_hex (by omega)⟩
    unfold stringChar
    split_ifs with _ _ _ _ _ _ _ hcontrol
    all_goals first | exact hescaped | decide | skip
    exact printed_cons.2 ⟨.inr (Nat.le_of_not_lt hcontrol), nofun⟩

theorem printed_quoted {t : Text} (h : t.Proper) : Printed (quoted style t) := by
  have hpoints : Printed (t.points.flatMap (stringPoint style)) := fun c hc => by
    obtain ⟨point, hpoint, hc⟩ := List.mem_flatMap.1 hc
    exact printed_stringPoint (h.points.valid point hpoint) c hc
  exact printed_cons.2 ⟨by decide, printed_append.2 ⟨hpoints, by decide⟩⟩

theorem printed_edge : Printed (edge style level) := by
  unfold edge
  split
  · refine printed_cons.2 ⟨.inl rfl, fun c hc => ?_⟩
    rw [List.eq_of_mem_replicate hc]
    decide
  · nofun

theorem printed_gap : Printed (gap style level) := by
  unfold gap
  split
  · exact printed_edge
  · decide

/-! ## Numbers -/

theorem Digits.printed {digits : List Char} (h : Digits digits) : Printed digits := by
  intro c hc
  have hdigit := h c hc
  simp only [Char.isDigit, Bool.and_eq_true, decide_eq_true_eq] at hdigit
  exact .inr (Nat.le_trans (by decide) (UInt32.le_iff_toNat_le.1 hdigit.1))

theorem Decimal.printed {text : List Char} {q : ℚ} (h : Decimal text q) : Printed text := by
  obtain @⟨whole, fraction, power, hwhole, hfraction, hpower, -⟩ := h
  have hpointed : Printed (pointed fraction) := by
    cases fraction with
    | nil => nofun
    | cons d fraction => exact printed_cons.2 ⟨by decide, hfraction.printed⟩
  have hpowered : Printed (powered power) := by
    rcases power with _ | ⟨below, digits⟩
    · nofun
    · have hsign : (signOf below).1 = '\n' ∨ 0x20 ≤ (signOf below).1.toNat := by
        cases below <;> decide
      exact printed_cons.2 ⟨by decide, printed_cons.2 ⟨hsign, (hpower _ _ rfl).1.printed⟩⟩
  simp only [printed_append]
  exact ⟨hwhole.allDigits.printed, hpointed, hpowered⟩

theorem printed_sign (negative : Bool) : Printed (if negative then ['-'] else []) := by
  cases negative <;> decide

theorem printed_int (n : Int) : Printed (toString n).toList := by
  rw [int_text, printed_append]
  exact ⟨printed_sign _, (digits_toDigits _).printed⟩

theorem printed_float (x : Double) : Printed (x.text floatLayout).toList := by
  by_cases hnan : x.isNaN = true
  · have htext : x.text floatLayout = "NaN" := if_pos hnan
    rw [htext]
    decide
  have hnan := Bool.eq_false_iff.2 hnan
  by_cases hfinite : x.isFinite = true
  · obtain ⟨body, q, htext, hdecimal, -⟩ := exists_decimal hfinite hnan
    rw [htext, printed_append]
    exact ⟨printed_sign _, hdecimal.printed⟩
  · rw [infinite_text hnan (Bool.eq_false_iff.2 hfinite)]
    cases x.isNegative <;> decide

/-! ## Values -/

theorem printed_items {vs : List Value} (h : ∀ v ∈ vs, ∀ level, Printed (textOf style level v)) :
    Printed (textOfItems style level vs) := by
  induction vs with
  | nil => rw [textOfItems]; nofun
  | cons v vs ih =>
    obtain ⟨hv, hvs⟩ := List.forall_mem_cons.1 h
    rw [textOfItems]
    simp only [printed_cons, printed_append]
    exact ⟨by decide, printed_gap, hv level, ih hvs⟩

theorem printed_members {ms : Members} (hkeys : ∀ m ∈ ms, m.1.Proper)
    (h : ∀ m ∈ ms, ∀ level, Printed (textOf style level m.2)) :
    Printed (textOfMembers style level ms) := by
  induction ms with
  | nil => rw [textOfMembers]; nofun
  | cons m ms ih =>
    obtain ⟨key, v⟩ := m
    obtain ⟨hkey, hkeys⟩ := List.forall_mem_cons.1 hkeys
    obtain ⟨hv, hms⟩ := List.forall_mem_cons.1 h
    rw [textOfMembers]
    simp only [printed_cons, printed_append]
    exact ⟨by decide, printed_gap, printed_quoted hkey, by decide, by decide, hv level,
      ih hkeys hms⟩

/-- The characters of every value are those **of lines**. -/
theorem printed_textOf {v : Value} (h : Readable v) (level : Nat) :
    Printed (textOf style level v) := by
  induction h generalizing level with
  | null => rw [textOf]; decide
  | bool b => cases b <;> (rw [textOf]; decide)
  | int _ => rw [textOf]; exact printed_int _
  | float _ => rw [textOf]; exact printed_float _
  | text ht => rw [textOf]; exact printed_quoted ht
  | @list vs _ ih =>
    cases vs with
    | nil => rw [textOf]; decide
    | cons v vs =>
      obtain ⟨hv, hvs⟩ := List.forall_mem_cons.1 ih
      rw [textOf]
      simp only [printed_cons, printed_append]
      exact ⟨by decide, printed_edge, hv _, printed_items hvs, printed_edge, by decide, nofun⟩
  | @object ms _ hkeys _ ih =>
    rcases ms with _ | ⟨⟨key, v⟩, ms⟩
    · rw [textOf]; decide
    · obtain ⟨hkey, hkeys⟩ := List.forall_mem_cons.1 hkeys
      obtain ⟨hv, hms⟩ := List.forall_mem_cons.1 ih
      rw [textOf]
      simp only [printed_cons, printed_append]
      exact ⟨by decide, printed_edge, printed_quoted hkey, by decide, by decide, hv _,
        printed_members hkeys hms, printed_edge, by decide, nofun⟩

theorem printed_characters {v : Value} (h : Readable (if style.sortKeys then sorted v else v)) :
    Printed (characters style v) := by
  rw [characters, putValue_eq, List.append_nil, List.reverse_reverse]
  exact printed_textOf h 0

end Json

namespace Configuration

theorem plainLineEndsOnto_of_no_return {text : List Char} (h : '\r' ∉ text) (done : List Char) :
    plainLineEndsOnto done text = done.reverse ++ text := by
  induction text generalizing done with
  | nil => rw [plainLineEndsOnto, List.append_nil]
  | cons c text ih =>
    rw [List.mem_cons, not_or] at h
    have hstep : plainLineEndsOnto done (c :: text) = plainLineEndsOnto (c :: done) text := by
      rw [plainLineEndsOnto]
      · rintro rest rfl
        exact absurd rfl h.1
      · rintro rfl
        exact absurd rfl h.1
    rw [hstep, ih h.2, List.reverse_cons, List.append_assoc, List.singleton_append]

/-- The text of a file that holds a value is **read as the value**, in the order of its keys that
the style asks for. -/
theorem parse_characters (style : Json.Style) (v : Json.Value)
    (h : Json.Readable (if style.sortKeys then Json.sorted v else v)) :
    parse (Json.characters style v ++ ['\n'])
      = .ok (if style.sortKeys then Json.sorted v else v) := by
  have hprinted : Json.Printed (Json.characters style v ++ ['\n']) :=
    Json.printed_append.2 ⟨Json.printed_characters h, by decide⟩
  have hlines : '\r' ∉ Json.characters style v ++ ['\n'] := fun hmem =>
    absurd (hprinted _ hmem) (by decide)
  have hread : Json.parse (Json.characters style v ++ ['\n'])
      = .ok (if style.sortKeys then Json.sorted v else v) :=
    Json.parse_characters h (List.forall_mem_singleton.2 rfl)
  unfold parse
  simp only [plainLineEndsOnto_of_no_return hlines, List.reverse_nil, List.nil_append, hread]
  rfl

end Configuration

end Drift
