import Drift.Proofs.Json.RoundTrip

/-!
# The grammar of JSON

* `Json.NumberText`, `Json.StringText`, `Json.ValueText` — the texts of numbers, strings and values,
  without regard to how they are read.
* `Json.Valid` — a JSON text: one value, and blanks around it.
* **`Json.valid_characters`** — whatever value is written, all of whose numbers are finite, its
  text is a valid one.
-/

namespace Drift.Json

/-! ## Numbers -/

/-- A fraction, or none. -/
inductive FractionText : List Char → Prop where
  | none : FractionText []
  | some {digits : List Char} (h : Digits digits) (hne : digits ≠ []) : FractionText ('.' :: digits)

/-- An exponent, or none. -/
inductive ExponentText : List Char → Prop where
  | none : ExponentText []
  | some {mark : Char} {sign digits : List Char} (hmark : mark = 'e' ∨ mark = 'E')
      (hsign : sign = [] ∨ sign = ['+'] ∨ sign = ['-']) (h : Digits digits) (hne : digits ≠ []) :
      ExponentText (mark :: (sign ++ digits))

/-- The text of a **number**: digits behind a sign, and a fraction and an exponent behind them. -/
inductive NumberText : List Char → Prop where
  | mk {sign whole fraction exponent : List Char} (hsign : sign = [] ∨ sign = ['-'])
      (hwhole : Whole whole) (hfraction : FractionText fraction)
      (hexponent : ExponentText exponent) :
      NumberText (sign ++ (whole ++ (fraction ++ exponent)))

/-! ## Strings -/

/-- One character of a string, or **one escape**. -/
inductive CharText : List Char → Prop where
  | plain {c : Char} (hquote : c ≠ '"') (hslash : c ≠ '\\') (h : 0x20 ≤ c.toNat) : CharText [c]
  | letter {c : Char} (h : (letterEscape? c).isSome = true) : CharText ['\\', c]
  | unit {a b c d : Char} (h : ∀ digit ∈ [a, b, c, d], (hexValue? digit).isSome = true) :
      CharText ['\\', 'u', a, b, c, d]

/-- Characters and escapes. -/
inductive CharsText : List Char → Prop where
  | nil : CharsText []
  | cons {s rest : List Char} (h : CharText s) (hrest : CharsText rest) : CharsText (s ++ rest)

/-- The text of a **string**. -/
inductive StringText : List Char → Prop where
  | mk {s : List Char} (h : CharsText s) : StringText ('"' :: (s ++ ['"']))

/-! ## Values -/

/-- The characters may **stand between tokens**. -/
def Blanks (s : List Char) : Prop := ∀ c ∈ s, isBlank c = true

mutual

/-- The text of a **value**. -/
inductive ValueText : List Char → Prop where
  | null : ValueText "null".toList
  | true : ValueText "true".toList
  | false : ValueText "false".toList
  | number {s : List Char} (h : NumberText s) : ValueText s
  | string {s : List Char} (h : StringText s) : ValueText s
  | noItems {s : List Char} (h : Blanks s) : ValueText ('[' :: (s ++ [']']))
  | items {s : List Char} (h : ItemsText s) : ValueText ('[' :: (s ++ [']']))
  | noMembers {s : List Char} (h : Blanks s) : ValueText ('\x7b' :: (s ++ ['\x7d']))
  | members {s : List Char} (h : MembersText s) : ValueText ('\x7b' :: (s ++ ['\x7d']))

/-- A value with blanks around it. -/
inductive ElementText : List Char → Prop where
  | mk {before s after : List Char} (hbefore : Blanks before) (h : ValueText s)
      (hafter : Blanks after) : ElementText (before ++ (s ++ after))

/-- The items of a list, with commas between them. -/
inductive ItemsText : List Char → Prop where
  | last {s : List Char} (h : ElementText s) : ItemsText s
  | next {s rest : List Char} (h : ElementText s) (hrest : ItemsText rest) :
      ItemsText (s ++ ',' :: rest)

/-- A key, a colon and a value. -/
inductive MemberText : List Char → Prop where
  | mk {before key after s : List Char} (hbefore : Blanks before) (hkey : StringText key)
      (hafter : Blanks after) (h : ElementText s) :
      MemberText (before ++ (key ++ (after ++ ':' :: s)))

/-- The members of an object, with commas between them. -/
inductive MembersText : List Char → Prop where
  | last {s : List Char} (h : MemberText s) : MembersText s
  | next {s rest : List Char} (h : MemberText s) (hrest : MembersText rest) :
      MembersText (s ++ ',' :: rest)

end

/-- The text is **valid JSON**: one value, and blanks around it. -/
def Valid (text : List Char) : Prop := ElementText text

/-! ## Numbers that are written -/

/-- A value **without infinite or undefined numbers**, for which there is no text. -/
inductive AllFinite : Value → Prop where
  | null : AllFinite .null
  | bool (b : Bool) : AllFinite (.bool b)
  | int (n : Int) : AllFinite (.int n)
  | float {x : Double} (h : x.isFinite = true) : AllFinite (.float x)
  | text (t : Text) : AllFinite (.text t)
  | list {items : List Value} (h : ∀ v ∈ items, AllFinite v) : AllFinite (.list items)
  | object {members : Members} (h : ∀ m ∈ members, AllFinite m.2) : AllFinite (.object members)

variable {style : Style} {level : Nat} {blanks before after : List Char}

theorem sign_of_negative (negative : Bool) :
    (if negative then ['-'] else []) = [] ∨ (if negative then ['-'] else []) = ['-'] := by
  cases negative
  · exact .inl rfl
  · exact .inr rfl

theorem numberText_int (n : Int) : NumberText (toString n).toList := by
  have h := NumberText.mk (sign_of_negative (decide (n < 0))) (whole_toDigits n.natAbs) .none .none
  rwa [List.append_nil, List.append_nil, ← int_text] at h

theorem fractionText_pointed {fraction : List Char} (h : Digits fraction) :
    FractionText (pointed fraction) := by
  cases fraction with
  | nil => exact .none
  | cons d fraction => exact .some h (List.cons_ne_nil _ _)

theorem exponentText_powered {power : Option (Bool × List Char)}
    (h : ∀ below digits, power = some (below, digits) → Digits digits ∧ digits ≠ []) :
    ExponentText (powered power) := by
  rcases power with _ | ⟨below, digits⟩
  · exact .none
  · obtain ⟨hdigits, hne⟩ := h _ _ rfl
    have hsign : [(signOf below).1] = [] ∨ [(signOf below).1] = ['+'] ∨
        [(signOf below).1] = ['-'] := by
      cases below <;> simp [signOf]
    exact .some (.inl rfl) hsign hdigits hne

theorem numberText_float {x : Double} (h : x.isFinite = true) :
    NumberText (x.text floatLayout).toList := by
  obtain ⟨body, q, htext, hdecimal, -⟩ := exists_decimal h (Double.not_nan_of_isFinite h)
  obtain ⟨hwhole, hfraction, hpower, -⟩ := hdecimal
  rw [htext]
  exact .mk (sign_of_negative _) hwhole (fractionText_pointed hfraction)
    (exponentText_powered hpower)

/-! ## Strings that are written -/

theorem CharsText.append {s t : List Char} (hs : CharsText s) (ht : CharsText t) :
    CharsText (s ++ t) := by
  induction hs with
  | nil => exact ht
  | cons h _ ih =>
    rw [List.append_assoc]
    exact .cons h ih

theorem CharText.chars {s : List Char} (h : CharText s) : CharsText s := by
  rw [← List.append_nil s]
  exact .cons h .nil

theorem charText_unit {n : Nat} (h : n < 0x10000) : CharText (unitEscape n) := by
  have hdigit : ∀ d < 16, (hexValue? (Nat.digitChar d)).isSome = true := by decide
  unfold unitEscape
  rw [hex_four h]
  refine .unit fun digit hmem => ?_
  simp only [List.mem_cons, List.not_mem_nil, or_false] at hmem
  rcases hmem with rfl | rfl | rfl | rfl <;> exact hdigit _ (by omega)

theorem charsText_escaped (c : Char) : CharsText (escaped c) := by
  have hlt : c.toNat < 0x110000 := toNat_lt c
  unfold escaped
  simp only
  split
  · next hsmall => exact (charText_unit hsmall).chars
  · exact (charText_unit (by omega)).chars.append (charText_unit (by omega)).chars

theorem charsText_stringPoint (style : Style) (point : Nat) :
    CharsText (stringPoint style point) := by
  unfold stringPoint
  split
  · next hhalf =>
    unfold isHalf at hhalf
    simp only [Bool.and_eq_true, decide_eq_true_eq] at hhalf
    exact (charText_unit (by omega)).chars
  · have hwritten := written_stringChar style (Char.ofNat point)
    generalize Char.ofNat point = c at hwritten ⊢
    generalize stringChar style c = text at hwritten ⊢
    cases hwritten with
    | self hquote hslash h => exact (CharText.plain hquote hslash h).chars
    | letter _ h => exact (CharText.letter (by rw [h]; rfl)).chars
    | units => exact charsText_escaped c

theorem stringText_quoted (style : Style) (t : Text) : StringText (quoted style t) := by
  refine .mk ?_
  generalize t.points = points
  induction points with
  | nil => exact .nil
  | cons point points ih => exact (charsText_stringPoint style point).append ih

/-! ## Values that are written -/

theorem blanks_nil : Blanks [] := nofun

theorem blanks_space : Blanks [' '] := List.forall_mem_singleton.2 rfl

theorem itemsText_textOf {v : Value} {vs : List Value} (hbefore : Blanks before)
    (hafter : Blanks after) (hv : ValueText (textOf style level v))
    (hvs : ∀ w ∈ vs, ValueText (textOf style level w)) :
    ItemsText (before ++ (textOf style level v ++ (textOfItems style level vs ++ after))) := by
  induction vs generalizing v before with
  | nil =>
    rw [textOfItems, List.nil_append]
    exact .last (.mk hbefore hv hafter)
  | cons w vs ih =>
    obtain ⟨hw, hvs⟩ := List.forall_mem_cons.1 hvs
    have hnext := ItemsText.next (.mk hbefore hv blanks_nil) (ih (isBlank_gap style level) hw hvs)
    simpa only [textOfItems, List.append_nil, List.append_assoc, List.cons_append] using hnext

theorem memberText_textOf (key : Text) {v : Value} (hbefore : Blanks before)
    (hafter : Blanks after) (hv : ValueText (textOf style level v)) :
    MemberText (before ++ (quoted style key ++ (':' :: ' ' :: (textOf style level v ++ after)))) :=
  .mk hbefore (stringText_quoted style key) blanks_nil (.mk blanks_space hv hafter)

theorem membersText_textOf (key : Text) {v : Value} {ms : Members} (hbefore : Blanks before)
    (hafter : Blanks after) (hv : ValueText (textOf style level v))
    (hms : ∀ m ∈ ms, ValueText (textOf style level m.2)) :
    MembersText (before ++ (quoted style key ++ (':' :: ' ' :: (textOf style level v
      ++ (textOfMembers style level ms ++ after))))) := by
  induction ms generalizing key v before with
  | nil =>
    rw [textOfMembers, List.nil_append]
    exact .last (memberText_textOf key hbefore hafter hv)
  | cons m ms ih =>
    obtain ⟨next, w⟩ := m
    obtain ⟨hw, hms⟩ := List.forall_mem_cons.1 hms
    have hnext := MembersText.next (memberText_textOf key hbefore blanks_nil hv)
      (ih next (isBlank_gap style level) hw hms)
    simpa only [textOfMembers, List.append_nil, List.append_assoc, List.cons_append] using hnext

theorem valueText_textOf {v : Value} (h : AllFinite v) (style : Style) (level : Nat) :
    ValueText (textOf style level v) := by
  induction h generalizing level with
  | null => rw [textOf]; exact .null
  | bool b =>
    cases b
    · rw [textOf]; exact .false
    · rw [textOf]; exact .true
  | int n => rw [textOf]; exact .number (numberText_int n)
  | float h => rw [textOf]; exact .number (numberText_float h)
  | text t => rw [textOf]; exact .string (stringText_quoted style t)
  | @list vs _ ih =>
    cases vs with
    | nil => rw [textOf]; exact .noItems blanks_nil
    | cons v vs =>
      obtain ⟨hv, hvs⟩ := List.forall_mem_cons.1 ih
      have hitems := itemsText_textOf (isBlank_edge style (level + 1)) (isBlank_edge style level)
        (hv (level + 1)) fun w hw => hvs w hw (level + 1)
      rw [textOf]
      simpa only [List.append_assoc] using ValueText.items hitems
  | @object ms _ ih =>
    rcases ms with _ | ⟨⟨key, v⟩, ms⟩
    · rw [textOf]; exact .noMembers blanks_nil
    · obtain ⟨hv, hms⟩ := List.forall_mem_cons.1 ih
      have hmembers := membersText_textOf key (isBlank_edge style (level + 1))
        (isBlank_edge style level) (hv (level + 1)) fun m hm => hms m hm (level + 1)
      rw [textOf]
      simpa only [List.append_assoc, List.cons_append] using ValueText.members hmembers

/-- Whatever is written, all of whose numbers are finite, **is valid**. -/
theorem valid_characters {v : Value} (h : AllFinite (if style.sortKeys then sorted v else v)) :
    Valid (characters style v) := by
  have hvalid := ElementText.mk blanks_nil (valueText_textOf h style 0) blanks_nil
  rw [characters, putValue_eq, List.append_nil, List.reverse_reverse]
  rwa [List.nil_append, List.append_nil] at hvalid

end Drift.Json
