import Drift.Proofs.Result
import Drift.Settings

/-!
# What decides a setting

* `Settings.Spells`, `Settings.Fits` — which values a field takes, and the value that is then set.
* `Settings.First` — the first of several values by a property of their names.
* `Settings.Decides` — the value that decides a field: that of the first source that supplies one.
* `Settings.ofSources_eq_ok_iff` — the settings hold for each field the value that its source gives,
  or the default.
* **`Settings.settles_iff`** — so it is for overrides, variables and the members of a file.
-/

namespace Drift.Settings

/-! ## Values that fit -/

/-- The value **spells a whole number**. -/
inductive Spells : Json.Value → Int → Prop where
  | bool (b : Bool) : Spells (.bool b) (if b then 1 else 0)
  | int (n : Int) : Spells (.int n) n
  | float {x : Double} {n : Int} (h : x.toInt? = some n) : Spells (.float x) n
  | text {s : String} {n : Int} (h : Numeral.toInt s = .ok n) : Spells (.text (.plain s)) n

/-- The text in capital letters, as far as they are made of ASCII letters. -/
def inCapitals (s : String) : String := String.ofList (s.toList.flatMap Unicode.asciiCapitals)

/-- A value **fits a field**, which is then set to another one: the name of a level in capital
letters, that of a format in small ones, a text as it is, or a number from zero to nine. -/
inductive Fits : Field → Json.Value → Json.Value → Prop where
  | level {s : String} {l : Level} (h : inCapitals s = levelName l) :
      Fits .logLevel (.text (.plain s)) (.text (levelName l))
  | format {s : String} {f : LogFormat} (h : inSmallLetters s = formatName f) :
      Fits .logFormat (.text (.plain s)) (.text (formatName f))
  | path (t : Json.Text) : Fits .logPath (.text t) (.text t)
  | number {v : Json.Value} {n : Int} (h : Spells v n) (hn : 0 ≤ n ∧ n ≤ 9) :
      Fits .compressionLevel v (.int n)

section

variable {v w : Json.Value}

theorem find?_name_iff {α : Type} {key : α → String} (hkey : Function.Injective key) {items : List α}
    {name : String} {a : α} :
    items.find? (key · == name) = some a ↔ a ∈ items ∧ name = key a := by
  constructor
  · intro h
    have hname := List.find?_some (p := (key · == name)) h
    exact ⟨List.mem_of_find?_eq_some h, (eq_of_beq hname).symm⟩
  · rintro ⟨ha, rfl⟩
    have hsome : (items.find? (key · == key a)).isSome = true :=
      List.find?_isSome.2 ⟨a, ha, beq_self_eq_true (key a)⟩
    obtain ⟨b, hb⟩ := Option.isSome_iff_exists.1 hsome
    have hname := List.find?_some (p := (key · == key a)) hb
    obtain rfl := hkey (eq_of_beq hname)
    exact hb

theorem levelName_injective : Function.Injective levelName := by
  intro l l' h
  cases l <;> cases l' <;> first | rfl | exact absurd h (by decide)

theorem formatName_injective : Function.Injective formatName := by
  intro f f' h
  cases f <;> cases f' <;> first | rfl | exact absurd h (by decide)

theorem levelOf_eq_ok_iff {l : Level} :
    levelOf v = .ok l ↔ Fits .logLevel v (.text (levelName l)) := by
  constructor
  · intro h
    unfold levelOf at h
    split at h
    · cases h
    · next s =>
      simp only at h
      split at h
      · next l' hfind =>
        cases h
        exact .level ((find?_name_iff levelName_injective).1 hfind).2
      · cases h
    · cases h
  · intro h
    generalize hw : Json.Value.text (levelName l) = w at h
    cases h with
    | @level s _ h =>
      obtain rfl := levelName_injective (Json.Text.plain.inj (Json.Value.text.inj hw))
      have hfind : [Level.debug, .info, .warning, .error, .critical].find?
          (levelName · == String.ofList (s.toList.flatMap Unicode.asciiCapitals)) = some l :=
        (find?_name_iff levelName_injective).2 ⟨by cases l <;> decide, h⟩
      unfold levelOf
      simp only [hfind]

theorem formatOf_eq_ok_iff {f : LogFormat} :
    formatOf v = .ok f ↔ Fits .logFormat v (.text (formatName f)) := by
  constructor
  · intro h
    unfold formatOf at h
    split at h
    · cases h
    · next s =>
      simp only at h
      split at h
      · next f' hfind =>
        cases h
        exact .format ((find?_name_iff formatName_injective).1 hfind).2
      · cases h
    · cases h
  · intro h
    generalize hw : Json.Value.text (formatName f) = w at h
    cases h with
    | @format s _ h =>
      obtain rfl := formatName_injective (Json.Text.plain.inj (Json.Value.text.inj hw))
      have hfind : [LogFormat.console, .json].find? (formatName · == inSmallLetters s) = some f :=
        (find?_name_iff formatName_injective).2 ⟨by cases f <;> decide, h⟩
      unfold formatOf
      simp only [hfind]

theorem textOf_eq_ok_iff {t : Json.Text} : textOf v = .ok t ↔ Fits .logPath v (.text t) := by
  constructor
  · intro h
    unfold textOf at h
    split at h
    · cases h
      exact .path _
    · cases h
  · intro h
    cases h
    rfl

theorem spells_of_numberOf {n : Int} (h : numberOf v = .ok n) : Spells v n := by
  unfold numberOf at h
  split at h
  · cases h
    exact .bool _
  · cases h
    exact .int _
  · split at h
    · split at h
      · next hx =>
        split at h
        · cases h
          exact .float hx
        · cases h
      · cases h
    · cases h
  · cases h
  · split at h
    · next hs =>
      cases h
      exact .text hs
    · cases h
    · cases h
  · cases h
  · cases h
  · cases h

theorem numberOf_of_spells {n : Int} (h : Spells v n) (hn : n.natAbs < floatLimit) :
    numberOf v = .ok n := by
  cases h with
  | bool | int => rfl
  | @float x _ hx =>
    have hfinite : x.isFinite = true := by
      unfold Double.toInt? at hx
      cases hx' : x.isFinite with
      | true => rfl
      | false =>
        rw [hx', if_pos (by decide)] at hx
        cases hx
    unfold numberOf
    simp only [hfinite, hx, if_true]
    exact if_pos hn
  | text h =>
    unfold numberOf
    simp only [h]

theorem digitOf_eq_ok_iff {d : Fin 10} :
    digitOf v = .ok d ↔ Fits .compressionLevel v (.int d.val) := by
  constructor
  · intro h
    unfold digitOf at h
    split at h
    · cases h
    · next n hn =>
      split at h
      · cases h
      · next hpos =>
        split at h
        · next hlt =>
          cases h
          have hval : ((⟨n.toNat, hlt⟩ : Fin 10).val : Int) = n := Int.toNat_of_nonneg (by omega)
          rw [hval]
          exact .number (spells_of_numberOf hn) (by omega)
        · cases h
  · intro h
    generalize hw : Json.Value.int d.val = w at h
    cases h with
    | number h hn =>
      cases hw
      have hnumber := numberOf_of_spells h (by unfold floatLimit; omega)
      unfold digitOf
      simp only [hnumber]
      rw [if_neg (by omega), dif_pos (by omega)]
      simp

end

/-! ## Fields one by one -/

/-- A check lets through **just what fits a field**; `form` is the value that is set. -/
structure Checks {α : Type} (f : Field) (check : Json.Value → Except Flaw α) (default : α)
    (form : α → Json.Value) : Prop where
  injective : Function.Injective form
  fits : ∀ {v a}, check v = .ok a ↔ Fits f v (form a)
  forms : ∀ {v w}, Fits f v w → ∃ a, w = form a
  default : form default = defaults.value f

theorem text_injective {α : Type} {name : α → String} (h : Function.Injective name) :
    Function.Injective fun a => Json.Value.text (name a) := fun _ _ heq =>
  h (Json.Text.plain.inj (Json.Value.text.inj heq))

theorem checks_logLevel :
    Checks .logLevel levelOf .warning fun l => .text (levelName l) where
  injective := text_injective levelName_injective
  fits := levelOf_eq_ok_iff
  forms h := by cases h; exact ⟨_, rfl⟩
  default := rfl

theorem checks_logFormat :
    Checks .logFormat formatOf .console fun f => .text (formatName f) where
  injective := text_injective formatName_injective
  fits := formatOf_eq_ok_iff
  forms h := by cases h; exact ⟨_, rfl⟩
  default := rfl

theorem checks_logPath : Checks .logPath textOf ".control-log" .text where
  injective _ _ h := Json.Value.text.inj h
  fits := textOf_eq_ok_iff
  forms h := by cases h; exact ⟨_, rfl⟩
  default := rfl

theorem checks_compressionLevel :
    Checks .compressionLevel digitOf 6 fun d => .int d.val where
  injective _ _ h := Fin.ext (Int.ofNat.inj (Json.Value.int.inj h))
  fits := digitOf_eq_ok_iff
  forms h := by
    cases h with
    | @number _ n _ hn =>
      have hval : ((⟨n.toNat, by omega⟩ : Fin 10).val : Int) = n := Int.toNat_of_nonneg hn.1
      exact ⟨⟨n.toNat, by omega⟩, by rw [hval]⟩
  default := rfl

/-- What a field is set to when a source supplies `v`, or none does. -/
def Settles (f : Field) (v : Option Json.Value) (w : Json.Value) : Prop :=
  match v with
  | none => w = defaults.value f
  | some v => Fits f v w

section

variable {α : Type} {f : Field} {check : Json.Value → Except Flaw α} {default : α}
  {form : α → Json.Value} {v : Option Json.Value}

theorem choose_eq_ok_iff (h : Checks f check default form) {a : α} :
    choose f check default v = .ok a ↔ Settles f v (form a) := by
  unfold choose Settles
  cases v with
  | none =>
    simp only [Except.ok.injEq]
    rw [← h.default, h.injective.eq_iff, eq_comm]
  | some v =>
    simp only [← h.fits]
    exact ⟨eq_ok_of_mapError, fun hv => by rw [hv]; rfl⟩

theorem exists_choose_iff (h : Checks f check default form) :
    (∃ a, choose f check default v = .ok a) ↔ ∀ u, v = some u → ∃ w, Fits f u w := by
  cases v with
  | none => exact iff_of_true ⟨default, rfl⟩ nofun
  | some v =>
    simp only [Option.some.injEq, forall_eq']
    constructor
    · rintro ⟨a, ha⟩
      exact ⟨form a, h.fits.1 (eq_ok_of_mapError ha)⟩
    · rintro ⟨w, hw⟩
      obtain ⟨a, rfl⟩ := h.forms hw
      exact ⟨a, by rw [choose, h.fits.2 hw]; rfl⟩

theorem choose_eq_error (h : Checks f check default form) {e : Field × Flaw}
    (herror : choose f check default v = .error e) :
    e.1 = f ∧ ∃ u, v = some u ∧ ¬ ∃ w, Fits f u w := by
  cases v with
  | none => cases herror
  | some v =>
    rw [choose] at herror
    cases hcheck : check v with
    | ok =>
      rw [hcheck] at herror
      cases herror
    | error flaw =>
      rw [hcheck] at herror
      cases herror
      refine ⟨rfl, v, rfl, ?_⟩
      rintro ⟨w, hw⟩
      obtain ⟨a, rfl⟩ := h.forms hw
      rw [h.fits.2 hw] at hcheck
      cases hcheck

end

/-! ## All fields -/

variable {sources : List Supply} {s : Settings}

theorem ofSources_eq_ok {l : Level} {f : LogFormat} {t : Json.Text} {d : Fin 10}
    (hlevel : choose .logLevel levelOf .warning (supplied sources .logLevel) = .ok l)
    (hformat : choose .logFormat formatOf .console (supplied sources .logFormat) = .ok f)
    (hpath : choose .logPath textOf ".control-log" (supplied sources .logPath) = .ok t)
    (hdigit : choose .compressionLevel digitOf 6 (supplied sources .compressionLevel) = .ok d) :
    ofSources sources = .ok ⟨l, f, t, d⟩ := by
  unfold ofSources
  rw [hlevel, hformat, hpath, hdigit]
  rfl

/-- The settings hold for each field **what its source gives**, or the default. -/
theorem ofSources_eq_ok_iff :
    ofSources sources = .ok s ↔ ∀ f, Settles f (supplied sources f) (s.value f) := by
  constructor
  · intro h
    obtain ⟨_, hlevel, h⟩ := bind_eq_ok_iff.1 h
    obtain ⟨_, hformat, h⟩ := bind_eq_ok_iff.1 h
    obtain ⟨_, hpath, h⟩ := bind_eq_ok_iff.1 h
    obtain ⟨_, hdigit, h⟩ := bind_eq_ok_iff.1 h
    cases h
    intro f
    cases f with
    | logLevel => exact (choose_eq_ok_iff checks_logLevel).1 hlevel
    | logFormat => exact (choose_eq_ok_iff checks_logFormat).1 hformat
    | logPath => exact (choose_eq_ok_iff checks_logPath).1 hpath
    | compressionLevel => exact (choose_eq_ok_iff checks_compressionLevel).1 hdigit
  · intro h
    exact ofSources_eq_ok ((choose_eq_ok_iff checks_logLevel).2 (h _))
      ((choose_eq_ok_iff checks_logFormat).2 (h _)) ((choose_eq_ok_iff checks_logPath).2 (h _))
      ((choose_eq_ok_iff checks_compressionLevel).2 (h _))

/-- There are settings when **every value that is supplied fits** its field. -/
theorem exists_ofSources_iff : (∃ s, ofSources sources = .ok s) ↔
    ∀ f v, supplied sources f = some v → ∃ w, Fits f v w := by
  constructor
  · rintro ⟨s, h⟩ f v hv
    have hsettles := ofSources_eq_ok_iff.1 h f
    rw [hv] at hsettles
    exact ⟨_, hsettles⟩
  · intro h
    obtain ⟨l, hlevel⟩ := (exists_choose_iff checks_logLevel).2 (h _)
    obtain ⟨f, hformat⟩ := (exists_choose_iff checks_logFormat).2 (h _)
    obtain ⟨t, hpath⟩ := (exists_choose_iff checks_logPath).2 (h _)
    obtain ⟨d, hdigit⟩ := (exists_choose_iff checks_compressionLevel).2 (h _)
    exact ⟨_, ofSources_eq_ok hlevel hformat hpath hdigit⟩

theorem ofSources_eq_error {e : Field × Flaw} (h : ofSources sources = .error e) :
    ∃ v, supplied sources e.1 = some v ∧ ¬ ∃ w, Fits e.1 v w := by
  have hreport {α : Type} {f : Field} {check : Json.Value → Except Flaw α} {default : α}
      {form : α → Json.Value} (hf : Checks f check default form)
      (herror : choose f check default (supplied sources f) = .error e) :
      ∃ v, supplied sources e.1 = some v ∧ ¬ ∃ w, Fits e.1 v w := by
    obtain ⟨rfl, h⟩ := choose_eq_error hf herror
    exact h
  rcases bind_eq_error_iff.1 h with h | ⟨_, -, h⟩
  · exact hreport checks_logLevel h
  rcases bind_eq_error_iff.1 h with h | ⟨_, -, h⟩
  · exact hreport checks_logFormat h
  rcases bind_eq_error_iff.1 h with h | ⟨_, -, h⟩
  · exact hreport checks_logPath h
  rcases bind_eq_error_iff.1 h with h | ⟨_, -, h⟩
  · exact hreport checks_compressionLevel h
  · cases h

/-! ## Sources by their names -/

/-- The **first value** of an entry whose key has a property. -/
def First {κ α : Type} (P : κ → Prop) (entries : List (κ × α)) (v : α) : Prop :=
  ∃ before key after, entries = before ++ (key, v) :: after ∧ P key ∧ ∀ e ∈ before, ¬ P e.1

theorem find?_eq_some_iff_first {κ α : Type} {P : κ → Prop} {p : κ → Bool}
    (hp : ∀ k, p k = true ↔ P k) {entries : List (κ × α)} {v : α} :
    (entries.find? fun e => p e.1).map (·.2) = some v ↔ First P entries v := by
  simp only [Option.map_eq_some_iff, List.find?_eq_some_iff_append, First, hp]
  constructor
  · rintro ⟨⟨key, _⟩, ⟨hkey, before, after, rfl, hbefore⟩, rfl⟩
    exact ⟨before, key, after, rfl, hkey, fun e he => by simpa [← hp] using hbefore e he⟩
  · rintro ⟨before, key, after, rfl, hkey, hbefore⟩
    exact ⟨(key, v), ⟨hkey, before, after, rfl, fun e he => by simpa [← hp] using hbefore e he⟩,
      rfl⟩

/-- The field **is called by the key**, in any letter case. -/
def Field.CalledBy (f : Field) (key : Json.Text) : Prop :=
  ∃ name, key = .plain name ∧ inSmallLetters name = f.name

/-- The field **is set by the variable** of the name, in any letter case. -/
def Field.SetBy (f : Field) (name : String) : Prop :=
  inSmallLetters name = inSmallLetters ("CONTROL_" ++ f.name)

/-- The value that **decides a field**: that of the first override for it that is not null; without
one, the text of the last variable for it; without one, the value of the first member of the file
that the field is called by. -/
inductive Decides (overrides : Json.Members) (env : Environment) (file : Json.Members) (f : Field) :
    Json.Value → Prop where
  | override {v : Json.Value} (h : First f.CalledBy (overrides.filter (isPresent ·.2)) v) :
      Decides overrides env file f v
  | environment {text : String}
      (hover : ¬ ∃ v, First f.CalledBy (overrides.filter (isPresent ·.2)) v)
      (h : First f.SetBy env.vars.reverse text) : Decides overrides env file f (.text text)
  | member {v : Json.Value}
      (hover : ¬ ∃ v, First f.CalledBy (overrides.filter (isPresent ·.2)) v)
      (hvar : ¬ ∃ text, First f.SetBy env.vars.reverse text) (h : First f.CalledBy file v) :
      Decides overrides env file f v

variable {overrides file : Json.Members} {env : Environment} {f : Field} {v : Json.Value}

theorem ofFile_eq_some_iff : ofFile file f = some v ↔ First f.CalledBy file v := by
  refine find?_eq_some_iff_first
    (p := fun key : Json.Text => key.string?.any (inSmallLetters · == f.name)) fun key => ?_
  cases key <;> simp [Json.Text.string?, Field.CalledBy]

theorem ofEnvironment_eq_some_iff : ofEnvironment env f = some v ↔
    ∃ text : String, v = .text text ∧ First f.SetBy env.vars.reverse text := by
  have hfind {text : String} : (env.vars.reverse.find? fun e =>
      inSmallLetters e.1 == inSmallLetters ("CONTROL_" ++ f.name)).map (·.2) = some text ↔
        First f.SetBy env.vars.reverse text :=
    find?_eq_some_iff_first
      (p := fun name => inSmallLetters name == inSmallLetters ("CONTROL_" ++ f.name))
      fun _ => beq_iff_eq
  have hsource : ofEnvironment env f =
      ((env.vars.reverse.find? fun e =>
          inSmallLetters e.1 == inSmallLetters ("CONTROL_" ++ f.name)).map (·.2)).map
        fun text => .text (.plain text) := by
    rw [Option.map_map, ofEnvironment, ofVariables]
    simp [Convention.isNamedFor, Convention.valueOf, Function.comp_def]
  simp only [hsource, Option.map_eq_some_iff (f := fun text => Json.Value.text (.plain text)), hfind]
  exact ⟨fun ⟨text, h, hv⟩ => ⟨text, hv.symm, h⟩, fun ⟨text, hv, h⟩ => ⟨text, h, hv.symm⟩⟩

theorem eq_none_iff_not_exists {α : Type} {found : Option α} {P : α → Prop}
    (h : ∀ {a}, found = some a ↔ P a) : found = none ↔ ¬ ∃ a, P a := by
  simp only [← h, Option.eq_none_iff_forall_ne_some, not_exists, ne_eq]

theorem supplied_eq_some_iff :
    supplied [ofPresent overrides, ofEnvironment env, ofFile file] f = some v ↔
      Decides overrides env file f v := by
  have hover {v : Json.Value} : ofPresent overrides f = some v ↔
      First f.CalledBy (overrides.filter (isPresent ·.2)) v := ofFile_eq_some_iff
  have hfirst : supplied [ofPresent overrides, ofEnvironment env, ofFile file] f =
      (ofPresent overrides f).or ((ofEnvironment env f).or (ofFile file f)) := by
    simp only [supplied, List.findSome?_cons, List.findSome?_nil]
    cases ofPresent overrides f <;> cases ofEnvironment env f <;> cases ofFile file f <;> rfl
  rw [hfirst, Option.or_eq_some_iff, Option.or_eq_some_iff, eq_none_iff_not_exists hover,
    eq_none_iff_not_exists ofEnvironment_eq_some_iff, hover, ofEnvironment_eq_some_iff,
    ofFile_eq_some_iff]
  constructor
  · rintro (h | ⟨hover, ⟨text, rfl, h⟩ | ⟨henv, h⟩⟩)
    · exact .override h
    · exact .environment hover h
    · exact .member hover (fun ⟨text, hvar⟩ => henv ⟨_, text, rfl, hvar⟩) h
  · intro h
    cases h with
    | override h => exact .inl h
    | environment hover h => exact .inr ⟨hover, .inl ⟨_, rfl, h⟩⟩
    | member hover henv h =>
      exact .inr ⟨hover, .inr ⟨fun ⟨_, text, _, hvar⟩ => henv ⟨text, hvar⟩, h⟩⟩

/-- A field is set to a value that fits what decides it, or to its default when nothing does. -/
theorem settles_iff {w : Json.Value} :
    Settles f (supplied [ofPresent overrides, ofEnvironment env, ofFile file] f) w ↔
      (∃ v, Decides overrides env file f v ∧ Fits f v w) ∨
        (¬ ∃ v, Decides overrides env file f v) ∧ w = defaults.value f := by
  simp only [← supplied_eq_some_iff]
  cases supplied [ofPresent overrides, ofEnvironment env, ofFile file] f <;> simp [Settles]

end Drift.Settings
