import Drift.Configuration
import Drift.Proofs.Settings
import Drift.Proofs.Utf8
import Drift.Proofs.Words

/-!
# Settings are decided field by field

* `Json.apart_of_isBlank` — no blank begins a value, whichever characters count as blanks;
  `Json.parse_of_blank` — so a text of blanks is malformed, and none of its numbers is too long.
* `Configuration.Holds` — the configuration file is missing, or it holds an object;
  `Configuration.members_of_holds` — its members are then read.
* `Configuration.Ordinary` — overrides that are none but for fields.
* **`Configuration.settings_decided_field_by_field`** — the settings are what decides each field, and
  the report names a field that nothing fit for decides.
-/

/-! ## Blank texts -/

namespace Drift.Json

/-- The characters that a value **begins with**, digits apart. -/
def leads : List Char := ['"', '[', '\x7b', '-', 'n', 't', 'f', 'N', 'I']

theorem apart_of_isBlank {c : Char} (h : Unicode.isBlank c = true) :
    c.isDigit = false ∧ c ∉ leads := by
  constructor
  · have hapart : ∀ blank ∈ Unicode.blanks, blank.2 < 48 ∨ 57 < blank.1 := by decide
    obtain ⟨blank, hblank, hfrom, hto⟩ := Unicode.CharSet.exists_range h
    have hzero : '0'.toNat = 48 := rfl
    have hnine : '9'.toNat = 57 := rfl
    have := hapart blank hblank
    rw [Bool.eq_false_iff, ne_eq, Char.isDigit_iff_toNat]
    omega
  · intro hmem
    have hleads : leads.filter Unicode.isBlank = [] := by decide
    exact List.filter_eq_nil_iff.1 hleads c hmem h

theorem name?_of_apart {c : Char} (h : c ∉ leads) (tail : List Char) : name? (c :: tail) = none := by
  have hnames : ∀ entry ∈ names, entry.1.toList.head? ∈ leads.map some := by decide
  unfold name?
  rw [List.findSome?_eq_none_iff]
  intro entry hentry
  obtain ⟨d, hd, hhead⟩ := List.mem_map.1 (hnames entry hentry)
  obtain ⟨more, hname⟩ := List.head?_eq_some_iff.1 hhead.symm
  refine if_neg fun hprefix => h ?_
  rw [hname, List.isPrefixOf_iff_prefix] at hprefix
  exact (List.cons_prefix_cons.1 hprefix).1 ▸ hd

theorem value_of_blank {s : List Char} (h : ∀ c ∈ s.head?, Unicode.isBlank c = true) (fuel : Nat) :
    value fuel s = refuse .noValue s := by
  cases fuel with
  | zero => rfl
  | succ fuel =>
    cases s with
    | nil => rfl
    | cons c tail =>
      obtain ⟨hdigit, hlead⟩ := apart_of_isBlank (h c rfl)
      have hnumber : number (c :: tail) false (c :: tail) = refuse .noValue (c :: tail) := by
        have hzero : c ≠ '0' := by rintro rfl; cases hdigit
        have hwhole : wholePart (c :: tail) = ([], c :: tail) := by
          unfold wholePart
          split
          · next heq => exact absurd (List.cons.inj heq).1 hzero
          · rw [List.takeWhile_cons_of_neg (by simp [hdigit]),
              List.dropWhile_cons_of_neg (by simp [hdigit])]
        unfold number
        rw [hwhole]
      have hscalar : scalar (c :: tail) = refuse .noValue (c :: tail) := by
        unfold scalar
        simp only [name?_of_apart hlead]
        split
        · next heq => exact absurd ((List.cons.inj heq).1 ▸ hlead) (by decide)
        · exact hnumber
      unfold value
      split
      · next heq => exact absurd ((List.cons.inj heq).1 ▸ hlead) (by decide)
      · next heq => exact absurd ((List.cons.inj heq).1 ▸ hlead) (by decide)
      · next heq => exact absurd ((List.cons.inj heq).1 ▸ hlead) (by decide)
      · exact hscalar

/-- A text of blanks **is malformed**. -/
theorem parse_of_blank {text : List Char} (h : ∀ c ∈ text, Unicode.isBlank c = true) :
    ∃ flaw left, parse text = .error (.malformed flaw left) := by
  have hrest : ∀ c ∈ (skip text).head?, Unicode.isBlank c = true := fun c hc =>
    h c ((List.dropWhile_sublist _).subset (List.mem_of_mem_head? hc))
  unfold parse
  split
  · exact ⟨_, _, rfl⟩
  · rw [value_of_blank hrest]
    exact ⟨_, _, rfl⟩

end Drift.Json

namespace Drift.Configuration

open Settings (Decides Environment Field Fits Settles defaults ofEnvironment ofFile ofPresent
  ofSources supplied)

/-! ## The file -/

/-- The configuration file is missing, or **holds an object** of these members. -/
inductive Holds (env : Environment) (fs : FileSystem) : Json.Members → Prop where
  | missing {file : Path} (hpath : expandHome env (path env) = .ok file)
      (hfile : fs.isFile file = .ok false) : Holds env fs []
  | object {file : Path} {text : List Char} {members : Json.Members}
      (hpath : expandHome env (path env) = .ok file) (hfile : fs.isFile file = .ok true)
      (htext : readText fs file = .ok text) (hobject : parse text = .ok (.object members)) :
      Holds env fs members

theorem mem_plainLineEndsOnto {c : Char} {done s : List Char} (h : c ∈ plainLineEndsOnto done s) :
    c ∈ done ∨ c ∈ s ∨ c = '\n' := by
  fun_induction plainLineEndsOnto done s with
  | case1 done => exact .inl (List.mem_reverse.1 h)
  | case2 done rest ih | case3 done rest _ ih =>
    rcases ih h with h | h | h
    · rcases List.mem_cons.1 h with h | h
      · exact .inr (.inr h)
      · exact .inl h
    · exact .inr (.inl (by simp [h]))
    · exact .inr (.inr h)
  | case4 done d rest _ _ ih =>
    rcases ih h with h | h | h
    · rcases List.mem_cons.1 h with rfl | h
      · exact .inr (.inl List.mem_cons_self)
      · exact .inl h
    · exact .inr (.inl (List.mem_cons_of_mem _ h))
    · exact .inr (.inr h)

theorem parse_of_blank {text : List Char} (h : text.all Unicode.isBlank = true) :
    ∃ t flaw left, parse text = .error (.json t (.malformed flaw left)) := by
  have hblank : ∀ c ∈ plainLineEndsOnto [] text, Unicode.isBlank c = true := by
    intro c hc
    rcases mem_plainLineEndsOnto hc with hc | hc | rfl
    · cases hc
    · exact List.all_eq_true.1 h c hc
    · decide
  obtain ⟨flaw, left, hparse⟩ := Json.parse_of_blank hblank
  exact ⟨_, flaw, left, congrArg (Except.mapError _) hparse⟩

theorem not_blank_of_parse {text : List Char} {v : Json.Value} (h : parse text = .ok v) :
    text.all Unicode.isBlank = false := by
  rw [Bool.eq_false_iff]
  intro hblank
  obtain ⟨t, flaw, left, hparse⟩ := parse_of_blank hblank
  cases h.symm.trans hparse

variable {env : Environment} {fs : FileSystem} {file overrides : Json.Members}

theorem readText_of_read {p : Path} {text : List Char} (h : fs.read p = .ok (Utf8.encode text)) :
    readText fs p = .ok text := by
  have hdecode : Utf8.decode (Utf8.encode text) = .ok text := Utf8.decode_eq_ok_iff.2 rfl
  unfold readText
  simp only [h, Encoding.decodeUtf8, hdecode]
  rfl

theorem members_of_holds (h : Holds env fs file) : members env fs = .ok file := by
  cases h with
  | missing hpath hfile =>
    unfold members
    rw [hpath]
    simp only [bind, Except.bind, hfile]
    rfl
  | object hpath hfile htext hobject =>
    unfold members
    rw [hpath]
    simp only [bind, Except.bind, hfile, htext, not_blank_of_parse hobject, hobject]
    rfl

/-! ## Overrides -/

/-- The names of overrides that say **how variables name fields**. -/
def conventions : List String :=
  ["_case_sensitive", "_env_ignore_empty", "_env_parse_none_str", "_env_prefix"]

/-- No override but for **fields**, and names that mean nothing. -/
def Ordinary (overrides : Json.Members) : Prop :=
  ∀ name ∈ conventions, Settings.override? overrides name = none

theorem load_of_holds (h : Holds env fs file) (hoverrides : Ordinary overrides) :
    load env fs overrides = (ofSources [ofPresent overrides, ofEnvironment env, ofFile file]).mapError
      fun flaw => .issue (notFitting flaw) := by
  have hgiven : ∀ name ∈ conventions, Settings.override? overrides name = none := hoverrides
  simp only [conventions, List.forall_mem_cons] at hgiven
  obtain ⟨hcase, hempty, hnull, hlead, -⟩ := hgiven
  have hconvention : Settings.conventionOf? overrides = some {} := by
    unfold Settings.conventionOf?
    simp only [hcase, hempty, hnull, hlead]
    rfl
  unfold load
  simp only [members_of_holds h, hconvention]
  rfl

/-- The settings **are decided field by field**: each of them is what the value that decides it is
set to, or its default when nothing decides it. There are settings exactly when all these values
fit; and otherwise the report names a field whose value does not. -/
theorem settings_decided_field_by_field (h : Holds env fs file) (hoverrides : Ordinary overrides) :
    (∀ s, load env fs overrides = .ok s ↔ ∀ f,
      (∃ v, Decides overrides env file f v ∧ Fits f v (s.value f)) ∨
        (¬ ∃ v, Decides overrides env file f v) ∧ s.value f = defaults.value f) ∧
    ((∃ s, load env fs overrides = .ok s) ↔
      ∀ f v, Decides overrides env file f v → ∃ w, Fits f v w) ∧
    ((¬ ∃ s, load env fs overrides = .ok s) → ∃ flaw v,
      load env fs overrides = .error (.issue (notFitting flaw)) ∧
        Decides overrides env file flaw.1 v ∧ ¬ ∃ w, Fits flaw.1 v w) := by
  have hok (s : Settings) : load env fs overrides = .ok s ↔
      ofSources [ofPresent overrides, ofEnvironment env, ofFile file] = .ok s := by
    rw [load_of_holds h hoverrides]
    exact ⟨eq_ok_of_mapError, fun hs => by rw [hs]; rfl⟩
  refine ⟨fun s => ?_, ?_, fun hnone => ?_⟩
  · simp only [hok, Settings.ofSources_eq_ok_iff, Settings.settles_iff]
  · simp only [hok, Settings.exists_ofSources_iff, Settings.supplied_eq_some_iff]
  · simp only [hok] at hnone
    rw [load_of_holds h hoverrides]
    cases hsources : ofSources [ofPresent overrides, ofEnvironment env, ofFile file] with
    | ok s => exact absurd ⟨s, hsources⟩ hnone
    | error flaw =>
      obtain ⟨v, hv, hfits⟩ := Settings.ofSources_eq_error hsources
      exact ⟨flaw, v, rfl, Settings.supplied_eq_some_iff.1 hv, hfits⟩

/-! ### Sources that shadow each other -/

/-- An environment that names the directory of the file, and a path. -/
def sampleEnvironment : Environment :=
  { vars := [("CONTROL_CONFIG_DIR", "cfg"), ("Control_Log_Path", "from-env")] }

/-- A file system in which the configuration file has this text. -/
def sampleHolding (text : String) : FileSystem :=
  ⟨.directory [("cfg", .directory [("config.json", .file (Utf8.encodeString text))])], []⟩

/-- A text in which no level is named for the level. -/
def sampleMembers : String := "\x7b\"log_level\": 7, \"log_path\": \"p\", \"x\": 1\x7d"

/-- Overrides, one of which is null. -/
def sampleOverrides : Json.Members := [("log_level", .text "info"), ("log_format", .null)]

/-- The members of the object that the text holds, if it holds one. -/
def objectIn? (text : String) : Option Json.Members :=
  match parse text.toList with
  | .ok (.object members) => some members
  | _ => none

theorem holds_sample {text : String} (h : (objectIn? text).isSome = true) :
    Holds sampleEnvironment (sampleHolding text) ((objectIn? text).getD []) := by
  have hpath : expandHome sampleEnvironment (path sampleEnvironment)
      = .ok (Path.ofString "cfg/config.json") := rfl
  have hread : readText (sampleHolding text) (Path.ofString "cfg/config.json") = .ok text.toList :=
    readText_of_read rfl
  obtain ⟨members, hmembers⟩ := Option.isSome_iff_exists.1 h
  have hparse : parse text.toList = .ok (.object members) := by
    unfold objectIn? at hmembers
    split at hmembers
    · next hparse =>
      cases hmembers
      exact hparse
    · cases hmembers
  rw [hmembers]
  exact .object hpath rfl hread hparse

/-- A text in which a key is spelled in capital letters. -/
def sampleCapitals : String := "\x7b\"LOG_LEVEL\": \"loud\"\x7d"

/-- The override and the variable come before members of the file, one of which fits nothing. -/
theorem settings_decided_sampleHolding : ∃ file,
    Holds sampleEnvironment (sampleHolding sampleMembers) file ∧
    (∃ v, Decides sampleOverrides sampleEnvironment file .logPath v ∧
      Fits .logPath v (.text "from-env")) ∧
    ∀ f v, Decides sampleOverrides sampleEnvironment file f v → ∃ w, Fits f v w := by
  have hfile : Holds sampleEnvironment (sampleHolding sampleMembers) _ :=
    holds_sample (by decide +kernel)
  have hoverrides : Ordinary sampleOverrides := by unfold Ordinary; decide +kernel
  have hload : load sampleEnvironment (sampleHolding sampleMembers) sampleOverrides
      = .ok ⟨.info, .console, "from-env", 6⟩ := eq_ok_of_toOption (by decide +kernel)
  obtain ⟨hsettings, hfits, -⟩ := settings_decided_field_by_field hfile hoverrides
  refine ⟨_, hfile, ?_, hfits.1 ⟨_, hload⟩⟩
  refine ((hsettings _).1 hload .logPath).resolve_right fun h => ?_
  exact absurd h.2 fun heq => absurd (Json.Text.plain.inj (Json.Value.text.inj heq)) (by decide)

/-- The letter case of keys **does not count** in the file, so that a key that is spelled otherwise
than the field can be the one that decides, and fit nothing. -/
theorem capitals_decide : ¬ ∀ (env : Environment) (fs : FileSystem) (file : Json.Members),
    Holds env fs file → ((∃ s, load env fs [] = .ok s) ↔
      ∃ s, ofSources [ofEnvironment env, Settings.ofMembers file] = .ok s) := by
  intro hclaim
  have hfile : Holds sampleEnvironment (sampleHolding sampleCapitals) _ :=
    holds_sample (by decide +kernel)
  obtain ⟨s, hload⟩ := (hclaim _ _ _ hfile).2 (exists_eq_ok (by decide +kernel))
  have hrefused : (load sampleEnvironment (sampleHolding sampleCapitals) []).isOk = false := by
    decide +kernel
  rw [hload] at hrefused
  cases hrefused

end Drift.Configuration
