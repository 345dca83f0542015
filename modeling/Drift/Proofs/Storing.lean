import Drift.Command.Run
import Drift.Proofs.Configuration
import Drift.Proofs.FileSystem.Writing
import Drift.Proofs.Json.Lines
import Drift.Proofs.Json.Sorted
import Drift.Proofs.Settings

/-!
# Storing settings

* `Settings.Field.ofName?_eq_some_iff` — a field is found by its name.
* `Settings.Fits.unique`, `Settings.Fits.self` — a field is set to one value, which fits again;
  `Settings.Fits.shown` — so does its text.
* `Settings.Fits.readable`, `Settings.fits_sorted_iff` — it can be written and read, and the order of
  keys makes no difference to what fits.
* `Configuration.storeAll` — fields that are set one after the other, and what is stored.
* `Configuration.Keeps` — the configuration file is absent, or it holds an object.
* `Configuration.Replaced` — an object with the last stored value of each field in its place.
* `Configuration.written_of_store`, `Configuration.keeps_of_store_error` — what one call does.
* **`Configuration.run_storeAll`** — what a run of calls does.
-/

/-! ## Values that are set -/

namespace Drift.Settings

variable {f : Field} {v w w' : Json.Value}

/-! ### Fields by their names -/

theorem Field.name_injective : Function.Injective Field.name := by
  intro f g h
  cases f <;> cases g <;> first | rfl | exact absurd h (by decide)

theorem Field.ofName?_eq_some_iff {name : String} : Field.ofName? name = some f ↔ name = f.name := by
  refine (find?_name_iff Field.name_injective).trans (and_iff_right ?_)
  cases f <;> decide

theorem Field.inSmallLetters_name (f : Field) : inSmallLetters f.name = f.name := by
  cases f <;> decide +kernel

/-! ### Values that fit -/

theorem Spells.unique {m n : Int} (h : Spells v m) (h' : Spells v n) : m = n := by
  cases h with
  | bool | int => cases h'; rfl
  | float h =>
    cases h' with
    | float h' => exact Option.some.inj (h.symm.trans h')
  | text h =>
    cases h' with
    | text h' => exact Except.ok.inj (h.symm.trans h')

/-- A field is set to **one value**. -/
theorem Fits.unique (h : Fits f v w) (h' : Fits f v w') : w = w' := by
  cases h with
  | level h =>
    cases h' with
    | level h' => rw [levelName_injective (h.symm.trans h')]
  | format h =>
    cases h' with
    | format h' => rw [formatName_injective (h.symm.trans h')]
  | path => cases h'; rfl
  | number h =>
    cases h' with
    | number h' => rw [h.unique h']

theorem Settles.unique {v : Option Json.Value} (h : Settles f v w) (h' : Settles f v w') :
    w = w' := by
  cases v with
  | none => exact h.trans h'.symm
  | some v => exact Fits.unique h h'

theorem inCapitals_levelName (l : Level) : inCapitals (levelName l) = levelName l := by
  cases l <;> decide +kernel

theorem inSmallLetters_formatName (g : LogFormat) :
    inSmallLetters (formatName g) = formatName g := by
  cases g <;> decide +kernel

/-- What a field is set to **fits again**, and is left as it is. -/
theorem Fits.self (h : Fits f v w) : Fits f w w := by
  cases h with
  | @level _ l => exact .level (inCapitals_levelName l)
  | @format _ g => exact .format (inSmallLetters_formatName g)
  | path t => exact .path t
  | number _ hn => exact .number (.int _) hn

theorem toInt_toString : ∀ d : Fin 10,
    (Numeral.toInt (toString (d.val : Int))).toOption = some (d.val : Int) := by
  decide +kernel

/-- The text of what a field is set to **fits again**, when it was given as a text. -/
theorem Fits.shown {text : String} (h : Fits f (.text (.plain text)) w) :
    Fits f (.text (.plain (Command.valueText w))) w := by
  cases h with
  | @level _ l => exact .level (inCapitals_levelName l)
  | @format _ g => exact .format (inSmallLetters_formatName g)
  | path => exact .path _
  | @number _ n _ hn =>
    obtain ⟨d, rfl⟩ : ∃ d : Fin 10, n = (d.val : Int) :=
      ⟨⟨n.toNat, by omega⟩, (Int.toNat_of_nonneg hn.1).symm⟩
    exact .number (.text (eq_ok_of_toOption (toInt_toString d))) hn

/-- What a field is set to by a text can be **written and read**. -/
theorem Fits.readable {text : String} (h : Fits f (.text (.plain text)) w) : Json.Readable w := by
  cases h with
  | level | format | path => exact .text (Json.Text.proper_plain _)
  | number _ hn =>
    have hbound : (10 : Nat) ≤ 10 ^ Json.digitLimit := Nat.le_self_pow (by decide) 10
    exact .int (by omega)

/-- The order of keys **makes no difference** to what fits. -/
theorem fits_sorted_iff : Fits f (Json.sorted v) w ↔ Fits f v w := by
  cases v with
  | null | bool | int | float | text => exact Iff.rfl
  | list items =>
    rw [Json.sorted_list]
    constructor <;> (intro h; cases h with | number h => cases h)
  | object members =>
    rw [Json.sorted_object]
    constructor <;> (intro h; cases h with | number h => cases h)

end Drift.Settings

namespace Drift.Configuration

open Settings (Environment Field Fits ofEnvironment ofFile supplied)

variable {env : Environment} {fs : FileSystem} {field text : String} {members : Json.Members}
  {v : Json.Value}

/-! ## Calls one after the other -/

/-- Sets fields **one after the other**: the file system behind the last call, and the fields that
were set, with the values that were stored, in their order. -/
def storeAll (env : Environment) :
    FileSystem → List (String × String) → FileSystem × Json.Members
  | fs, [] => (fs, [])
  | fs, (field, text) :: calls =>
    match store env fs field text with
    | (next, .error _) => storeAll env next calls
    | (next, .ok v) =>
      let (last, stored) := storeAll env next calls
      (last, (.plain field, v) :: stored)

/-- The members are the old ones **with the last stored value of each field** in its place, up to
the order of keys. -/
def Replaced (stored old new : Json.Members) : Prop :=
  ∀ key, (Keyed.get? new key).map Json.sorted
    = ((Keyed.get? stored.reverse key).or (Keyed.get? old key)).map Json.sorted

theorem replaced_nil (members : Json.Members) : Replaced [] members members := fun _ => rfl

theorem Replaced.trans {stored later old mid new : Json.Members} (h : Replaced stored old mid)
    (h' : Replaced later mid new) : Replaced (stored ++ later) old new := by
  intro key
  rw [h' key, List.reverse_append, Keyed.get?_append, Option.map_or, Option.map_or, h key,
    Option.map_or, Option.map_or, Option.or_assoc]

/-! ## The file -/

/-- **Nothing is there** but perhaps a directory. When the path goes up, it leads somewhere else once
the directories on its way are made; then no sink may be anywhere. -/
structure Absent (fs : FileSystem) (p : Path) : Prop where
  nothing : ∀ names e, fs.locate .content p = .ok (.taken names e) → e.isDirectory = true
  noSink : ".." ∈ p.parts → ∀ names, fs.tree.get? names ≠ some .sink

/-- The configuration file is absent, or **holds an object** of these members. -/
inductive Keeps (env : Environment) (fs : FileSystem) : Json.Members → Prop where
  | absent (h : Absent fs (path env)) : Keeps env fs []
  | object {text : List Char} {members : Json.Members} (hfile : fs.isFile (path env) = .ok true)
      (htext : readText fs (path env) = .ok text) (hobject : parse text = .ok (.object members)) :
      Keeps env fs members

theorem Absent.not_isFile {p : Path} (h : Absent fs p) : fs.isFile p ≠ .ok true := by
  intro hfile
  obtain ⟨names, content, hplace⟩ := FileSystem.locate_of_isFile hfile
  cases h.nothing _ _ hplace

theorem Keeps.readable (h : Keeps env fs members) : Json.Readable (.object members) := by
  cases h with
  | absent => exact .object List.nodup_nil nofun nofun
  | object _ _ hobject => exact Json.readable_of_parse (eq_ok_of_mapError hobject)

theorem Keeps.eq_of_read {old : Json.Members} (h : Keeps env fs members)
    (hread : read env fs = .ok old) : old = members := by
  obtain ⟨isFile, hfile, hread⟩ := bind_eq_ok_iff.1 hread
  have hfile := eq_ok_of_mapError hfile
  cases h with
  | absent habsent =>
    cases isFile with
    | true => exact absurd hfile habsent.not_isFile
    | false => cases hread; rfl
  | object hfile' htext hobject =>
    cases hfile.symm.trans hfile'
    obtain ⟨text, htext', hread⟩ := bind_eq_ok_iff.1 hread
    cases (eq_ok_of_mapError htext').symm.trans htext
    rw [hobject] at hread
    cases hread
    rfl

theorem Keeps.read (h : Keeps env fs members) (hfile : fs.isFile (path env) = .ok true) :
    read env fs = .ok members := by
  cases h with
  | absent habsent => exact absurd hfile habsent.not_isFile
  | object _ htext hobject =>
    refine bind_eq_ok_iff.2 ⟨true, by rw [hfile]; rfl, bind_eq_ok_iff.2 ⟨_, by rw [htext]; rfl, ?_⟩⟩
    rw [hobject]

theorem Keeps.holds {isFile : Bool} (h : Keeps env fs members)
    (hpath : expandHome env (path env) = .ok (path env))
    (hasked : fs.isFile (path env) = .ok isFile) : Holds env fs members := by
  cases h with
  | absent habsent =>
    cases isFile with
    | true => exact absurd hasked habsent.not_isFile
    | false => exact .missing hpath hasked
  | object hfile htext hobject => exact .object hpath hfile htext hobject

/-! ## One call -/

theorem path_parts (env : Environment) :
    (path env).parts = (path env).parent.parts ++ ["config.json"] := by
  rw [path, Path.child, Path.parent, List.dropLast_concat]

theorem path_parts_ne_nil (env : Environment) : (path env).parts ≠ [] :=
  List.append_ne_nil_of_right_ne_nil _ (List.cons_ne_nil _ _)

theorem supplied_given (f g : Field) (given : Json.Value) (sources : List Settings.Supply) :
    supplied (Settings.ofMembers [(.plain f.name, given)] :: sources) g
      = if g = f then some given else supplied sources g := by
  unfold supplied
  rw [List.findSome?_cons, Settings.ofMembers]
  by_cases hg : g = f
  · simp [hg, Keyed.get?]
  · have hname : f.name ≠ g.name := fun heq => hg (Settings.Field.name_injective heq).symm
    simp [hg, Keyed.get?, hname]

theorem fits_of_normalized {f : Field} (h : normalized env fs f (.text text) = .ok v) :
    Fits f (.text (.plain text)) v := by
  obtain ⟨file, -, h⟩ := bind_eq_ok_iff.1 h
  obtain ⟨s, hs, h⟩ := bind_eq_ok_iff.1 h
  cases h
  have hsettles := Settings.ofSources_eq_ok_iff.1 (eq_ok_of_mapError hs) f
  rwa [supplied_given, if_pos rfl] at hsettles

theorem update_eq_ok {new : Json.Members} (h : update env fs field (.text text) = .ok (new, v)) :
    ∃ f old, field = f.name ∧ read env fs = .ok old ∧ Fits f (.text (.plain text)) v ∧
      new = Keyed.put (.plain field) v old := by
  unfold update at h
  split at h
  · cases h
  · next f hf =>
    have hname := Field.ofName?_eq_some_iff.1 hf
    obtain ⟨old, hread, h⟩ := bind_eq_ok_iff.1 h
    obtain ⟨v, hv, h⟩ := bind_eq_ok_iff.1 h
    cases h
    exact ⟨f, old, hname, hread, fits_of_normalized hv, by rw [hname]⟩

/-- The configuration file **has been written**, with these members. -/
structure Written (env : Environment) (fs : FileSystem) (members : Json.Members) : Prop where
  readable : Json.Readable (.object members)
  read : fs.read (path env) = .ok (content members)
  isFile : fs.isFile (path env) = .ok true

theorem Written.keeps (h : Written env fs members) : Keeps env fs (Json.ordered members) := by
  have hparse : parse (Json.characters fileStyle (.object members) ++ ['\n'])
      = .ok (Json.sorted (.object members)) :=
    parse_characters fileStyle (.object members) (Json.readable_sorted h.readable)
  rw [Json.sorted_object] at hparse
  exact .object h.isFile (readText_of_read h.read) hparse

theorem Absent.no_sink (h : Absent fs (path env))
    (hmade : (fs.makeDirectories (path env).parent).2 = .ok ()) (names : List String) :
    (fs.makeDirectories (path env).parent).1.locate .content (path env)
      ≠ .ok (.taken names .sink) := by
  intro hplace
  by_cases hup : ".." ∈ (path env).parts
  · have hnone := (FileSystem.furnished_makeDirectories fs (path env).parent).no_sink (h.noSink hup)
    cases FileSystem.in_of_locate hplace with
    | taken hsink => exact hnone _ hsink
  · have hup' : ".." ∉ (path env).parent.parts :=
      fun hmem => hup ((List.dropLast_sublist _).subset hmem)
    obtain hsame | ⟨above, hempty⟩ := FileSystem.makeDirectories_ok hup' hmade
    · rw [hsame] at hplace
      cases h.nothing _ _ hplace
    · have hparts := path_parts_ne_nil env
      have hlast : (path env).parts.getLast hparts = "config.json" := by
        simp only [path_parts env, List.getLast_append_singleton]
      obtain ⟨_, _, hfree⟩ | ⟨hstay, -⟩ :=
        FileSystem.locate_below_empty hparts hempty (by rw [hlast]; decide) hplace
      · cases hfree
      · rw [hlast] at hstay
        exact absurd hstay (by decide)

/-- A call that succeeds **writes the file** with the field set. -/
theorem written_of_store {fs' : FileSystem} (h : Keeps env fs members)
    (hstore : store env fs field text = (fs', .ok v)) :
    (∃ f : Field, field = f.name ∧ Fits f (.text (.plain text)) v) ∧
      Written env fs' (Keyed.put (.plain field) v members) := by
  have hsink (hmade : (fs.makeDirectories (path env).parent).2 = .ok ()) (names : List String) :
      (fs.makeDirectories (path env).parent).1.locate .content (path env)
        ≠ .ok (.taken names .sink) := by
    cases h with
    | absent habsent => exact habsent.no_sink hmade names
    | object hfile =>
      obtain ⟨_, _, hplace⟩ := FileSystem.locate_of_isFile hfile
      rw [FileSystem.makeDirectories_of_isDirectory
        (FileSystem.isDirectory_parent (path_parts_ne_nil env) hplace)]
      intro hsink
      cases hplace.symm.trans hsink
  unfold store storeValue at hstore
  split at hstore
  · cases hstore
  next new w hupdate =>
  obtain ⟨f, old, hfield, hread, hfits, rfl⟩ := update_eq_ok hupdate
  obtain rfl := h.eq_of_read hread
  split at hstore
  · cases hstore
  next mid hmake =>
  rw [hmake] at hsink
  split at hstore
  · cases hstore
  next after hwrite =>
  cases hstore
  have hreadable := h.readable.put (Json.Text.proper_plain field) hfits.readable
  obtain ⟨-, names, hplace⟩ | ⟨names, hplace⟩ :=
    FileSystem.locate_of_write (path_parts_ne_nil env) hwrite
  · exact absurd hplace (hsink rfl names)
  · obtain ⟨hcontent, hfile⟩ := FileSystem.read_of_locate hplace
    exact ⟨⟨f, hfield, hfits⟩, hreadable, hcontent, hfile⟩

theorem Absent.of_makeDirectories (h : Absent fs (path env))
    (hnothing : ∀ names e, (fs.makeDirectories (path env).parent).1.locate .content (path env)
      = .ok (.taken names e) → e.isDirectory = true) :
    Absent (fs.makeDirectories (path env).parent).1 (path env) where
  nothing := hnothing
  noSink hup := (FileSystem.furnished_makeDirectories _ _).no_sink (h.noSink hup)

/-- Where a file is, a call that fails **changes nothing**. -/
theorem eq_of_store_error {fs' : FileSystem} {failure : Failure}
    (hfile : fs.isFile (path env) = .ok true)
    (hstore : store env fs field text = (fs', .error failure)) : fs' = fs := by
  unfold store storeValue at hstore
  split at hstore
  · cases hstore
    rfl
  next new w hupdate =>
  obtain ⟨names, old, hplace⟩ := FileSystem.locate_of_isFile hfile
  obtain ⟨after, hwrite⟩ :=
    FileSystem.exists_write_of_content hplace rfl (content new)
  rw [FileSystem.makeDirectories_of_isDirectory
    (FileSystem.isDirectory_parent (path_parts_ne_nil env) hplace)] at hstore
  simp only [hwrite] at hstore
  cases hstore

theorem absent_of_store_error {fs' : FileSystem} {failure : Failure} (h : Absent fs (path env))
    (hstore : store env fs field text = (fs', .error failure)) : Absent fs' (path env) := by
  unfold store storeValue at hstore
  split at hstore
  · cases hstore
    exact h
  next new w hupdate =>
  split at hstore
  · next mid fault hmake =>
    cases hstore
    have hnone := FileSystem.not_isDirectory_of_makeDirectories (congrArg Prod.snd hmake)
    have habsent := h.of_makeDirectories fun names e hplace =>
      absurd (FileSystem.isDirectory_parent (path_parts_ne_nil env) hplace) hnone
    rwa [hmake] at habsent
  next mid hmake =>
  split at hstore
  · next fault hwrite =>
    cases hstore
    have habsent := h.of_makeDirectories fun names e hplace => by
      rw [hmake] at hplace
      refine Decidable.byContradiction fun hdir => ?_
      obtain ⟨after, hwrite'⟩ := FileSystem.exists_write_of_content hplace
        (Bool.eq_false_iff.2 hdir) (content new)
      cases hwrite.symm.trans hwrite'
    rwa [hmake] at habsent
  · cases hstore

/-- After a call that fails, the file **keeps what it held**. -/
theorem keeps_of_store_error {fs' : FileSystem} {failure : Failure} (h : Keeps env fs members)
    (hstore : store env fs field text = (fs', .error failure)) : Keeps env fs' members := by
  cases h with
  | absent habsent => exact .absent (absent_of_store_error habsent hstore)
  | object hfile htext hobject =>
    rw [eq_of_store_error hfile hstore]
    exact .object hfile htext hobject

/-! ## A run of calls -/

theorem replaced_put (key : Json.Text) (h : Json.Readable (.object members))
    (hv : Json.Readable v) :
    Replaced [(key, v)] members (Json.ordered (Keyed.put key v members)) := by
  intro other
  rw [Json.get?_ordered (Keyed.nodup_put key v h.nodup), Option.map_map]
  have hsame {w : Json.Value} (hw : Json.Readable w) :
      (Json.sorted ∘ Json.sorted) w = Json.sorted w := Json.sorted_sorted hw
  by_cases hkey : other = key
  · rw [hkey, Keyed.get?_put_self]
    simpa [Keyed.get?] using hsame hv
  · rw [Keyed.get?_put_of_ne hkey]
    have hnone : Keyed.get? [(key, v)].reverse other = none := by simp [Keyed.get?, Ne.symm hkey]
    rw [hnone, Option.none_or]
    cases hw : Keyed.get? members other with
    | none => rfl
    | some w => exact congrArg some (hsame (h.values _ (Keyed.mem_of_get? hw)))

/-- Whatever is stored is what a field **is set to by the text of a call**. -/
def Normal (calls : List (String × String)) (stored : Json.Members) : Prop :=
  ∀ e ∈ stored, ∃ (f : Field) (text : String), (f.name, text) ∈ calls ∧ e.1 = .plain f.name ∧
    Fits f (.text (.plain text)) e.2

/-- The file **keeps what it held**, with the last stored value of each field in its place; and when
anything was stored, it has been written. -/
structure Run (env : Environment) (fs after : FileSystem) (members : Json.Members)
    (calls : List (String × String)) (stored : Json.Members) : Prop where
  normal : Normal calls stored
  unchanged : stored = [] → fs.isFile (path env) = .ok true → after = fs
  keeps : ∃ new, Keeps env after new ∧ Replaced stored members new
  written : stored ≠ [] → ∃ new, Written env after new ∧ Replaced stored members (Json.ordered new)

variable {next after : FileSystem} {calls : List (String × String)} {stored new : Json.Members}

theorem Normal.cons {call : String × String} (h : Normal calls stored) :
    Normal (call :: calls) stored := by
  intro e he
  obtain ⟨f, text, hcall, hfits⟩ := h e he
  exact ⟨f, text, List.mem_cons_of_mem _ hcall, hfits⟩

theorem Run.fail {failure : Failure} (hstore : store env fs field text = (next, .error failure))
    (h : Run env next after members calls stored) :
    Run env fs after members ((field, text) :: calls) stored where
  normal := h.normal.cons
  unchanged hnone hfile := by
    obtain rfl := eq_of_store_error hfile hstore
    exact h.unchanged hnone hfile
  keeps := h.keeps
  written := h.written

theorem Run.store (hkeeps : Keeps env fs members) (hstore : store env fs field text = (next, .ok v))
    (h : Run env next after (Json.ordered (Keyed.put (.plain field) v members)) calls stored) :
    Run env fs after members ((field, text) :: calls) ((.plain field, v) :: stored) := by
  obtain ⟨⟨f, rfl, hfits⟩, hwritten⟩ := written_of_store hkeeps hstore
  have hput := replaced_put (.plain f.name) hkeeps.readable hfits.readable
  refine ⟨?_, nofun, ?_, fun _ => ?_⟩
  · exact List.forall_mem_cons.2 ⟨⟨f, text, List.mem_cons_self, rfl, hfits⟩, h.normal.cons⟩
  · obtain ⟨new, hnew, hreplaced⟩ := h.keeps
    exact ⟨new, hnew, hput.trans hreplaced⟩
  · by_cases hnone : stored = []
    · rw [h.unchanged hnone hwritten.isFile, hnone]
      exact ⟨_, hwritten, hput⟩
    · obtain ⟨new, hnew, hreplaced⟩ := h.written hnone
      exact ⟨new, hnew, hput.trans hreplaced⟩

/-- What **a run of calls** does. -/
theorem run_storeAll (h : Keeps env fs members) (calls : List (String × String)) :
    Run env fs (storeAll env fs calls).1 members calls (storeAll env fs calls).2 := by
  induction calls generalizing fs members with
  | nil => exact ⟨nofun, fun _ _ => rfl, ⟨members, h, replaced_nil members⟩, absurd rfl⟩
  | cons call calls ih =>
    obtain ⟨field, text⟩ := call
    rw [storeAll]
    split
    · next next failure hstore => exact .fail hstore (ih (keeps_of_store_error h hstore))
    · next next v hstore => exact .store h hstore (ih (written_of_store h hstore).2.keeps)

end Drift.Configuration
