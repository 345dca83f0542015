import Drift.Proofs.Storing

/-!
# The last value that is stored wins

* `Configuration.last?` — the last value that was stored for a field.
* `Configuration.OwnNames` — no key calls a field but by its own name.
* `Configuration.Run.load`, `Configuration.Run.again`, `Configuration.read_eq_of_runs` — the settings
  after a run of calls, values that are stored once more, and the bytes that are written.
* **`Configuration.last_store_wins`** — all of this for any run of calls.
-/

namespace Drift.Configuration

open Settings (Environment Field Fits Settles ofEnvironment ofFile ofPresent ofSources supplied)

variable {env : Environment} {fs after : FileSystem} {field text : String} {v : Json.Value}
  {calls : List (String × String)} {members stored new : Json.Members} {f : Field}

/-! ## Loading -/

/-- The **last value** that was stored for a field. -/
def last? (stored : Json.Members) (f : Field) : Option Json.Value :=
  Keyed.get? stored.reverse (.plain f.name)

/-- Where no variable sets a field, no key calls it **but by its own name**. -/
def OwnNames (env : Environment) (members : Json.Members) : Prop :=
  ∀ f, ofEnvironment env f = none → ∀ m ∈ members, f.CalledBy m.1 → m.1 = .plain f.name

theorem calledBy_name_iff {g : Field} : f.CalledBy (.plain g.name) ↔ g = f := by
  unfold Settings.Field.CalledBy
  constructor
  · rintro ⟨_, ⟨⟩, hname⟩
    exact Settings.Field.name_injective (g.inSmallLetters_name.symm.trans hname)
  · rintro rfl
    exact ⟨_, rfl, g.inSmallLetters_name⟩

theorem ofFile_eq (h : ∀ m ∈ members, f.CalledBy m.1 → m.1 = .plain f.name) :
    ofFile members f = Keyed.get? members (.plain f.name) := by
  induction members with
  | nil => rfl
  | cons m members ih =>
    obtain ⟨hm, hrest⟩ := List.forall_mem_cons.1 h
    have hcalled : (m.1.string?.any fun name => Settings.inSmallLetters name == f.name) = true ↔
        f.CalledBy m.1 := by
      cases m.1 <;> simp [Json.Text.string?, Settings.Field.CalledBy]
    have hkey : (m.1.string?.any fun name => Settings.inSmallLetters name == f.name)
        = (m.1 == .plain f.name) := by
      rw [Bool.eq_iff_iff, hcalled, beq_iff_eq]
      exact ⟨hm, fun heq => heq ▸ calledBy_name_iff.2 rfl⟩
    have hrest := ih hrest
    unfold ofFile Keyed.get? at hrest ⊢
    rw [List.find?_cons, List.find?_cons, hkey]
    cases m.1 == .plain f.name
    · exact hrest
    · rfl

theorem supplied_load (env : Environment) (members : Json.Members) (f : Field) :
    supplied [ofPresent [], ofEnvironment env, ofFile members] f
      = (ofEnvironment env f).or (ofFile members f) := by
  unfold supplied
  rw [List.findSome?_cons, List.findSome?_cons, List.findSome?_cons, List.findSome?_nil]
  cases ofEnvironment env f <;> cases ofFile members f <;> rfl

theorem supplied_eq (hnames : OwnNames env members) (f : Field) :
    supplied [ofPresent [], ofEnvironment env, ofFile members] f
      = (ofEnvironment env f).or (Keyed.get? members (.plain f.name)) := by
  rw [supplied_load]
  cases henv : ofEnvironment env f with
  | none => rw [ofFile_eq (hnames f henv)]
  | some v => rfl

theorem settles_map_sorted_iff {v : Option Json.Value} {w : Json.Value} :
    Settles f (v.map Json.sorted) w ↔ Settles f v w := by
  cases v with
  | none => exact Iff.rfl
  | some v => exact Settings.fits_sorted_iff

theorem mem_of_last? (h : last? stored f = some v) : (.plain f.name, v) ∈ stored :=
  List.mem_reverse.1 (Keyed.mem_of_get? h)

theorem Replaced.ownNames (h : Replaced stored members new) (hnormal : Normal calls stored)
    (hnames : OwnNames env members) : OwnNames env new := by
  intro f henv m hm hcalled
  have hsome : ((Keyed.get? stored.reverse m.1).or (Keyed.get? members m.1)).isSome = true := by
    have hkey := h m.1
    obtain ⟨w, hw⟩ : ∃ w, Keyed.get? new m.1 = some w := by
      refine Option.isSome_iff_exists.1 ?_
      unfold Keyed.get?
      rw [Option.isSome_map, List.find?_isSome]
      exact ⟨m, hm, beq_self_eq_true _⟩
    rw [hw] at hkey
    rw [← Option.isSome_map (f := Json.sorted), ← hkey]
    rfl
  cases hstored : Keyed.get? stored.reverse m.1 with
  | some w =>
    obtain ⟨g, -, -, hkey, -⟩ := hnormal _ (List.mem_reverse.1 (Keyed.mem_of_get? hstored))
    rw [hkey] at hcalled ⊢
    rw [calledBy_name_iff.1 hcalled]
  | none =>
    rw [hstored, Option.none_or] at hsome
    obtain ⟨w, hw⟩ := Option.isSome_iff_exists.1 hsome
    exact hnames f henv (m.1, w) (Keyed.mem_of_get? hw) hcalled

theorem Replaced.settles (h : Replaced stored members new) (hnormal : Normal calls stored)
    {w : Json.Value} (hold : Settles f (Keyed.get? members (.plain f.name)) w) :
    Settles f (Keyed.get? new (.plain f.name)) ((last? stored f).getD w) := by
  rw [← settles_map_sorted_iff, h, settles_map_sorted_iff]
  change Settles f ((last? stored f).or _) _
  cases hlast : last? stored f with
  | none => exact hold
  | some v =>
    obtain ⟨g, text, -, hkey, hfits⟩ := hnormal _ (mem_of_last? hlast)
    obtain rfl := Settings.Field.name_injective (Json.Text.plain.inj hkey)
    exact hfits.self

theorem load_eq_ok_iff (h : Holds env fs members) {s : Settings} :
    load env fs [] = .ok s ↔
      ofSources [ofPresent [], ofEnvironment env, ofFile members] = .ok s := by
  rw [load_of_holds h fun _ _ => rfl]
  exact ⟨eq_ok_of_mapError, fun hs => by rw [hs]; rfl⟩

/-- Settings are only loaded when the system **tells whether the file is there**. -/
theorem exists_isFile_of_load {overrides : Json.Members} {s : Settings}
    (hpath : expandHome env (path env) = .ok (path env)) (h : load env fs overrides = .ok s) :
    ∃ b, fs.isFile (path env) = .ok b := by
  obtain ⟨file, hfile, -⟩ := bind_eq_ok_iff.1 h
  obtain ⟨place, hplace, hfile⟩ := bind_eq_ok_iff.1 (eq_ok_of_mapError hfile)
  obtain ⟨b, hb, -⟩ := bind_eq_ok_iff.1 hfile
  cases hpath.symm.trans hplace
  exact ⟨b, hb⟩

/-- After a run of calls **the settings are loaded** as before, but for the fields that were set. -/
theorem Run.load {s : Settings} (h : Run env fs after members calls stored)
    (hkeeps : Keeps env fs members) (hpath : expandHome env (path env) = .ok (path env))
    (hnames : OwnNames env members) (hload : load env fs [] = .ok s)
    (hasked : stored ≠ [] ∨ ∃ b, after.isFile (path env) = .ok b) :
    ∃ s', Configuration.load env after [] = .ok s' ∧ ∀ f, s'.value f
      = if ofEnvironment env f = none then (last? stored f).getD (s.value f) else s.value f := by
  obtain ⟨new, hnew, hreplaced⟩ := h.keeps
  obtain ⟨b, hb⟩ : ∃ b, after.isFile (path env) = .ok b := by
    refine hasked.elim (fun hne => ?_) id
    obtain ⟨_, hwritten, -⟩ := h.written hne
    exact ⟨_, hwritten.isFile⟩
  obtain ⟨b', hb'⟩ := exists_isFile_of_load hpath hload
  have hold := (load_eq_ok_iff (hkeeps.holds hpath hb')).1 hload
  rw [Settings.ofSources_eq_ok_iff] at hold
  have hsettles (f : Field) : Settles f (supplied [ofPresent [], ofEnvironment env, ofFile new] f)
      (if ofEnvironment env f = none then (last? stored f).getD (s.value f) else s.value f) := by
    have hold := hold f
    rw [supplied_eq hnames] at hold
    rw [supplied_eq (hreplaced.ownNames h.normal hnames)]
    cases henv : ofEnvironment env f with
    | some v => rwa [henv] at hold
    | none =>
      rw [henv, Option.none_or] at hold
      exact hreplaced.settles h.normal hold
  obtain ⟨s', hs'⟩ := Settings.exists_ofSources_iff.2 fun f v hv => by
    have hsettles := hsettles f
    rw [hv] at hsettles
    exact ⟨_, hsettles⟩
  refine ⟨s', (load_eq_ok_iff (hnew.holds hpath hb)).2 hs', fun f => ?_⟩
  exact (Settings.ofSources_eq_ok_iff.1 hs' f).unique (hsettles f)

/-! ## Storing again -/

theorem normalized_of_fits {s : Settings} (hload : load env fs [] = .ok s)
    (hfits : Fits f (.text (.plain text)) v) : normalized env fs f (.text text) = .ok v := by
  obtain ⟨file, hfile, hload⟩ := bind_eq_ok_iff.1 hload
  have hfile := eq_ok_of_mapError hfile
  have hload (g : Field) : Settles g (supplied [ofEnvironment env, ofFile file] g) (s.value g) :=
    Settings.ofSources_eq_ok_iff.1 (eq_ok_of_mapError hload) g
  obtain ⟨t, ht⟩ := Settings.exists_ofSources_iff.2 fun g w hw => by
    rw [supplied_given f g (.text text)] at hw
    split at hw
    · next heq =>
      cases hw
      exact ⟨v, heq ▸ hfits⟩
    · have hsettles := hload g
      rw [hw] at hsettles
      exact ⟨_, hsettles⟩
  have hvalue : t.value f = v := by
    have hsettles := Settings.ofSources_eq_ok_iff.1 ht f
    rw [supplied_given, if_pos rfl] at hsettles
    exact Fits.unique hsettles hfits
  refine bind_eq_ok_iff.2 ⟨file, by rw [hfile]; rfl, bind_eq_ok_iff.2 ⟨t, ?_, congrArg _ hvalue⟩⟩
  rw [ht]
  rfl

theorem store_of_fits {s : Settings} (hkeeps : Keeps env fs members)
    (hfile : fs.isFile (path env) = .ok true) (hload : load env fs [] = .ok s)
    (hfits : Fits f (.text (.plain text)) v) : (store env fs f.name text).2 = .ok v := by
  have hupdate : update env fs f.name (.text text)
      = .ok (Keyed.put (.plain f.name) v members, v) := by
    unfold update
    rw [Settings.Field.ofName?_eq_some_iff.2 rfl]
    simp only [hkeeps.read hfile, normalized_of_fits hload hfits]
    rfl
  obtain ⟨names, old, hplace⟩ := FileSystem.locate_of_isFile hfile
  obtain ⟨after, hwrite⟩ := FileSystem.exists_write_of_content hplace rfl
    (content (Keyed.put (.plain f.name) v members))
  unfold store storeValue
  simp only [hupdate, FileSystem.makeDirectories_of_isDirectory
    (FileSystem.isDirectory_parent (path_parts_ne_nil env) hplace), hwrite]

/-! ## All together -/

/-- The text of what a run has stored can be **stored again**. -/
theorem Run.again {s : Settings} (h : Run env fs after members calls stored)
    (hload : Configuration.load env after [] = .ok s) (hmem : (.plain field, v) ∈ stored) :
    (Configuration.store env after field (Command.valueText v)).2 = .ok v := by
  obtain ⟨f, text, -, hkey, hfits⟩ := h.normal _ hmem
  cases hkey
  obtain ⟨new, hwritten, -⟩ := h.written (List.ne_nil_of_mem hmem)
  exact store_of_fits hwritten.keeps hwritten.isFile hload hfits.shown

/-- Objects that are the same but for the order of keys **have the same values**. -/
theorem map_sorted_get?_eq {others : Json.Members} (h : Json.Readable (.object members))
    (h' : Json.Readable (.object others))
    (heq : Json.sorted (.object members) = Json.sorted (.object others)) (key : Json.Text) :
    (Keyed.get? members key).map Json.sorted = (Keyed.get? others key).map Json.sorted := by
  rw [Json.sorted_object, Json.sorted_object] at heq
  rw [← Json.get?_ordered h.nodup, ← Json.get?_ordered h'.nodup, Json.Value.object.inj heq]

/-- Runs that begin with the same object and store the same values last **write the same file**. -/
theorem read_eq_of_runs {env' : Environment} {fs' after' : FileSystem}
    {calls' : List (String × String)} {members' stored' : Json.Members}
    (h : Run env fs after members calls stored) (h' : Run env' fs' after' members' calls' stored')
    (hkeeps : Keeps env fs members)
    (hkeeps' : Keeps env' fs' members')
    (hsame : Json.sorted (.object members) = Json.sorted (.object members'))
    (hlast : ∀ f, last? stored f = last? stored' f) (hne : stored ≠ []) (hne' : stored' ≠ []) :
    ∃ bytes, after.read (path env) = .ok bytes ∧ after'.read (path env') = .ok bytes := by
  obtain ⟨new, hwritten, hreplaced⟩ := h.written hne
  obtain ⟨new', hwritten', hreplaced'⟩ := h'.written hne'
  -- Only fields are stored, so what was stored last agrees on every key.
  have hnone {calls : List (String × String)} {stored : Json.Members}
      (hnormal : Normal calls stored) {key : Json.Text}
      (hkey : ¬ ∃ f : Field, key = .plain f.name) : Keyed.get? stored.reverse key = none := by
    refine Option.eq_none_iff_forall_ne_some.2 fun v hv => hkey ?_
    obtain ⟨f, -, -, hname, -⟩ := hnormal _ (List.mem_reverse.1 (Keyed.mem_of_get? hv))
    exact ⟨f, hname⟩
  have hstored (key : Json.Text) :
      Keyed.get? stored.reverse key = Keyed.get? stored'.reverse key := by
    by_cases hkey : ∃ f : Field, key = .plain f.name
    · obtain ⟨f, rfl⟩ := hkey
      exact hlast f
    · rw [hnone h.normal hkey, hnone h'.normal hkey]
  have hordered : Json.sorted (.object (Json.ordered new))
      = Json.sorted (.object (Json.ordered new')) := by
    refine Json.sorted_object_congr hwritten.keeps.readable hwritten'.keeps.readable fun key => ?_
    rw [hreplaced key, hreplaced' key, Option.map_or, Option.map_or, hstored key,
      map_sorted_get?_eq hkeeps.readable hkeeps'.readable hsame]
  have htexts : Json.sorted (.object new) = Json.sorted (.object new') := by
    rwa [← Json.sorted_object, ← Json.sorted_object, Json.sorted_sorted hwritten.readable,
      Json.sorted_sorted hwritten'.readable] at hordered
  refine ⟨content new, hwritten.read, ?_⟩
  rw [hwritten'.read, content, content, Json.characters, Json.characters]
  simp only [fileStyle, if_true, htexts]

/-- From a configuration file that is absent or holds an object, **the last value that is stored for
a field wins**, however many calls are made and however many of them fail.

The file holds the old members with the last stored value of each field in its place. The settings
are loaded as before, but for the fields that were set and that no variable sets, if the file is
where they are loaded from and calls no field by another name; only when all calls fail can it be
that the system no longer tells whether the file is there. Whatever was stored can be stored again.
And what was stored last decides the bytes of the file. -/
theorem last_store_wins (h : Keeps env fs members)
    (hrun : storeAll env fs calls = (after, stored)) :
    Normal calls stored ∧
    (∃ new, Keeps env after new ∧ Replaced stored members new ∧
      (stored ≠ [] → after.isFile (path env) = .ok true)) ∧
    (∀ s, expandHome env (path env) = .ok (path env) → OwnNames env members →
      load env fs [] = .ok s → (stored ≠ [] ∨ ∃ b, after.isFile (path env) = .ok b) →
      ∃ s', load env after [] = .ok s' ∧ ∀ f, s'.value f
        = if ofEnvironment env f = none then (last? stored f).getD (s.value f) else s.value f) ∧
    (∀ s field v, load env after [] = .ok s → (.plain field, v) ∈ stored →
      (store env after field (Command.valueText v)).2 = .ok v) ∧
    ∀ env' fs' members' calls' after' stored', Keeps env' fs' members' →
      storeAll env' fs' calls' = (after', stored') →
      Json.sorted (.object members) = Json.sorted (.object members') →
      (∀ f, last? stored f = last? stored' f) → stored ≠ [] → stored' ≠ [] →
      ∃ bytes, after.read (path env) = .ok bytes ∧ after'.read (path env') = .ok bytes := by
  have hspec := run_storeAll h calls
  rw [hrun] at hspec
  refine ⟨hspec.normal, ?_, fun s hpath hnames hload hasked => hspec.load h hpath hnames hload hasked,
    fun s field v hload hmem => hspec.again hload hmem, ?_⟩
  · obtain ⟨new, hkeeps, hreplaced⟩ := hspec.keeps
    refine ⟨new, hkeeps, hreplaced, fun hne => ?_⟩
    obtain ⟨_, hwritten, -⟩ := hspec.written hne
    exact hwritten.isFile
  · intro env' fs' members' calls' after' stored' h' hrun' hsame hlast hne hne'
    have hspec' := run_storeAll h' calls'
    rw [hrun'] at hspec'
    exact read_eq_of_runs hspec hspec' h h' hsame hlast hne hne'

/-! ### Runs on a small file -/

/-- A text in which the level is set. -/
def sampleQuiet : String := "\x7b\"log_level\": \"error\"\x7d"

/-- A text in which the key of the level is spelled in capital letters. -/
def sampleShouted : String := "\x7b\"LOG_LEVEL\": \"ERROR\"\x7d"

/-- Calls, two of which fail. -/
def sampleCalls : List (String × String) :=
  [("log_level", "info"), ("compression_level", "12"), ("host", "h"), ("log_level", "Debug")]

theorem path_sample : expandHome sampleEnvironment (path sampleEnvironment)
    = .ok (path sampleEnvironment) := rfl

theorem keeps_sample {text : String} (h : (objectIn? text).isSome = true) :
    Keeps sampleEnvironment (sampleHolding text) ((objectIn? text).getD []) := by
  have hholds := holds_sample h
  generalize (objectIn? text).getD [] = members at hholds ⊢
  cases hholds with
  | missing hpath hfile => cases path_sample.symm.trans hpath; cases hfile
  | object hpath hfile htext hobject =>
    cases path_sample.symm.trans hpath
    exact .object hfile htext hobject

theorem free_sample : ofEnvironment sampleEnvironment .logLevel = none :=
  Option.isNone_iff_eq_none.1 rfl

/-- The last of two values is loaded, whatever failed in between. -/
theorem last_store_wins_sampleCalls : ∃ members after stored s,
    Keeps sampleEnvironment (sampleHolding sampleQuiet) members ∧
    storeAll sampleEnvironment (sampleHolding sampleQuiet) sampleCalls = (after, stored) ∧
    load sampleEnvironment after [] = .ok s ∧
    Command.valueText (s.value .logLevel) = "DEBUG" := by
  have hkeeps : Keeps sampleEnvironment (sampleHolding sampleQuiet) _ :=
    keeps_sample (by decide +kernel)
  have hnames : OwnNames sampleEnvironment ((objectIn? sampleQuiet).getD []) := by
    have hkeys : ((objectIn? sampleQuiet).getD []).map (·.1) = [.plain "log_level"] := by
      decide +kernel
    intro f _ m hm hcalled
    have hkey := List.mem_map_of_mem (f := (·.1)) hm
    rw [hkeys, List.mem_singleton] at hkey
    rw [hkey] at hcalled ⊢
    rw [← (calledBy_name_iff (g := .logLevel)).1 hcalled]
    rfl
  obtain ⟨old, hold⟩ : ∃ s, load sampleEnvironment (sampleHolding sampleQuiet) [] = .ok s :=
    exists_eq_ok (by decide +kernel)
  generalize hrun : storeAll sampleEnvironment (sampleHolding sampleQuiet) sampleCalls = run
  have hlast : (last? run.2 .logLevel).map Command.valueText = some "DEBUG" := by
    rw [← hrun]
    decide +kernel
  obtain ⟨after, stored⟩ := run
  obtain ⟨v, hv, hshown⟩ := Option.map_eq_some_iff.1 hlast
  obtain ⟨-, -, hsettings, -, -⟩ := last_store_wins hkeeps hrun
  obtain ⟨s, hload, hvalue⟩ := hsettings old path_sample hnames hold
    (.inl (List.ne_nil_of_mem (mem_of_last? hv)))
  refine ⟨_, after, stored, s, hkeeps, rfl, hload, ?_⟩
  rw [hvalue, if_pos free_sample, hv]
  exact hshown

theorem fits_shouted {fs : FileSystem} {rest : Json.Members} {s : Settings}
    (h : Holds sampleEnvironment fs ((.plain "LOG_LEVEL", v) :: rest))
    (hload : load sampleEnvironment fs [] = .ok s) : Fits .logLevel v (s.value .logLevel) := by
  have hfirst : ofFile ((.plain "LOG_LEVEL", v) :: rest) .logLevel = some v :=
    Settings.ofFile_eq_some_iff.2 ⟨[], _, rest, rfl, ⟨_, rfl, rfl⟩, nofun⟩
  have hsettles := Settings.ofSources_eq_ok_iff.1 ((load_eq_ok_iff h).1 hload) .logLevel
  rwa [supplied_load, free_sample, hfirst] at hsettles

theorem ordered_shouted {w : Json.Value} :
    Json.ordered [(.plain "LOG_LEVEL", v), (.plain "log_level", w)]
      = [(.plain "LOG_LEVEL", Json.sorted v), (.plain "log_level", Json.sorted w)] := by
  have hprecedes : Json.Text.precedes (.plain "LOG_LEVEL") (.plain "log_level") = true := by
    rfl
  exact List.mergeSort_of_pairwise (by simpa using hprecedes)

/-- A key in capital letters comes before the one that is stored, so that **what is stored is not
loaded**. -/
theorem capitals_shadow_stored : ¬ ∀ (env : Environment) (fs after : FileSystem)
    (members stored : Json.Members) (calls : List (String × String)), Keeps env fs members →
    storeAll env fs calls = (after, stored) → (∃ s, load env fs [] = .ok s) →
    ∀ f v, ofEnvironment env f = none → last? stored f = some v →
      ∃ s, load env after [] = .ok s ∧ s.value f = v := by
  intro hclaim
  have hkeeps : Keeps sampleEnvironment (sampleHolding sampleShouted) _ :=
    keeps_sample (by decide +kernel)
  obtain ⟨w, hmembers⟩ : ∃ w, (objectIn? sampleShouted).getD [] = [(.plain "LOG_LEVEL", w)] := by
    have hkeys : ((objectIn? sampleShouted).getD []).map (·.1) = [.plain "LOG_LEVEL"] := by
      decide +kernel
    obtain ⟨m, hm, hkey⟩ := List.map_eq_singleton_iff.1 hkeys
    exact ⟨m.2, by rw [hm, ← hkey]⟩
  rw [hmembers] at hkeeps
  -- Before, the level is that of the key in capital letters.
  have hold : (load sampleEnvironment (sampleHolding sampleShouted) []).toOption.map
      (fun s => Command.valueText (s.value .logLevel)) = some "ERROR" := by decide +kernel
  obtain ⟨old, hold, hshown⟩ := Option.map_eq_some_iff.1 hold
  have hload := eq_ok_of_toOption hold
  have hfits := fits_shouted (hkeeps.holds path_sample rfl) hload
  -- Another one is stored.
  have hanswer : (store sampleEnvironment (sampleHolding sampleShouted) "log_level"
      "info").2.toOption.map Command.valueText = some "INFO" := by decide +kernel
  generalize hstore : store sampleEnvironment (sampleHolding sampleShouted) "log_level" "info"
    = result at hanswer
  obtain ⟨after, answer⟩ := result
  obtain ⟨v, hv, hinfo⟩ := Option.map_eq_some_iff.1 hanswer
  obtain rfl : answer = .ok v := eq_ok_of_toOption hv
  have hrun : storeAll sampleEnvironment (sampleHolding sampleShouted) [("log_level", "info")]
      = (after, [(.plain "log_level", v)]) := by
    rw [storeAll, hstore]
    rfl
  obtain ⟨s, hload', hvalue⟩ := hclaim _ _ _ _ _ _ hkeeps hrun ⟨old, hload⟩ .logLevel v free_sample
    rfl
  -- But the level stays what it was.
  obtain ⟨-, hwritten⟩ := written_of_store hkeeps hstore
  have hafter := hwritten.keeps.holds path_sample hwritten.isFile
  have hput : Keyed.put (.plain "log_level") v [(Json.Text.plain "LOG_LEVEL", w)]
      = [(.plain "LOG_LEVEL", w), (.plain "log_level", v)] := rfl
  rw [hput, ordered_shouted] at hafter
  have hsame := hfits.unique (Settings.fits_sorted_iff.1 (fits_shouted hafter hload'))
  rw [hsame, hvalue, hinfo] at hshown
  exact absurd hshown (by decide)

end Drift.Configuration
