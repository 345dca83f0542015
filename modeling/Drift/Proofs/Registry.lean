import Drift.Proofs.Result
import Drift.Workspace

/-!
# What is loaded once

A registry is asked many questions, and the loader may answer differently each time that it is asked
itself.

* `Registry.loadM_of_loaded`, `Registry.loadM_of_unloaded` — when a loader is asked, whatever it does
  when it is asked; `Registry.parser_given` — the registry of what it answers.
* `Registry.Call` — a question, with what the loader would answer meanwhile; `Registry.after` and
  `Registry.heard` are the registry after a run of calls and the events of the run.
* `Registry.Turn` — what one call does; `Registry.turn_of_ask` — there is nothing else that it does.
* `Registry.Keeps` — what has been prepared stays, and a parser stays the same.
* `Registry.Records` — how the registry and the events so far belong together.
* **`Registry.prepared_once`** — which calls ask the loader, and what they give, after any run.
-/

namespace Drift

/-! ## Languages -/

theorem Language.ofName?_name (l : Language) : ofName? l.name = some l := by
  cases l <;> decide +kernel

theorem Language.name_injective {l k : Language} (h : l.name = k.name) : l = k := by
  have hk := ofName?_name k
  rw [← h, ofName?_name] at hk
  exact Option.some.inj hk

/-- The language whose grammar has been loaded, in the event that tells so. -/
def Event.loaded? : Event → Option String
  | .grammarLoaded language => some language
  | _ => none

theorem Logged.events_bind_ok {α β : Type} (m : Logged α) (f : α → β) :
    (m.bind fun a => .ok (f a)).events = m.events := by
  unfold Logged.bind
  split
  · rfl
  · exact List.append_nil _

theorem Event.attempt?_of_loaded? {e : Event} {language : String}
    (h : e.loaded? = some language) : e.attempt? = some language := by
  cases e with
  | grammarLoaded => exact h
  | _ => cases h

namespace Registry

/-! ## Calls -/

/-- A question to a registry, and what the loader **would answer meanwhile**. -/
structure Call where
  loader : Loader
  query : Query

/-- The registry after a run of calls. -/
def after (r : Registry) : List Call → Registry
  | [] => r
  | c :: calls => after (r.ask c.loader c.query).1 calls

/-- The events of a run of calls. -/
def heard (r : Registry) : List Call → List Event
  | [] => []
  | c :: calls => (r.ask c.loader c.query).2.events ++ heard (r.ask c.loader c.query).1 calls

variable {r r' : Registry} {l k : Language} {name : String}

/-- The registry with one more parser, of a language. -/
def make (r : Registry) (l : Language) : Registry :=
  { r.set l (.ready ⟨l, r.made⟩) with made := r.made + 1 }

@[simp] theorem state_make_self (r : Registry) (l : Language) :
    (r.make l).state l = .ready ⟨l, r.made⟩ :=
  state_set_self r l _

@[simp] theorem state_make_of_ne (r : Registry) (h : k ≠ l) : (r.make l).state k = r.state k :=
  state_set_of_ne r h _

/-- What one call **does**: nothing, or it asks the loader for a grammar that is not loaded, or it
makes a parser that is not made. -/
inductive Turn (loader : Loader) (r : Registry) : Registry → List Event → Prop where
  | idle : Turn loader r r []
  | refused {l : Language} {reason : String} (h : r.state l = .unloaded)
      (hloader : loader l = some reason) : Turn loader r r [.grammarLoadFailed l.name reason]
  | loaded {l : Language} (h : r.state l = .unloaded) (hloader : loader l = none) :
      Turn loader r (r.set l .loaded) [.grammarLoaded l.name]
  | made {l : Language} (h : r.state l = .loaded) : Turn loader r (r.make l) []
  | prepared {l : Language} (h : r.state l = .unloaded) (hloader : loader l = none) :
      Turn loader r (r.make l) [.grammarLoaded l.name]

theorem ne_unloaded_of_loaded (h : r.state l = .loaded) : r.state l ≠ .unloaded := by
  rw [h]
  nofun

theorem ne_unloaded_of_ready {p : Parser} (h : r.state l = .ready p) : r.state l ≠ .unloaded := by
  rw [h]
  nofun

/-! ### What each question gives -/

section Monadic

variable {m : Type → Type} [Monad m] {loader : LoaderM m}

/-- What has been loaded is not loaded again: the loader **is not asked**. -/
theorem loadM_of_loaded (h : r.state l ≠ .unloaded) : r.loadM loader l = pure (r, .ok ()) := by
  unfold loadM
  split
  · rfl
  · rfl
  · next hstate => exact absurd hstate h

theorem parserOfM_of_ready {p : Parser} (h : r.state l = .ready p) :
    r.parserOfM loader l = pure (r, .ok p) := by
  unfold parserOfM
  rw [h]

theorem parserM_of_ofName? (h : Language.ofName? name = some l) :
    r.parserM loader name = r.parserOfM loader l := by
  unfold parserM resolve
  simp only [h]

/-- A name that stands for no language is **refused before anything is done**. -/
theorem parserM_of_unknown (h : Language.ofName? name = none) :
    r.parserM loader name = pure (r, .fail (.issue (.unsupportedLanguage name))) := by
  unfold parserM resolve
  simp only [h]

theorem checkM_of_unknown (h : Language.ofName? name = none) :
    r.checkM loader name = pure (r, .fail (.issue (.unsupportedLanguage name))) := by
  unfold checkM resolve
  simp only [h]

variable [LawfulMonad m]

theorem loadM_of_unloaded (h : r.state l = .unloaded) :
    r.loadM loader l = r.answered l <$> loader l := by
  unfold loadM
  rw [h]
  exact bind_pure_comp _ _

theorem parserOfM_of_loaded (h : r.state l = .loaded) :
    r.parserOfM loader l = pure (r.make l, .ok ⟨l, r.made⟩) := by
  have hload : r.loadM loader l = pure (r, .ok ()) := loadM_of_loaded (ne_unloaded_of_loaded h)
  unfold parserOfM
  rw [h]
  simp only [hload, pure_bind]
  rfl

theorem set_set (r : Registry) (l : Language) (s t : Readiness) : (r.set l s).set l t = r.set l t := by
  unfold set
  congr 1
  funext k
  by_cases h : k = l <;> simp [h]

/-- The registry with the parser of a language, if the loader's answer allows it. -/
def parsed (r : Registry) (l : Language) : Option String → Registry × Logged Parser
  | some reason =>
    (r, ⟨[.grammarLoadFailed l.name reason], .error (.issue (.grammarUnavailable l.name reason))⟩)
  | none => (r.make l, ⟨[.grammarLoaded l.name], .ok ⟨l, r.made⟩⟩)

theorem parserOfM_of_unloaded (h : r.state l = .unloaded) :
    r.parserOfM loader l = r.parsed l <$> loader l := by
  have hload : r.loadM loader l = r.answered l <$> loader l := loadM_of_unloaded h
  unfold parserOfM
  rw [h]
  simp only [hload]
  rw [bind_map_left, ← bind_pure_comp]
  refine bind_congr fun answer => ?_
  cases answer with
  | some reason => rfl
  | none => simp only [answered, parsed, set_set]; rfl

/-- The registry with a language loaded, if the loader's answer allows it, and the language. -/
def checked (r : Registry) (l : Language) (answer : Option String) : Registry × Logged Language :=
  ((r.answered l answer).1, (r.answered l answer).2.bind fun _ => .ok l)

theorem checkM_of_ofName? (h : Language.ofName? name = some l) : r.checkM loader name =
    (fun given => (given.1, given.2.bind fun _ => .ok l)) <$> r.loadM loader l := by
  unfold checkM resolve
  simp only [h, ← bind_pure_comp]
  refine bind_congr fun given => ?_
  rcases given with ⟨r', events, result⟩
  cases result with
  | error => rfl
  | ok => simp [Logged.bind, Logged.ok]

theorem checkM_of_unloaded (hname : Language.ofName? name = some l) (h : r.state l = .unloaded) :
    r.checkM loader name = r.checked l <$> loader l := by
  rw [checkM_of_ofName? hname, loadM_of_unloaded h, Functor.map_map]
  rfl

theorem checkM_of_loaded (hname : Language.ofName? name = some l) (h : r.state l ≠ .unloaded) :
    r.checkM loader name = pure (r, .ok l) := by
  rw [checkM_of_ofName? hname, loadM_of_loaded h, map_pure]
  simp [Logged.bind, Logged.ok]

end Monadic

variable {loader : Loader}

theorem parser_of_unknown (h : Language.ofName? name = none) :
    r.parser loader name = (r, .fail (.issue (.unsupportedLanguage name))) :=
  congrArg Id.run (parserM_of_unknown h)

theorem check_of_unknown (h : Language.ofName? name = none) :
    r.check loader name = (r, .fail (.issue (.unsupportedLanguage name))) :=
  congrArg Id.run (checkM_of_unknown h)

theorem parser_of_unloaded (hname : Language.ofName? name = some l) (h : r.state l = .unloaded) :
    r.parser loader name = r.parsed l (loader l) :=
  congrArg Id.run ((parserM_of_ofName? hname).trans (parserOfM_of_unloaded h))

theorem parser_of_loaded (hname : Language.ofName? name = some l) (h : r.state l = .loaded) :
    r.parser loader name = (r.make l, .ok ⟨l, r.made⟩) :=
  congrArg Id.run ((parserM_of_ofName? hname).trans (parserOfM_of_loaded h))

theorem parser_of_ready {p : Parser} (hname : Language.ofName? name = some l)
    (h : r.state l = .ready p) : r.parser loader name = (r, .ok p) :=
  congrArg Id.run ((parserM_of_ofName? hname).trans (parserOfM_of_ready h))

theorem check_of_unloaded (hname : Language.ofName? name = some l) (h : r.state l = .unloaded) :
    r.check loader name = r.checked l (loader l) :=
  congrArg Id.run (checkM_of_unloaded hname h)

theorem check_of_loaded (hname : Language.ofName? name = some l) (h : r.state l ≠ .unloaded) :
    r.check loader name = (r, .ok l) :=
  congrArg Id.run (checkM_of_loaded hname h)

/-- What a registry gives when it is asked for the **parser of a name**. -/
inductive Given (r : Registry) (name : String) : Registry × Logged Parser → Prop where
  | unknown : Given r name (r, .fail (.issue (.unsupportedLanguage name)))
  | refused (l : Language) (reason : String) : Given r name
      (r, ⟨[.grammarLoadFailed l.name reason], .error (.issue (.grammarUnavailable l.name reason))⟩)
  | kept (r' : Registry) (p : Parser) : Given r name (r', .ok p)
  | loaded (r' : Registry) (l : Language) (p : Parser) :
      Given r name (r', ⟨[.grammarLoaded l.name], .ok p⟩)

theorem parser_given (loader : Loader) (r : Registry) (name : String) :
    Given r name (r.parser loader name) := by
  cases hname : Language.ofName? name with
  | none => rw [parser_of_unknown hname]; exact .unknown
  | some l =>
    cases hstate : r.state l with
    | unloaded =>
      rw [parser_of_unloaded hname hstate]
      cases loader l with
      | some reason => exact .refused l reason
      | none => exact .loaded _ l _
    | loaded => rw [parser_of_loaded hname hstate]; exact .kept _ _
    | ready => rw [parser_of_ready hname hstate]; exact .kept _ _

/-! ### What each call does -/

theorem turn_of_check (loader : Loader) (r : Registry) (name : String) :
    Turn loader r (r.check loader name).1 (r.check loader name).2.events := by
  cases hname : Language.ofName? name with
  | none => rw [check_of_unknown hname]; exact .idle
  | some l =>
    by_cases hstate : r.state l = .unloaded
    · rw [check_of_unloaded hname hstate]
      cases hloader : loader l with
      | some reason => exact .refused hstate hloader
      | none => exact .loaded hstate hloader
    · rw [check_of_loaded hname hstate]
      exact .idle

theorem parser_turn (loader : Loader) (r : Registry) (name : String) :
    Turn loader r (r.parser loader name).1 (r.parser loader name).2.events := by
  cases hname : Language.ofName? name with
  | none => rw [parser_of_unknown hname]; exact .idle
  | some l =>
    cases hstate : r.state l with
    | unloaded =>
      rw [parser_of_unloaded hname hstate]
      cases hloader : loader l with
      | some reason => exact .refused hstate hloader
      | none => exact .prepared hstate hloader
    | loaded => rw [parser_of_loaded hname hstate]; exact .made hstate
    | ready => rw [parser_of_ready hname hstate]; exact .idle

/-- A call takes one turn and does **nothing else**. -/
theorem turn_of_ask (loader : Loader) (r : Registry) (q : Query) :
    Turn loader r (r.ask loader q).1 (r.ask loader q).2.events := by
  cases q with
  | check name =>
    have hturn := turn_of_check loader r name
    unfold ask
    rwa [Logged.events_bind_ok]
  | parser name =>
    have hturn := parser_turn loader r name
    unfold ask
    rwa [Logged.events_bind_ok]
  | _ => exact .idle

/-! ## What stays -/

/-- What has been prepared **stays**, and a parser stays the same. -/
structure Keeps (r r' : Registry) : Prop where
  loaded : ∀ l, r.state l ≠ .unloaded → r'.state l ≠ .unloaded
  ready : ∀ l p, r.state l = .ready p → r'.state l = .ready p

theorem Keeps.refl (r : Registry) : Keeps r r := ⟨fun _ => id, fun _ _ => id⟩

theorem Keeps.trans {r'' : Registry} (h : Keeps r r') (h' : Keeps r' r'') : Keeps r r'' where
  loaded l hl := h'.loaded l (h.loaded l hl)
  ready l p hp := h'.ready l p (h.ready l p hp)

theorem keeps_set (h : r.state l = .unloaded) (s : Readiness) (hs : s ≠ .unloaded) :
    Keeps r (r.set l s) where
  loaded k hk := by
    by_cases hkl : k = l
    · rw [hkl, state_set_self]; exact hs
    · rwa [state_set_of_ne r hkl]
  ready k p hk := by
    by_cases hkl : k = l
    · rw [hkl, h] at hk; cases hk
    · rwa [state_set_of_ne r hkl]

theorem keeps_make (h : ∀ p, r.state l ≠ .ready p) : Keeps r (r.make l) where
  loaded k hk := by
    by_cases hkl : k = l
    · rw [hkl, state_make_self]; nofun
    · rwa [state_make_of_ne r hkl]
  ready k p hk := by
    by_cases hkl : k = l
    · rw [hkl] at hk; exact absurd hk (h p)
    · rwa [state_make_of_ne r hkl]

theorem owned_make (h : ∀ k p, r.state k = .ready p → p.language = k) (l : Language) :
    ∀ k p, (r.make l).state k = .ready p → p.language = k := by
  intro k p hk
  by_cases hkl : k = l
  · subst hkl
    simp at hk
    simp [← hk]
  · exact h k p (state_make_of_ne r hkl ▸ hk)

theorem Turn.keeps {events : List Event} (h : Turn loader r r' events) : Keeps r r' := by
  cases h with
  | idle => exact .refl r
  | refused => exact .refl r
  | loaded h => exact keeps_set h _ nofun
  | made h => exact keeps_make fun p hp => by rw [h] at hp; cases hp
  | prepared h => exact keeps_make fun p hp => by rw [h] at hp; cases hp

theorem keeps_after (r : Registry) (calls : List Call) : Keeps r (r.after calls) := by
  induction calls generalizing r with
  | nil => exact .refl r
  | cons c calls ih => exact (turn_of_ask c.loader r c.query).keeps.trans (ih _)

theorem ready_of_success {p : Parser} (h : (r.parser loader name).2.result = .ok p) :
    ∃ l, Language.ofName? name = some l ∧ (r.parser loader name).1.state l = .ready p := by
  cases hname : Language.ofName? name with
  | none => rw [parser_of_unknown hname] at h; cases h
  | some l =>
    refine ⟨l, rfl, ?_⟩
    cases hstate : r.state l with
    | unloaded =>
      rw [parser_of_unloaded hname hstate] at h ⊢
      cases hloader : loader l with
      | some reason => rw [hloader] at h; cases h
      | none =>
        rw [hloader] at h
        cases h
        exact state_make_self r l
    | loaded =>
      rw [parser_of_loaded hname hstate] at h ⊢
      cases h
      exact state_make_self r l
    | ready =>
      rw [parser_of_ready hname hstate] at h ⊢
      cases h
      exact hstate

/-! ## The registry and its history -/

/-- What is asked for later is **not what was loaded** before. -/
def Settled (e e' : Event) : Prop := ∀ language, e.loaded? = some language →
  e'.attempt? ≠ some language

/-- How the registry and the events so far **belong together**. -/
structure Records (r : Registry) (events : List Event) : Prop where
  /-- What is loaded is what the events tell of. -/
  told : ∀ l : Language, .grammarLoaded l.name ∈ events ↔ r.state l ≠ .unloaded
  /-- A grammar is asked for until it is loaded. -/
  settled : events.Pairwise Settled
  /-- Each language has a parser of its own. -/
  owned : ∀ l p, r.state l = .ready p → p.language = l

theorem records_fresh : Records fresh [] where
  told _ := by simp [fresh]
  settled := .nil
  owned _ _ h := by cases h

theorem Records.settled_append {events : List Event} {e : Event} (hr : Records r events)
    (h : r.state l = .unloaded) (he : e.attempt? = some l.name) :
    (events ++ [e]).Pairwise Settled := by
  refine List.pairwise_append.2 ⟨hr.settled, List.pairwise_singleton _ _, ?_⟩
  intro e' he' e'' he'' language hloaded hattempt
  obtain rfl := List.mem_singleton.1 he''
  obtain rfl : l.name = language := Option.some.inj (he.symm.trans hattempt)
  cases e' with
  | grammarLoaded =>
    cases hloaded
    exact (hr.told l).1 he' h
  | _ => cases hloaded

theorem Records.told_append {events : List Event} {e : Event} (hr : Records r events)
    (he : e = .grammarLoaded l.name) (hself : r'.state l ≠ .unloaded)
    (hne : ∀ k, k ≠ l → r'.state k = r.state k) (k : Language) :
    .grammarLoaded k.name ∈ events ++ [e] ↔ r'.state k ≠ .unloaded := by
  subst he
  by_cases hkl : k = l
  · subst hkl
    simp [hself]
  · have hname : k.name ≠ l.name := fun h => hkl (Language.name_injective h)
    simp [hne k hkl, hr.told k, hname]

theorem Turn.records {events more : List Event} (h : Turn loader r r' more)
    (hr : Records r events) : Records r' (events ++ more) := by
  cases h with
  | idle => rwa [List.append_nil]
  | refused h =>
    exact ⟨fun k => by simp [hr.told k], hr.settled_append h rfl, hr.owned⟩
  | @loaded l h =>
    refine ⟨hr.told_append rfl (by simp) fun k hk => state_set_of_ne r hk _,
      hr.settled_append h rfl, fun k p hk => ?_⟩
    by_cases hkl : k = l
    · subst hkl
      simp at hk
    · exact hr.owned k p (state_set_of_ne r hkl _ ▸ hk)
  | @made l h =>
    rw [List.append_nil]
    refine ⟨fun k => ?_, hr.settled, owned_make hr.owned l⟩
    by_cases hkl : k = l
    · subst hkl
      simp [hr.told k, h]
    · rw [hr.told k, state_make_of_ne r hkl]
  | @prepared l h =>
    exact ⟨hr.told_append rfl (by simp) fun k hk => state_make_of_ne r hk,
      hr.settled_append h rfl, owned_make hr.owned l⟩

/-- **Every run** is recorded. -/
theorem Records.after {events : List Event} (hr : Records r events) (calls : List Call) :
    Records (r.after calls) (events ++ heard r calls) := by
  induction calls generalizing r events with
  | nil => simpa [heard, Registry.after] using hr
  | cons c calls ih =>
    have hturn := (turn_of_ask c.loader r c.query).records hr
    simpa [heard, Registry.after] using ih hturn

theorem records_after_fresh (calls : List Call) :
    Records (fresh.after calls) (heard fresh calls) :=
  records_fresh.after calls

/-- A grammar that is asked for only until it is loaded is **loaded at most once**. -/
theorem nodup_of_settled {events : List Event} (h : events.Pairwise Settled) :
    (events.filterMap Event.loaded?).Nodup := by
  refine List.Pairwise.filterMap _ ?_ h
  intro e e' hsettled language hlanguage language' hlanguage' heq
  subst heq
  exact hsettled language hlanguage (Event.attempt?_of_loaded? hlanguage')

/-! ## What is loaded once -/

/-- The loader is **not asked** when a name of a language is checked, nor when its parser is wanted:
both succeed without doing anything in whatever monad it would be asked, and they tell of nothing. -/
def Unasked (r : Registry) (l : Language) (name : String) : Prop := ∃ r' p,
  ∀ (m : Type → Type) [Monad m] [LawfulMonad m] (loader : LoaderM m),
    r.checkM loader name = pure (r, .ok l) ∧ r.parserM loader name = pure (r', .ok p)

/-- The loader **is asked once**, for the language, when a name of the language is checked and when
its parser is wanted, and its answer decides how that ends. If it refuses, the registry stays as it
is. -/
def Asked (r : Registry) (l : Language) (name : String) : Prop :=
  ∃ (checked : Option String → Registry × Logged Language)
    (parsed : Option String → Registry × Logged Parser),
  (∀ (m : Type → Type) [Monad m] [LawfulMonad m] (loader : LoaderM m),
    r.checkM loader name = checked <$> loader l ∧ r.parserM loader name = parsed <$> loader l)
  ∧ (∀ reason,
    let refused := Failure.issue (.grammarUnavailable l.name reason)
    checked (some reason) = (r, ⟨[.grammarLoadFailed l.name reason], .error refused⟩)
      ∧ parsed (some reason) = (r, ⟨[.grammarLoadFailed l.name reason], .error refused⟩))
  ∧ (checked none).2 = ⟨[.grammarLoaded l.name], .ok l⟩
  ∧ ∃ p, (parsed none).2 = ⟨[.grammarLoaded l.name], .ok p⟩

theorem unasked_of_loaded (hname : Language.ofName? name = some l) (h : r.state l ≠ .unloaded) :
    Unasked r l name := by
  cases hstate : r.state l with
  | unloaded => exact absurd hstate h
  | loaded =>
    refine ⟨r.make l, ⟨l, r.made⟩, fun m _ _ loader => ⟨checkM_of_loaded hname h, ?_⟩⟩
    exact (parserM_of_ofName? hname).trans (parserOfM_of_loaded hstate)
  | ready p =>
    refine ⟨r, p, fun m _ _ loader => ⟨checkM_of_loaded hname h, ?_⟩⟩
    exact (parserM_of_ofName? hname).trans (parserOfM_of_ready hstate)

theorem asked_of_unloaded (hname : Language.ofName? name = some l) (h : r.state l = .unloaded) :
    Asked r l name := by
  refine ⟨r.checked l, r.parsed l, fun m _ _ loader => ⟨checkM_of_unloaded hname h, ?_⟩,
    fun reason => ⟨rfl, rfl⟩, rfl, _, rfl⟩
  exact (parserM_of_ofName? hname).trans (parserOfM_of_unloaded h)

/-- Checking a name and asking for its parser **fail alike**, and so they succeed alike. -/
theorem error_check_iff (loader : Loader) (r : Registry) (name : String) (f : Failure) :
    (r.check loader name).2.result = .error f ↔ (r.parser loader name).2.result = .error f := by
  cases hname : Language.ofName? name with
  | none => rw [check_of_unknown hname, parser_of_unknown hname]; simp [Logged.fail]
  | some l =>
    cases hstate : r.state l with
    | unloaded =>
      rw [check_of_unloaded hname hstate, parser_of_unloaded hname hstate]
      cases loader l <;> simp [checked, parsed, answered, Logged.bind, Logged.ok]
    | loaded =>
      rw [check_of_loaded hname (ne_unloaded_of_loaded hstate), parser_of_loaded hname hstate]
      simp [Logged.ok]
    | ready =>
      rw [check_of_loaded hname (ne_unloaded_of_ready hstate), parser_of_ready hname hstate]
      simp [Logged.ok]

theorem Records.parser_eq_iff {events : List Event} {name' : String} {loader' : Loader}
    {p p' : Parser} (hr : Records r events) (more : List Call)
    (h : (r.parser loader name).2.result = .ok p)
    (h' : (((r.parser loader name).1.after more).parser loader' name').2.result = .ok p') :
    p = p' ↔ Language.ofName? name = Language.ofName? name' := by
  obtain ⟨l, hname, hready⟩ := ready_of_success h
  have hfirst := (parser_turn loader r name).records hr
  have hrecords := hfirst.after more
  have hlater := (keeps_after _ more).ready l p hready
  obtain ⟨l', hname', hready'⟩ := ready_of_success h'
  have hpl : p.language = l := hfirst.owned l p hready
  have hpl' : p'.language = l' :=
    ((parser_turn loader' _ name').records hrecords).owned l' p' hready'
  rw [hname, hname', Option.some.injEq]
  constructor
  · rintro rfl
    rw [← hpl, hpl']
  · rintro rfl
    have hkept := (parser_turn loader' _ name').keeps.ready l p hlater
    exact Readiness.ready.inj (hkept.symm.trans hready')

end Registry

end Drift
