import Drift.Proofs.Notes

/-!
# Runs

* `Run.result_of_exitCode_eq_zero`, `Run.exitCode_eq_zero` — a run exits with zero when its command
  succeeds and finds no changes.
* `Asks`, `run_eq` — a command line that asks for a command, and its run;
  `files_or_asks` — any other run leaves the files alone.
-/

namespace Drift

namespace Run

theorem exitCode_reported (s : Surroundings) (i : Issue) : (reported s i).exitCode = 1 := by
  unfold reported
  split <;> rfl

theorem exitCode_afterNotes {settings : Settings} {events : List Event} {o : Outcome}
    (h : (afterNotes settings events o).exitCode = 0) : o.exitCode = 0 := by
  unfold afterNotes at h
  split at h
  · exact h
  · cases h

/-- A run that exits with zero **has succeeded** and found no changes. -/
theorem result_of_exitCode_eq_zero {s : Surroundings} {settings : Settings} {m : Logged Printout}
    (h : (outcomeOf s settings m).exitCode = 0) : ∃ r, m.result = .ok r ∧ r.changed = false := by
  unfold outcomeOf at h
  split at h
  · next r hr =>
    have hexit := exitCode_afterNotes h
    refine ⟨r, hr, ?_⟩
    cases hchanged : r.changed with
    | false => rfl
    | true => rw [hchanged] at hexit; cases hexit
  · have hexit := exitCode_afterNotes h
    rw [exitCode_reported] at hexit
    cases hexit
  · cases exitCode_afterNotes h

/-- A run whose events can be written **exits with zero** when its command succeeds and finds no
changes. -/
theorem exitCode_eq_zero {m : Logged Printout} {r : Printout} (hm : m.Writable)
    (hr : m.result = .ok r) (hchanged : r.changed = false) (s : Surroundings)
    (settings : Settings) : (outcomeOf s settings m).exitCode = 0 := by
  unfold outcomeOf
  rw [hr]
  obtain ⟨lines, hlines⟩ := afterNotes_eq hm settings
    { exitCode := if r.changed then 1 else 0, output := r.output }
  refine (congrArg Outcome.exitCode hlines).trans (if_neg ?_)
  rw [hchanged]
  exact Bool.false_ne_true

end Run

/-! ## Command lines -/

/-- The command line **asks for a command**, under settings that can be loaded. -/
def Asks (s : Surroundings) (line : List String) (settings : Settings) (c : Command) : Prop :=
  ∃ i, Invocation.parse line = .ok i ∧ i.group.parse i.rest = .ok c ∧
    Configuration.load s.environment s.files (Run.overrides i) = .ok settings

variable {s : Surroundings} {line : List String} {i : Invocation} {settings : Settings}

theorem run_eq {c : Command} (hline : Invocation.parse line = .ok i)
    (hcommand : i.group.parse i.rest = .ok c)
    (hload : Configuration.load s.environment s.files (Run.overrides i) = .ok settings) :
    run s line = ⟨(c.run s settings).1, (c.run s settings).2.events,
      Run.outcomeOf s settings (c.run s settings).2⟩ := by
  unfold run
  simp only [hline, hload, hcommand]

/-- A command line that asks for no command **leaves the files alone**. -/
theorem files_or_asks (s : Surroundings) (line : List String) :
    (run s line).files = s.files ∨ ∃ settings c, Asks s line settings c ∧
      run s line = ⟨(c.run s settings).1, (c.run s settings).2.events,
        Run.outcomeOf s settings (c.run s settings).2⟩ := by
  cases hline : Invocation.parse line with
  | error => left; unfold run; simp only [hline]
  | ok i =>
    cases hload : Configuration.load s.environment s.files (Run.overrides i) with
    | error => left; unfold run; simp only [hline, hload]
    | ok settings =>
      cases hcommand : i.group.parse i.rest with
      | error => left; unfold run; simp only [hline, hload, hcommand]
      | ok c => exact .inr ⟨settings, c, ⟨i, hline, hcommand, hload⟩, run_eq hline hcommand hload⟩

theorem load_of_exitCode_eq_zero (hline : Invocation.parse line = .ok i)
    (h : (run s line).outcome.exitCode = 0) :
    ∃ settings, Configuration.load s.environment s.files (Run.overrides i) = .ok settings := by
  unfold run at h
  simp only [hline] at h
  cases hload : Configuration.load s.environment s.files (Run.overrides i) with
  | ok settings => exact ⟨settings, rfl⟩
  | error failure =>
    simp only [hload] at h
    cases failure with
    | issue i =>
      change (Run.reported s i).exitCode = 0 at h
      rw [Run.exitCode_reported] at h
      cases h
    | fault => cases h

end Drift
