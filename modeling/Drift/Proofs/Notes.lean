import Drift.Command.Run
import Drift.Proofs.Registry
import Drift.Proofs.Result

/-!
# Notes that can be written

* `Event.Writable` — the note of an event has a JSON form; `Logged.Writable` says it of all events
  of a computation.
* `Run.writeNotes_complete` — such notes are all written, in every format.
* **`Command.writable_scan`** — so are those of every scan, whatever becomes of it.
-/

namespace Drift

/-- The note of the event **has a JSON form**. -/
def Event.Writable (e : Event) : Prop := (Terminal.noteObject? e.note).isSome = true

/-! ## Writing notes -/

namespace Run

theorem writeNote?_isSome {e : Event} (h : e.Writable) (settings : Settings) :
    (writeNote? settings e.note).isSome = true := by
  unfold writeNote?
  cases settings.logFormat with
  | json => rw [Option.isSome_map]; exact h
  | console => rfl

theorem writeNotes_complete {settings : Settings} {notes : List Note}
    (h : ∀ n ∈ notes, (writeNote? settings n).isSome = true) :
    (writeNotes settings notes).2 = true := by
  induction notes with
  | nil => rfl
  | cons n notes ih =>
    rw [List.forall_mem_cons] at h
    obtain ⟨line, hline⟩ := Option.isSome_iff_exists.1 h.1
    simp only [writeNotes, hline]
    exact ih h.2

theorem shownNotes_complete {settings : Settings} {events : List Event}
    (h : ∀ e ∈ events, e.Writable) :
    (writeNotes settings (shownNotes settings events)).2 = true := by
  refine writeNotes_complete fun n hn => ?_
  obtain ⟨e, he, rfl⟩ := List.mem_map.1 (List.mem_filter.1 hn).1
  exact writeNote?_isSome (h e he) settings

theorem afterNotes_eq {events : List Event} (h : ∀ e ∈ events, e.Writable) (settings : Settings)
    (o : Outcome) :
    ∃ lines, afterNotes settings events o = { o with errors := lines ++ o.errors } := by
  have hcomplete : (writeNotes settings (shownNotes settings events)).2 = true :=
    shownNotes_complete h
  unfold afterNotes
  split
  · next lines _ => exact ⟨lines, rfl⟩
  · next heq => rw [heq] at hcomplete; cases hcomplete

end Run

/-! ## Computations -/

namespace Logged

variable {α β : Type}

/-- All events can be written. -/
def Writable (m : Logged α) : Prop := ∀ e ∈ m.events, e.Writable

theorem writable_of_nil {m : Logged α} (h : m.events = []) : m.Writable := by
  intro e he
  rw [h] at he
  exact absurd he List.not_mem_nil

theorem writable_bind {m : Logged α} {f : α → Logged β} (hm : m.Writable)
    (hf : ∀ a, m.result = .ok a → (f a).Writable) : (m.bind f).Writable := by
  unfold bind
  cases hr : m.result with
  | error => exact hm
  | ok a =>
    intro e he
    rcases List.mem_append.1 he with he | he
    · exact hm e he
    · exact hf a hr e he

theorem writable_concat {f : α → Logged (List β)} (hf : ∀ a, (f a).Writable) (as : List α) :
    (concat f as).Writable := by
  induction as with
  | nil => exact Logged.writable_of_nil rfl
  | cons a as ih =>
    exact writable_bind (hf a) fun _ _ => writable_bind ih fun _ _ => Logged.writable_of_nil rfl

theorem writable_ended {m : Logged α} (hm : m.Writable) (unnoted : Option Fault) {e : Event}
    (he : e.Writable) : (m.ended unnoted e).Writable := by
  cases unnoted with
  | some => exact hm
  | none =>
    intro e' he'
    rcases List.mem_append.1 he' with he' | he'
    · exact hm e' he'
    · rw [List.mem_singleton.1 he']; exact he

theorem writable_timed {operation : Literal} {extra : Named} {m : Logged α} (hm : m.Writable)
    (hok : (Event.operationComplete operation extra).Writable)
    (herror : ∀ f, (Event.operationFailed operation f extra).Writable) :
    (timed operation extra m).Writable := by
  unfold timed
  split
  · exact Logged.writable_of_nil rfl
  · split
    · exact writable_ended hm _ hok
    · exact writable_ended hm _ (herror _)

end Logged

/-! ## Scanning -/

namespace Extraction

theorem line_of_judge {path : String} {bytes : Bytes} {l : Location Int} {line : Literal}
    (h : judge path bytes l = (.ok (.alone line) : Except Fault (Finding Region))) :
    ∃ n : Int, line = .int n := by
  obtain ⟨text, -, h⟩ := bind_eq_ok_iff.1 h
  split at h
  · cases h
  split at h
  · obtain ⟨_, hline, h⟩ := bind_eq_ok_iff.1 h
    cases h
    cases hline
    exact ⟨_, rfl⟩
  · obtain ⟨_, -, h⟩ := bind_eq_ok_iff.1 h
    cases h

theorem mem_judgeOnto {path : String} {bytes : Bytes} {done : List (Finding Region)}
    {locations : List (Location Int)} {f : Finding Region}
    (h : f ∈ (judgeOnto path bytes done locations).1) :
    f ∈ done ∨ ∃ l ∈ locations, judge path bytes l = .ok f := by
  induction locations generalizing done with
  | nil => exact .inl (List.mem_reverse.1 h)
  | cons l locations ih =>
    unfold judgeOnto at h
    split at h
    · exact .inl (List.mem_reverse.1 h)
    · next finding hl =>
      rcases ih h with h | ⟨l', hl', h⟩
      · rcases List.mem_cons.1 h with rfl | h
        · exact .inr ⟨l, List.mem_cons_self, hl⟩
        · exact .inl h
      · exact .inr ⟨l', List.mem_cons_of_mem _ hl', h⟩

theorem writable_of_finding {path : String} {bytes : Bytes} {locations : List (Location Int)}
    {findings : List (Finding Region)} {e : Event}
    (hfindings : (judgeOnto path bytes [] locations).1 = findings)
    (h : e ∈ findings.filterMap (eventOf? path)) : e.Writable := by
  obtain ⟨f, hf, he⟩ := List.mem_filterMap.1 h
  rcases mem_judgeOnto (hfindings ▸ hf) with hf | ⟨l, -, hl⟩
  · cases hf
  · cases f with
    | alone line =>
      cases he
      obtain ⟨n, rfl⟩ := line_of_judge hl
      rfl
    | _ => cases he

theorem writable_extract (kinds : List String) (parse : Parse Int) (s : Source) :
    (extract kinds parse s : Logged (List Region)).Writable := by
  unfold extract
  split
  · exact Logged.writable_of_nil rfl
  · split
    · exact List.forall_mem_singleton.2 rfl
    · unfold extractFrom
      simp only
      split
      · exact fun e => writable_of_finding rfl
      · intro e he
        rcases List.mem_append.1 he with he | he
        · exact writable_of_finding rfl he
        · rw [List.mem_singleton.1 he]; rfl

end Extraction

theorem Discovery.writable_load (fs : FileSystem) (c : Candidate) : (load fs c).Writable := by
  unfold load
  split
  · exact List.forall_mem_singleton.2 rfl
  · exact Logged.writable_of_nil rfl

theorem Registry.writable_parser (loader : Loader) (r : Registry) (name : String) :
    (r.parser loader name).2.Writable := by
  have hgiven := parser_given loader r name
  generalize r.parser loader name = given at hgiven ⊢
  cases hgiven with
  | unknown | kept => exact Logged.writable_of_nil rfl
  | refused | loaded => exact List.forall_mem_singleton.2 rfl

namespace Scan

theorem writable_regionsBelow (fs : FileSystem) (parse : Parse Int) (root : Path)
    (extensions : List String) : (regionsBelow fs parse root extensions).Writable := by
  unfold regionsBelow
  split
  · exact Logged.writable_of_nil rfl
  · exact Logged.writable_concat (fun c => Logged.writable_bind (Discovery.writable_load fs c)
      fun _ _ => Extraction.writable_extract _ _ _) _

theorem writable_run (fs : FileSystem) (parse : Parse Int) (root language : String)
    (extensions : List String) : (run fs parse root language extensions).Writable := by
  unfold run framed
  refine Logged.writable_bind ?_ fun _ _ =>
    Logged.writable_bind ?_ fun _ _ => Logged.writable_of_nil rfl
  · exact Logged.writable_timed (writable_regionsBelow _ _ _ _) rfl fun _ => rfl
  · exact List.forall_mem_singleton.2 rfl

theorem writable_regions (fs : FileSystem) (grammars : Grammars) (r : Registry)
    (root language : String) (extensions : List String) :
    (regions fs grammars r root language extensions).2.Writable := by
  have hparser := Registry.writable_parser grammars.load r language
  unfold regions byParser
  split
  · next heq => rw [heq] at hparser; exact hparser
  · next heq =>
    rw [heq] at hparser
    intro e he
    rcases List.mem_append.1 he with he | he
    · exact hparser e he
    · exact writable_run _ _ _ _ _ e he

end Scan

/-- Every event of a scan **can be written**. -/
theorem Command.writable_scan (s : Surroundings) (directory language : String)
    (extensions : List String) : (scan s directory language extensions).Writable :=
  Scan.writable_regions _ _ _ _ _ _

end Drift
