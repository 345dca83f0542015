import Drift.Event

/-!
# Logged computations

* `Logged` — a result or a failure, with the events noted on the way. Computations are joined with
  `do`: events follow each other, and a failure ends the run and keeps the events before it.
* `Logged.timed` — notes how an operation ended.
-/

namespace Drift

/-- A **result or a failure**, with the events noted on the way. -/
structure Logged (α : Type) where
  events : List Event
  result : Except Failure α

namespace Logged

variable {α β : Type}

/-- A result without events. -/
def ok (a : α) : Logged α := ⟨[], .ok a⟩

/-- A failure without events. -/
def fail (f : Failure) : Logged α := ⟨[], .error f⟩

/-- Runs on with the result, if there is one. -/
def bind (m : Logged α) (f : α → Logged β) : Logged β :=
  match m.result with
  | .error e => ⟨m.events, .error e⟩
  | .ok a => ⟨m.events ++ (f a).events, (f a).result⟩

instance : Monad Logged where
  pure := ok
  bind := bind

/-- Notes an event. -/
def note (e : Event) : Logged Unit := ⟨[e], .ok ()⟩

/-- A result or an issue, without events. -/
def ofIssue (r : Except Issue α) : Logged α := ⟨[], r.mapError .issue⟩

/-- A result or a fault, without events. -/
def ofFault (r : Except Fault α) : Logged α := ⟨[], r.mapError .fault⟩

/-- The first of the named values that has one of the names. -/
def taken? (extra : Named) (names : List String) : Option String :=
  (extra.find? fun e => names.contains e.1).map (·.1)

/-- The names of what an operation is made of. -/
def operationParts : List String := ["self", "logger", "operation"]

/-- The names of what every note is made of. -/
def noteParts : List String := ["event", "method_name"]

/-- The names of the fields of the note on an operation that failed. -/
def failureFields : List String := ["error_type", "error_message", "duration_ms"]

/-- Why the end of an operation is not noted: a named value takes the name of a field of the note on
a failure, or of a part of the note. -/
def unnoted? (extra : Named) (failed : Bool) : Option Fault :=
  if failed then
    match taken? extra failureFields with
    | some name => some (.nameTaken name)
    | none => (taken? extra noteParts).map fun _ => .wrongForm
  else (taken? extra ("duration_ms" :: noteParts)).map fun _ => .wrongForm

/-- Notes how an operation ended, if that can be noted. -/
def ended (m : Logged α) (unnoted : Option Fault) (e : Event) : Logged α :=
  match unnoted with
  | some fault => ⟨m.events, .error (.fault fault)⟩
  | none => ⟨m.events ++ [e], m.result⟩

/-- Runs an operation and **notes how it ended**, with more named values. They must not take the
names that the operation and the note have for their own parts; those of the operation are looked
at before it runs. -/
def timed (operation : Literal) (extra : Named) (m : Logged α) : Logged α :=
  if (taken? extra operationParts).isSome then .fail (.fault .wrongForm)
  else match m.result with
    | .ok _ => m.ended (unnoted? extra false) (.operationComplete operation extra)
    | .error f => m.ended (unnoted? extra true) (.operationFailed operation f extra)

/-- Runs a computation on each item in turn and joins the lists that they give. -/
def concat (f : α → Logged (List β)) : List α → Logged (List β)
  | [] => ok []
  | a :: rest => (f a).bind fun first => (concat f rest).bind fun others => ok (first ++ others)

end Logged

end Drift
