import Drift.Extraction
import Drift.Language

/-!
# Parsers

* `Grammars` — which grammars can be loaded, and the trees that they give for the bytes of sources.
* `Registry` — what has been loaded so far: a grammar is loaded at most once, and each language has
  at most one parser.
* `Registry.parserM`, `Registry.checkM` — the parser of a language, and whether its grammar can be
  loaded. The loader may do anything else when it is asked; `Registry.parser` and `Registry.check`
  are for one that does not.
-/

namespace Drift

/-! ## Grammars -/

/-- Loading a grammar gives nothing but the words for what went wrong, if anything did. It is done
in some monad. -/
abbrev LoaderM (m : Type → Type) := Language → m (Option String)

/-- A loader that does nothing but answer. -/
abbrev Loader := Language → Option String

/-- The **grammars**: those that cannot be loaded, with the reason, and the trees that the others
give for the bytes of sources. -/
structure Grammars where
  unavailable : List (Language × String)
  trees : List (Language × Bytes × Tree Int)

namespace Grammars

/-- Why the grammar of a language cannot be loaded, if it cannot. -/
def load (g : Grammars) : Loader := fun l => (g.unavailable.find? (·.1 == l)).map (·.2)

/-- The tree of the bytes of a source in a language. -/
def parse (g : Grammars) (l : Language) : Parse Int := fun bytes =>
  (g.trees.find? fun t => t.1 == l && t.2.1 == bytes).map (·.2.2)

end Grammars

/-! ## The registry -/

/-- The **parser** of a language, numbered in the order of their making. -/
structure Parser where
  language : Language
  number : Nat
  deriving DecidableEq, Repr

/-- How far a language has been prepared. -/
inductive Readiness where
  /-- Its grammar has not been loaded. -/
  | unloaded
  /-- Its grammar has been loaded. -/
  | loaded
  /-- Its grammar has been loaded and its parser has been made. -/
  | ready (parser : Parser)
  deriving DecidableEq, Repr

/-- What has been **prepared so far**: how far each language is, and how many parsers there are. -/
structure Registry where
  state : Language → Readiness
  made : Nat

namespace Registry

/-- Nothing has been prepared. -/
def fresh : Registry := ⟨fun _ => .unloaded, 0⟩

/-- The registry with a language at another state. -/
def set (r : Registry) (l : Language) (s : Readiness) : Registry :=
  { r with state := fun k => if k = l then s else r.state k }

@[simp] theorem state_set_self (r : Registry) (l : Language) (s : Readiness) :
    (r.set l s).state l = s := by
  simp [set]

@[simp] theorem state_set_of_ne (r : Registry) {k l : Language} (h : k ≠ l) (s : Readiness) :
    (r.set l s).state k = r.state k := by
  simp [set, h]

/-- The language of a name, or the report that there is none. -/
def resolve (name : String) : Except Issue Language :=
  match Language.ofName? name with
  | some l => .ok l
  | none => .error (.unsupportedLanguage name)

/-- What the loader's answer leads to. -/
def answered (r : Registry) (l : Language) : Option String → Registry × Logged Unit
  | some reason =>
    (r, ⟨[.grammarLoadFailed l.name reason], .error (.issue (.grammarUnavailable l.name reason))⟩)
  | none => (r.set l .loaded, ⟨[.grammarLoaded l.name], .ok ()⟩)

section Monadic

variable {m : Type → Type} [Monad m] (loader : LoaderM m) (r : Registry)

/-- Loads the grammar of a language, unless that is done. -/
def loadM (l : Language) : m (Registry × Logged Unit) :=
  match r.state l with
  | .loaded | .ready _ => return (r, .ok ())
  | .unloaded => return r.answered l (← loader l)

/-- The **parser of a language**, made when it is first asked for. -/
def parserOfM (l : Language) : m (Registry × Logged Parser) :=
  match r.state l with
  | .ready parser => return (r, .ok parser)
  | _ => do
    match ← r.loadM loader l with
    | (r, ⟨events, .error failure⟩) => return (r, ⟨events, .error failure⟩)
    | (r, ⟨events, .ok ()⟩) =>
      let parser : Parser := ⟨l, r.made⟩
      return ({ r.set l (.ready parser) with made := r.made + 1 }, ⟨events, .ok parser⟩)

/-- The **parser of the language of a name**. -/
def parserM (name : String) : m (Registry × Logged Parser) :=
  match resolve name with
  | .error issue => return (r, .fail (.issue issue))
  | .ok l => r.parserOfM loader l

/-- Loads the grammar of the **language of a name**. -/
def checkM (name : String) : m (Registry × Logged Language) :=
  match resolve name with
  | .error issue => return (r, .fail (.issue issue))
  | .ok l => do
    match ← r.loadM loader l with
    | (r, ⟨events, .error failure⟩) => return (r, ⟨events, .error failure⟩)
    | (r, ⟨events, .ok ()⟩) => return (r, ⟨events, .ok l⟩)

end Monadic

/-- The parser of the language of a name, by a loader that does nothing but answer. -/
def parser (loader : Loader) (r : Registry) (name : String) : Registry × Logged Parser :=
  Id.run (r.parserM (fun l => pure (loader l)) name)

/-- Loads the grammar of the language of a name by such a loader. -/
def check (loader : Loader) (r : Registry) (name : String) : Registry × Logged Language :=
  Id.run (r.checkM (fun l => pure (loader l)) name)

end Registry

end Drift
