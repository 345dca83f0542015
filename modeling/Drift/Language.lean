import Drift.Unicode.Blank
import Drift.Unicode.Case

/-!
# Languages

* `Language` — the programming languages that can be scanned; `Language.name` and
  `Language.aliases` are what they are called.
* `Language.ofName?` — the language of a name or an alias, in any letter case and with blanks around
  it.
-/

namespace Drift

/-- A programming language that can be **scanned**. -/
inductive Language where
  | java
  | javascript
  | typescript
  | tsx
  | python
  | go
  | rust
  | c
  | cpp
  | csharp
  | kotlin
  | ruby
  | php
  deriving DecidableEq, Repr

namespace Language

/-- The name of the language. -/
def name : Language → String
  | java => "java"
  | javascript => "javascript"
  | typescript => "typescript"
  | tsx => "tsx"
  | python => "python"
  | go => "go"
  | rust => "rust"
  | c => "c"
  | cpp => "cpp"
  | csharp => "csharp"
  | kotlin => "kotlin"
  | ruby => "ruby"
  | php => "php"

/-- The other names of the language, in ascending order. -/
def aliases : Language → List String
  | javascript => ["js"]
  | typescript => ["ts"]
  | python => ["py"]
  | rust => ["rs"]
  | csharp => ["c_sharp", "cs"]
  | ruby => ["rb"]
  | _ => []

/-- All languages, in the order of their names. -/
def all : List Language :=
  [c, cpp, csharp, go, java, javascript, kotlin, php, python, ruby, rust, tsx, typescript]

/-- The form in which names are compared. -/
def plainName (name : String) : String :=
  String.ofList (Unicode.lower (Unicode.strip name.toList))

/-- The language goes by this name. -/
def isCalled (l : Language) (name : String) : Bool := l.name == name || l.aliases.contains name

/-- The **language of a name**, in any letter case and with blanks around it. -/
def ofName? (name : String) : Option Language := all.find? (·.isCalled (plainName name))

end Language

end Drift
