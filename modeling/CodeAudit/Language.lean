import CodeAudit.Text.Case

/-!
The languages that files are written in, with their names and the spellings by which people refer
to them.
-/
namespace CodeAudit

inductive Language where
  | typescript
  | javascript
  | python
  | java
  | go
  | rust
  | c
  | cpp
  | csharp
  | ruby
  | php
  | swift
  | kotlin
  | scala
  | shell
  | unknown
deriving DecidableEq, Repr, Inhabited

namespace Language

def all : List Language :=
  [typescript, javascript, python, java, go, rust, c, cpp, csharp, ruby, php, swift, kotlin, scala,
   shell, unknown]

def name : Language → String
  | typescript => "typescript"
  | javascript => "javascript"
  | python => "python"
  | java => "java"
  | go => "go"
  | rust => "rust"
  | c => "c"
  | cpp => "cpp"
  | csharp => "csharp"
  | ruby => "ruby"
  | php => "php"
  | swift => "swift"
  | kotlin => "kotlin"
  | scala => "scala"
  | shell => "shell"
  | unknown => "unknown"

/-- The position in `all`, by which languages are ordered. -/
def rank (l : Language) : Nat := all.idxOf l

/-- The language of exactly this name. -/
def ofName? (s : String) : Option Language := all.find? fun l => l.name == s

def aliases : List (String × Language) :=
  [("ts", typescript), ("js", javascript), ("py", python), ("golang", go), ("rs", rust),
   ("c++", cpp), ("c#", csharp), ("bash", shell), ("sh", shell)]

/-- Reads a name or an alias in any case; the error is the text shown to the user. -/
def parse (s : String) : Except String Language :=
  let lower := Text.lowerCase s
  match (ofName? lower).or (aliases.lookup lower) with
  | some l => .ok l
  | none => .error s!"unsupported language: {lower}"

/-- TypeScript and JavaScript share most conventions. -/
def isEcma : Language → Bool
  | typescript | javascript => true
  | _ => false

def isKnown : Language → Bool
  | unknown => false
  | _ => true

theorem ofName?_name (l : Language) : ofName? l.name = some l := by cases l <;> rfl

end Language
end CodeAudit
