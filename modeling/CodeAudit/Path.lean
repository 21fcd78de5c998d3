import CodeAudit.Text.Basic
import CodeAudit.Text.Case

/-!
Slash-separated paths: their components, file name, stem and extension. Empty components and
`.` components are skipped, except a `.` that a relative path begins with.
-/
namespace CodeAudit.Path

inductive Component where
  | root
  | current
  | parent
  | normal (name : String)
deriving DecidableEq, Repr

/-- A component of the given name, none if it is skipped. -/
def component? (name : String) : Option Component :=
  if name = "" ∨ name = "." then none
  else if name = ".." then some .parent
  else some (.normal name)

def components (path : String) : List Component :=
  match Text.splitOn path '/' with
  | [] => []
  | first :: rest =>
    let head :=
      if path = "" then []
      else if first = "" then [.root]
      else if first = "." then [.current]
      else (component? first).toList
    head ++ rest.filterMap component?

/-- The last component, if it is the name of an entry. -/
def fileName? (path : String) : Option String :=
  match (components path).getLast? with
  | some (.normal name) => some name
  | _ => none

/-- A file name before and after its last dot; a dot in front of everything divides nothing. -/
def divide (name : String) : String × Option String :=
  if name = ".." then (name, none)
  else match Text.cutLast? name "." with
    | none => (name, none)
    | some (before, after) => if before = "" then (name, none) else (before, some after)

def extension? (path : String) : Option String := (fileName? path).bind fun n => (divide n).2

def stem? (path : String) : Option String := (fileName? path).map fun n => (divide n).1

/-- The extension in lower case, empty if there is none. -/
def extension (path : String) : String := Text.lowerCase ((extension? path).getD "")

/-- The text after the last slash. -/
def baseName (path : String) : String :=
  match Text.cutLast? path "/" with
  | none => path
  | some (_, after) => after

end CodeAudit.Path
