import CodeAudit.Ast.File
import CodeAudit.Finding.Basic
import CodeAudit.Path.Import
import CodeAudit.SourceFile

/-!
What every analysis sees: the files of a project and the trees read from them. An analysis is a
function of a project and gives a report with findings.
-/
namespace CodeAudit

structure Project where
  files : List SourceFile := []
  trees : List AstFile := []

structure Analysis (ρ : Type) where
  report : ρ
  findings : List Finding

namespace Project

/-- The trees without an error. -/
def parsed (p : Project) : List AstFile := p.trees.filter fun t => !t.hasError

/-- The content of a path; of several files with one path the last loaded one counts. -/
def content? (p : Project) (path : String) : Option String :=
  (p.files.filter fun f => f.path = path).foldl (fun c f => f.content.or c) none

/-- The paths of all files in normal form. -/
def paths (p : Project) : List String := p.files.map fun f => Path.normalize f.path

end Project

/-- The name shown for what has none. -/
def anonymousName : String := "<anonymous>"

end CodeAudit
