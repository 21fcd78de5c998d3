import CodeAudit.Ast.Node
import CodeAudit.Language

/-!
The tree of one file with its imports and exports, or the reason why there is none.
-/
namespace CodeAudit

structure ImportInfo where
  source : String
  specifiers : List String := []
  isRelative : Bool
  isDynamic : Bool := false
  line : Nat
  /-- A source that begins with a dot is relative to the importing file. -/
  isRelative_eq : isRelative = Text.startsWith source "."
deriving DecidableEq, Repr

def ImportInfo.new (source : String) (line : Nat) : ImportInfo where
  source := source
  isRelative := Text.startsWith source "."
  line := line
  isRelative_eq := rfl

structure ExportInfo where
  name : String
  kind : String
  isDefault : Bool := false
  line : Nat
deriving DecidableEq, Repr, Inhabited

/-- Whether a grammar stands behind the tree. -/
inductive Fidelity where
  | full
  | bestEffort
deriving DecidableEq, Repr, Inhabited

def Fidelity.name : Fidelity → String
  | full => "full"
  | bestEffort => "best_effort"

structure AstFile where
  path : String
  language : Language
  root : AstNode
  imports : List ImportInfo := []
  exports : List ExportInfo := []
  parseError : Option String := none
  contentHash : String
  fidelity : Fidelity
deriving Inhabited

namespace AstFile

/-- A parsed tree with its ids and parent links. -/
def ofTree (path : String) (language : Language) (root : AstNode) (imports : List ImportInfo)
    (exports : List ExportInfo) (contentHash : String) (fidelity : Fidelity) : AstFile where
  path := path
  language := language
  root := (root.assignIds none []).1
  imports := imports
  exports := exports
  contentHash := contentHash
  fidelity := fidelity

/-- A file that could not be parsed: an empty root and the error. -/
def failed (path : String) (language : Language) (contentHash error : String) : AstFile :=
  let root : AstNode := { kind := .moduleScope, location := ⟨path, 1, 1, 1, 1⟩ }
  { ofTree path language root [] [] contentHash .bestEffort with parseError := some error }

def hasError (f : AstFile) : Bool := f.parseError.isSome

def nodes (f : AstFile) : List AstNode := f.root.nodes

def functions (f : AstFile) : List AstNode := f.root.findAll .function

def nodeCount (f : AstFile) : Nat := f.root.count

end AstFile
end CodeAudit
