import CodeAudit.Grammar.Go
import CodeAudit.Grammar.Java
import CodeAudit.Grammar.Python
import CodeAudit.Grammar.Script
import CodeAudit.Syntax.Parser

/-!
The parser that comes with the program. It never gives up, but from a text with faults it gets little. Two repairs are
known: a line that is no statement is passed over where indentation makes the blocks, and the parenthesis behind the
parameters of a method may be missing. Any other fault leaves an empty tree that is marked as unsound, so with the fault
goes all that is sound around it. A parser that goes on behind a fault keeps those declarations and calls, and what the
rest of the program says of them is said of its trees as well.
-/
namespace CodeAudit.Grammar

open Syntax

/-- A text read with a grammar. The program begins with the first character that is not blank. -/
def reading {ν μ : Type} (g : Syntax.Grammar ν μ) (isBlank : Char → Bool) (comment? : Source → Nat → Option Nat)
    (s : Source) : Reading :=
  let (tree, sound) := g.parse s
  { tree := tree.attach (Scan.commentsIn comment? s)
    program := ⟨s.skipWhile isBlank s.start, s.size⟩
    sound := sound }

def script (d : Script.Dialect) : Source → Reading :=
  reading (Script.grammar d) Script.isBlank Scan.slashComment?

def parser : SyntaxParser := fun name s => .ok <| match name with
  | .typescript => script ⟨true, false⟩ s
  | .tsx => script ⟨true, true⟩ s
  -- markup needs no grammar of its own in untyped texts
  | .javascript => script ⟨false, true⟩ s
  | .python => reading Python.grammar Python.isBlank Python.isComment s
  | .java => reading Java.grammar Java.isBlank Scan.slashComment? s
  | .go => reading Go.grammar Go.isBlank Scan.slashComment? s

end CodeAudit.Grammar
