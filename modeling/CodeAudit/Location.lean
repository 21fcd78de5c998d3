/-!
Spans of lines and columns in a file, counted from one.
-/
namespace CodeAudit

structure Location where
  file : String := ""
  startLine : Nat := 0
  startColumn : Nat := 0
  endLine : Nat := 0
  endColumn : Nat := 0
deriving DecidableEq, Repr, Inhabited

namespace Location

/-- The first column of one line. -/
def line (file : String) (n : Nat) : Location := ⟨file, n, 1, n, 1⟩

/-- The start of a file. -/
def fileStart (file : String) : Location := line file 1

def lineCount (l : Location) : Nat := l.endLine - l.startLine + 1

def containsLine (l : Location) (n : Nat) : Bool := l.startLine ≤ n && n ≤ l.endLine

end Location
end CodeAudit
