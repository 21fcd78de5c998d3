import CodeAudit.Text.Basic

/-!
Where the block that begins on a line ends: by matching braces, or by indentation. Open braces and brackets
are counted in signed words of 32 bits.
-/
namespace CodeAudit.Lexical

/-- A declaration is followed for this many lines beyond its first. -/
def maxSignatureLines : Nat := 12

/-- Width of the indentation; a tab counts four columns. -/
def indentChars : List Char → Nat
  | ' ' :: rest => 1 + indentChars rest
  | '\t' :: rest => 4 + indentChars rest
  | _ => 0

def indentWidth (line : String) : Nat := indentChars line.toList

/-- Braces seen so far: none yet, or the number of open ones. -/
inductive BraceScan where
  | before
  | inside (depth : Int32)
  | closed
  | ended
deriving DecidableEq, Repr

/-- A closing brace before the first opening one is ignored; a semicolon there ends the
declaration. -/
def BraceScan.step : BraceScan → Char → BraceScan
  | before, '\x7b' => inside 1
  | before, ';' => ended
  | inside d, '\x7b' => inside (d + 1)
  | inside d, '\x7d' => if d - 1 ≤ 0 then closed else inside (d - 1)
  | s, _ => s

def BraceScan.line (s : BraceScan) (line : String) : BraceScan := line.toList.foldl step s

/-- Follows the braces of the lines from number `i` on; `last` is the last line of all. -/
def braceEndFrom (start last : Nat) : Nat → BraceScan → List String → Option Nat
  | _, .inside _, [] => some last
  | _, _, [] => none
  | i, s, line :: rest =>
    match s.line line with
    | .closed => some i
    | .ended => none
    | .before => if start + maxSignatureLines ≤ i then none else braceEndFrom start last (i + 1) .before rest
    | .inside d => braceEndFrom start last (i + 1) (.inside d) rest

/-- The line that closes the brace block opened on line `start` or soon after it. -/
def braceBlockEnd? (lines : List String) (start : Nat) : Option Nat :=
  braceEndFrom start (lines.length - 1) start .before (lines.drop start)

/-- How much a character changes the number of open brackets. -/
def bracketChange (c : Char) : Int32 :=
  if c = '(' ∨ c = '[' ∨ c = '\x7b' then 1
  else if c = ')' ∨ c = ']' ∨ c = '\x7d' then -1
  else 0

def bracketBalance (line : String) : Int32 := line.toList.foldl (fun n c => n + bracketChange c) 0

/-- The last line of a header whose brackets may stay open over several lines. -/
def headerEnd (start : Nat) : Nat → Int32 → List String → Nat
  | i, _, [] => i - 1
  | i, balance, line :: rest =>
    let balance := balance + bracketBalance line
    if balance ≤ 0 ∨ start + maxSignatureLines ≤ i then i else headerEnd start (i + 1) balance rest

/-- The last line that is indented deeper than `base`, blank lines aside. -/
def bodyEnd (base : Nat) : Nat → Nat → List String → Nat
  | last, _, [] => last
  | last, i, line :: rest =>
    if Text.isBlank line then bodyEnd base last (i + 1) rest
    else if indentWidth line ≤ base then last
    else bodyEnd base i (i + 1) rest

/-- The last line of the indentation block with its header on line `start`. -/
def indentBlockEnd (lines : List String) (start : Nat) : Nat :=
  match lines[start]? with
  | none => start
  | some first =>
    let head := headerEnd start start 0 (lines.drop start)
    bodyEnd (indentWidth first) head (head + 1) (lines.drop (head + 1))

end CodeAudit.Lexical
