import CodeAudit.Syntax.Tree

/-!
Parsing expressions: grammars as data. Choice is ordered and repetition is greedy, so a grammar has at
most one reading of a text. The reader keeps the end of the last token, the start of the next one and
a mode of the grammar's choosing, such as the indentation or whether line breaks count.
-/
namespace CodeAudit.Syntax

/-- Reads one token at a position and says where it ends. -/
abbrev Scanner := Source → Nat → Option Nat

inductive Peg (ν μ : Type) where
  /-- A token, after blanks and comments. -/
  | token (tag : Tag) (scan : Scanner)
  /-- A change of the mode at the end of the last token, which may yield a token. -/
  | step (tag : Option Tag) (move : μ → Source → Nat → Option (μ × Span))
  | seq (parts : List (Peg ν μ))
  | alt (choices : List (Peg ν μ))
  | many (item : Peg ν μ)
  | opt (item : Peg ν μ)
  | ahead (item : Peg ν μ)
  | notAhead (item : Peg ν μ)
  | rule (name : ν)
  | node (tag : Tag) (item : Peg ν μ)
  | field (role : Role) (item : Peg ν μ)
  /-- A first operand and what may follow it, again and again: each suffix makes a node of the given
  kind in which all that was read before plays the given part. -/
  | grow (first : Peg ν μ) (suffixes : List (Tag × Option Role × Peg ν μ))
  /-- The item read in another mode. -/
  | under (change : μ → μ) (item : Peg ν μ)
  /-- The item, where faults are tolerated; otherwise nothing. -/
  | repair (item : Peg ν μ)

/-- Where the reader stands: the end of the last token, the start of the next, and the mode. -/
structure Cursor (μ : Type) where
  last : Nat
  next : Nat
  mode : μ

/-- A grammar: how blanks are skipped, and what each name stands for. -/
structure Grammar (ν μ : Type) where
  blanks : μ → Source → Nat → Nat
  rules : ν → Peg ν μ
  start : ν
  /-- The mode at the start of a text, and the one in which blanks at its end are skipped. -/
  mode : μ
  last : μ

namespace Grammar

variable {ν μ : Type} (g : Grammar ν μ) (tolerant : Bool) (s : Source)

def moveTo (s : Source) (mode : μ) (last : Nat) : Cursor μ := ⟨last, g.blanks mode s last, mode⟩

/-- Reads an expression in front of the trees read so far, which are kept last first. The fuel bounds
the depth of the expressions entered, not the length of the text. -/
def read (fuel : Nat) (p : Peg ν μ) (done : List Tree) (cur : Cursor μ) :
    Option (List Tree × Cursor μ) :=
  match fuel with
  | 0 => none
  | fuel + 1 =>
    match p with
    | .token tag scan =>
      (scan s cur.next).map fun stop =>
        (Tree.leaf tag ⟨cur.next, stop⟩ :: done, g.moveTo s cur.mode stop)
    | .step tag move =>
      (move cur.mode s cur.last).map fun (mode, span) =>
        ((tag.map fun t => Tree.leaf t span).toList ++ done, g.moveTo s mode span.stop)
    | .seq parts =>
      parts.foldlM (fun (done, cur) part => read fuel part done cur) (done, cur)
    | .alt choices => choices.findSome? fun choice => read fuel choice done cur
    | .many item =>
      match read fuel item done cur with
      | none => some (done, cur)
      | some (more, after) =>
        if after.last = cur.last then some (done, cur) else read fuel (.many item) more after
    | .opt item => (read fuel item done cur).orElse fun _ => some (done, cur)
    | .ahead item => (read fuel item [] cur).map fun _ => (done, cur)
    | .notAhead item =>
      match read fuel item [] cur with
      | none => some (done, cur)
      | some _ => none
    | .rule name => read fuel (g.rules name) done cur
    | .node tag item =>
      (read fuel item [] cur).map fun (trees, after) =>
        (Tree.cover tag cur.last trees.reverse :: done, after)
    | .field role item =>
      (read fuel item [] cur).map fun (trees, after) =>
        (trees.map (Tree.withRole role) ++ done, after)
    | .grow first suffixes =>
      match read fuel first [] cur with
      | none => none
      | some ([t], after) => some (extend fuel suffixes t done after)
      | some (trees, after) => some (trees ++ done, after)
    | .under change item =>
      (read fuel item done (g.moveTo s (change cur.mode) cur.last)).map fun (trees, after) =>
        (trees, g.moveTo s cur.mode after.last)
    | .repair item => if tolerant then read fuel item done cur else none
where
  /-- Adds suffixes as long as one can be read. -/
  extend (fuel : Nat) (suffixes : List (Tag × Option Role × Peg ν μ)) (t : Tree) (done : List Tree)
      (cur : Cursor μ) : List Tree × Cursor μ :=
    match fuel with
    | 0 => (t :: done, cur)
    | fuel + 1 =>
      let base (role : Option Role) := match role with
        | none => t
        | some r => t.withRole r
      let next := suffixes.findSome? fun (tag, role, p) =>
        (read fuel p [base role] cur).map fun (trees, after) =>
          (Tree.cover tag cur.last trees.reverse, after)
      match next with
      | none => (t :: done, cur)
      | some (t, after) => extend fuel suffixes t done after

/-- Reads a whole text: every character but trailing blanks belongs to the start expression. -/
def readAll? : Option Tree :=
  match g.read tolerant s (400 * (s.size + 10)) (g.rules g.start) [] (g.moveTo s g.mode s.start) with
  | some (trees, after) =>
    if g.blanks g.last s after.last = s.size then some (Tree.cover .other 0 trees.reverse) else none
  | none => none

/-- The tree of a text and whether it has no faults. A faulty text is read again with repairs, and is
empty if these do not help. -/
def parse : Tree × Bool :=
  match g.readAll? false s with
  | some t => (t, true)
  | none => ((g.readAll? true s).getD (Tree.cover .other 0 []), false)

end Grammar
end CodeAudit.Syntax
