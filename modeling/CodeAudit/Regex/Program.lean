import CodeAudit.Regex.Pattern

/-!
Patterns as programs of a machine with choice points: of two ways the first is tried first, so the
leftmost alternative and the greedy repetition win.
-/
namespace CodeAudit.Regex

inductive Instr where
  | char (p : Char → Bool) (next : Nat)
  | look (l : Look) (next : Nat)
  | save (slot next : Nat)
  | split (first second : Nat)
  | jump (next : Nat)
  | done

structure Program where
  code : Array Instr
  start : Nat
  groups : Nat

abbrev Code := Array Instr

namespace Code

/-- Appends an instruction and gives its address. -/
def add (code : Code) (i : Instr) : Nat × Code := (code.size, code.push i)

/-- A choice between going on with the operand and leaving, in the order that greed asks for. -/
def choice (greedy : Bool) (operand leave : Nat) : Instr :=
  if greedy then .split operand leave else .split leave operand

/-- Zero or more: a loop. Where the operand can be empty it is entered through a choice of its own,
so that a first empty round still counts as a round. -/
def loop (emit : Nat → Code → Nat × Code) (nullable greedy : Bool) (next : Nat) (code : Code) : Nat × Code :=
  let (again, code) := Code.add code (.jump next)
  let (entry, code) := emit again code
  let code := code.setIfInBounds again (choice greedy entry next)
  if nullable then Code.add code (choice greedy entry next) else (again, code)

/-- One or more. -/
def plus (emit : Nat → Code → Nat × Code) (greedy : Bool) (next : Nat) (code : Code) : Nat × Code :=
  let (again, code) := Code.add code (.jump next)
  let (entry, code) := emit again code
  (entry, code.setIfInBounds again (choice greedy entry next))

/-- Exactly `n` times, then `next`. -/
def times (emit : Nat → Code → Nat × Code) : Nat → Nat → Code → Nat × Code
  | 0, next, code => (next, code)
  | n + 1, next, code =>
    let (entry, code) := emit next code
    times emit n entry code

/-- At most `n` times; each round can leave to the common end. -/
def atMost (emit : Nat → Code → Nat × Code) (greedy : Bool) (leave : Nat) : Nat → Nat → Code → Nat × Code
  | 0, next, code => (next, code)
  | n + 1, next, code =>
    let (entry, code) := emit next code
    let (entry, code) := Code.add code (choice greedy entry leave)
    atMost emit greedy leave n entry code

end Code

/-- The code of a pattern that goes on at `next`, and its entry. -/
def Pattern.emit : Pattern → Nat → Code → Nat × Code
  | empty, next, code => (next, code)
  | set p _, next, code => Code.add code (.char p next)
  | look l, next, code => Code.add code (.look l next)
  | cat a b, next, code =>
    let (middle, code) := b.emit next code
    a.emit middle code
  | alt a b, next, code =>
    let (first, code) := a.emit next code
    let (second, code) := b.emit next code
    Code.add code (.split first second)
  | rep least none greedy p, next, code =>
    if least == 0 then Code.loop p.emit p.nullable greedy next code
    else
      let (entry, code) := Code.plus p.emit greedy next code
      Code.times p.emit (least - 1) entry code
  | rep least (some most) greedy p, next, code =>
    let (entry, code) := Code.atMost p.emit greedy next (most - least) next code
    Code.times p.emit least entry code
  | group i p, next, code =>
    let (close, code) := Code.add code (.save (2 * i + 1) next)
    let (entry, code) := p.emit close code
    Code.add code (.save (2 * i) entry)

/-- The program of a pattern; it records the whole match as group zero. -/
def Program.of (p : Pattern) (groups : Nat) : Program :=
  let (done, code) := Code.add #[] .done
  let (start, code) := (Pattern.group 0 p).emit done code
  ⟨code, start, groups⟩

end CodeAudit.Regex
