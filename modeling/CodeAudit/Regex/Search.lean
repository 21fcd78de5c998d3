import CodeAudit.Regex.Program
import CodeAudit.Regex.Reader

/-!
Searching: the leftmost match, and of those that begin there the one the program prefers. Each pair
of an instruction and a position is tried once, so a search takes time linear in both.
-/
namespace CodeAudit

structure Regex where
  program : Regex.Program

namespace Regex

/-- Larger patterns are refused. -/
def maxCost : Nat := 10485760

/-- The program of a pattern; none if the pattern is not valid. -/
def compile? (text : String) : Option Regex :=
  match read? text with
  | none => none
  | some (p, groups) => if maxCost < p.cost then none else some ⟨Program.of p groups⟩

inductive Job where
  | visit (instr pos : Nat)
  | restore (slot : Nat) (value : Option Nat)

structure Machine where
  visited : Array Bool
  slots : Array (Option Nat)

/-- Runs the jobs until one reaches the end of the program. -/
def run (code : Array Instr) (text : Array Char) : Nat → List Job → Machine → Bool × Machine
  | 0, _, m => (false, m)
  | _, [], m => (false, m)
  | fuel + 1, .restore slot value :: jobs, ⟨visited, slots⟩ =>
    run code text fuel jobs ⟨visited, slots.setIfInBounds slot value⟩
  | fuel + 1, .visit i pos :: jobs, ⟨visited, slots⟩ =>
    let key := i * (text.size + 1) + pos
    if visited.getD key true then run code text fuel jobs ⟨visited, slots⟩
    else
      let visited := visited.setIfInBounds key true
      match code[i]? with
      | none => run code text fuel jobs ⟨visited, slots⟩
      | some .done => (true, ⟨visited, slots⟩)
      | some (.jump next) => run code text fuel (.visit next pos :: jobs) ⟨visited, slots⟩
      | some (.split a b) =>
        run code text fuel (.visit a pos :: .visit b pos :: jobs) ⟨visited, slots⟩
      | some (.save slot next) =>
        let old := (slots[slot]?).join
        run code text fuel (.visit next pos :: .restore slot old :: jobs)
          ⟨visited, slots.setIfInBounds slot (some pos)⟩
      | some (.look l next) =>
        let before := if pos = 0 then none else text[pos - 1]?
        if l.holds before text[pos]? then
          run code text fuel (.visit next pos :: jobs) ⟨visited, slots⟩
        else run code text fuel jobs ⟨visited, slots⟩
      | some (.char p next) =>
        match text[pos]? with
        | some c =>
          if p c then run code text fuel (.visit next (pos + 1) :: jobs) ⟨visited, slots⟩
          else run code text fuel jobs ⟨visited, slots⟩
        | none => run code text fuel jobs ⟨visited, slots⟩

/-- A match: the searched text and, per group, where it begins and ends, counted in characters. -/
structure Match where
  text : Array Char
  slots : Array (Option Nat)

/-- Tries the positions from `pos` on. -/
def searchFrom (r : Program) (text : Array Char) : Nat → Nat → Machine → Option Match
  | 0, _, _ => none
  | left + 1, pos, m =>
    match run r.code text (3 * r.code.size * (text.size + 1) + 3) [.visit r.start pos] m with
    | (true, m) => some ⟨text, m.slots⟩
    | (false, m) => searchFrom r text left (pos + 1) m

/-- The leftmost match that begins at `pos` or later. -/
def findFrom? (r : Regex) (text : Array Char) (pos : Nat) : Option Match :=
  let size := r.program.code.size * (text.size + 1)
  searchFrom r.program text (text.size + 1 - pos) pos
    ⟨Array.replicate size false, Array.replicate (2 * r.program.groups + 2) none⟩

namespace Match

/-- Begin and end of a group that took part in the match. -/
def span? (m : Match) (group : Nat) : Option (Nat × Nat) :=
  match (m.slots[2 * group]?).join, (m.slots[2 * group + 1]?).join with
  | some a, some b => some (a, b)
  | _, _ => none

def start (m : Match) : Nat := ((m.span? 0).map (·.1)).getD 0

def stop (m : Match) : Nat := ((m.span? 0).map (·.2)).getD 0

def slice (m : Match) (a b : Nat) : String := String.ofList ((m.text.extract a b).toList)

def group? (m : Match) (i : Nat) : Option String := (m.span? i).map fun (a, b) => m.slice a b

/-- The matched text. -/
def matched (m : Match) : String := m.slice m.start m.stop

/-- The number of bytes before a character position. -/
def byteOffset (m : Match) (pos : Nat) : Nat := Text.byteCount (m.text.extract 0 pos).toList

/-- The byte offset at which a group begins. -/
def byteStart? (m : Match) (i : Nat) : Option Nat := (m.span? i).map fun (a, _) => m.byteOffset a

def byteStart (m : Match) : Nat := m.byteOffset m.start

end Match

def find? (r : Regex) (s : String) : Option Match := r.findFrom? s.toList.toArray 0

def isMatch (r : Regex) (s : String) : Bool := (r.find? s).isSome

/-- The matches from left to right, none overlapping; an empty match right at the end of the one
before it is passed over. -/
def findAllFrom (r : Regex) (text : Array Char) : Nat → Nat → Option Nat → List Match
  | 0, _, _ => []
  | fuel + 1, pos, last =>
    if text.size < pos then []
    else match r.findFrom? text pos with
      | none => []
      | some m =>
        if m.start = m.stop ∧ some m.stop = last then findAllFrom r text fuel (pos + 1) last
        else m :: findAllFrom r text fuel m.stop (some m.stop)

def findAll (r : Regex) (s : String) : List Match :=
  let text := s.toList.toArray
  r.findAllFrom text (2 * text.size + 3) 0 none

/-- A pattern known to be valid; if it were not, it would match nothing. -/
def ofValid (text : String) : Regex :=
  (compile? text).getD ⟨⟨#[], 0, 0⟩⟩

end Regex
end CodeAudit
