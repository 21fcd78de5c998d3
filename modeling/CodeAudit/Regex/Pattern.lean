import CodeAudit.Text.Case
import CodeAudit.Text.Category
import CodeAudit.Text.Basic

/-!
Regular expressions as trees. Character classes are sets with complement, union, intersection and
differences; up to case, a set holds every character that has an equal up to case in it.
-/
namespace CodeAudit.Regex

inductive ClassSet where
  | empty
  | range (lo hi : Nat)
  /-- The characters that `p` holds of, with the size of the set. -/
  | test (p : Char → Bool) (size : Nat)
  | complement (s : ClassSet)
  | union (a b : ClassSet)
  | inter (a b : ClassSet)
  | diff (a b : ClassSet)
  | symmDiff (a b : ClassSet)

namespace ClassSet

/-- Membership; with `fold`, the basic sets are closed under equality up to case. -/
def holds (fold : Bool) : ClassSet → Char → Bool
  | empty, _ => false
  | range lo hi, c =>
    if fold then (Text.caseOrbit c).any fun d => lo ≤ d.toNat && d.toNat ≤ hi
    else lo ≤ c.toNat && c.toNat ≤ hi
  | test p _, c => if fold then (Text.caseOrbit c).any p else p c
  | complement s, c => !s.holds fold c
  | union a b, c => a.holds fold c || b.holds fold c
  | inter a b, c => a.holds fold c && b.holds fold c
  | diff a b, c => a.holds fold c && !b.holds fold c
  | symmDiff a b, c => a.holds fold c != b.holds fold c

def char (c : Char) : ClassSet := range c.toNat c.toNat

/-- Whether every end of a range is an ASCII character. -/
def hasAsciiRanges : ClassSet → Bool
  | empty | test _ _ => true
  | range _ hi => hi < 128
  | complement s => s.hasAsciiRanges
  | union a b | inter a b | diff a b | symmDiff a b => a.hasAsciiRanges && b.hasAsciiRanges

/-- Whether a set that is built from ASCII classes and ranges stays inside ASCII. -/
def isAscii (s : ClassSet) : Bool := s.hasAsciiRanges && !s.holds false '\x80'

/-- About how many bytes a machine needs to tell the members of the set. -/
def size : ClassSet → Nat
  | empty => 32
  | range _ hi => if hi < 128 then 40 else 250
  | test _ n => n
  | complement s => s.size + 1000
  | union a b | inter a b | diff a b | symmDiff a b => a.size + b.size

end ClassSet

/-- Conditions on a position between two characters. -/
inductive Look where
  | textStart
  | textEnd
  | lineStart (crlf : Bool)
  | lineEnd (crlf : Bool)
  | wordBoundary (unicode : Bool)
  | notWordBoundary (unicode : Bool)
  | wordStart (unicode : Bool)
  | wordEnd (unicode : Bool)
  | wordStartHalf (unicode : Bool)
  | wordEndHalf (unicode : Bool)
deriving DecidableEq, Repr

def asciiWord (c : Char) : Bool := c.isAlphanum || c == '_'

def wordTest (unicode : Bool) (c : Option Char) : Bool :=
  match c with
  | none => false
  | some c => if unicode then Text.isWord c else asciiWord c

/-- Whether the condition holds between `before` and `after`. -/
def Look.holds (before after : Option Char) : Look → Bool
  | textStart => before.isNone
  | textEnd => after.isNone
  | lineStart false => before.isNone || before == some '\n'
  | lineStart true =>
    before.isNone || before == some '\n' || (before == some '\r' && after != some '\n')
  | lineEnd false => after.isNone || after == some '\n'
  | lineEnd true =>
    after.isNone || after == some '\r' || (after == some '\n' && before != some '\r')
  | wordBoundary u => wordTest u before != wordTest u after
  | notWordBoundary u => wordTest u before == wordTest u after
  | wordStart u => !wordTest u before && wordTest u after
  | wordEnd u => wordTest u before && !wordTest u after
  | wordStartHalf u => !wordTest u before
  | wordEndHalf u => !wordTest u after

inductive Pattern where
  | empty
  /-- One character that `p` holds of, with the size of the set. -/
  | set (p : Char → Bool) (size : Nat := 32)
  | look (l : Look)
  | cat (a b : Pattern)
  | alt (a b : Pattern)
  | rep (least : Nat) (most : Option Nat) (greedy : Bool) (p : Pattern)
  | group (index : Nat) (p : Pattern)

/-- Whether the pattern can match the empty text. -/
def Pattern.nullable : Pattern → Bool
  | empty => true
  | set _ _ => false
  | look _ => true
  | cat a b => a.nullable && b.nullable
  | alt a b => a.nullable || b.nullable
  | rep least _ _ p => least == 0 || p.nullable
  | group _ p => p.nullable

/-- About how many bytes a machine for the pattern takes; a repetition repeats its operand. -/
def Pattern.cost : Pattern → Nat
  | empty => 32
  | set _ size => size
  | look _ => 32
  | cat a b => a.cost + b.cost
  | alt a b => a.cost + b.cost + 40
  | rep least most _ p =>
    match most with
    | none => max least 1 * p.cost + 40
    | some m => max least m * p.cost + (m - least) * 40 + 32
  | group _ p => p.cost + 64

end CodeAudit.Regex
