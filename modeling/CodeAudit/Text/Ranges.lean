/-!
Sets of characters and character maps, written in hexadecimal: `41-5A 5F` is a set of
ranges, `41>61 130>69+307` maps characters to texts. Entries stand in ascending order, and look-up
is a binary search.
-/
namespace CodeAudit.Text

def hexDigit? (c : Char) : Option Nat :=
  if '0' ≤ c ∧ c ≤ '9' then some (c.toNat - '0'.toNat)
  else if 'A' ≤ c ∧ c ≤ 'F' then some (c.toNat - 'A'.toNat + 10)
  else if 'a' ≤ c ∧ c ≤ 'f' then some (c.toNat - 'a'.toNat + 10)
  else none

/-- The value of hexadecimal digits; other characters count as zero digits. -/
def hexValue (cs : List Char) : Nat :=
  cs.foldl (fun n c => 16 * n + (hexDigit? c).getD 0) 0

/-- The pieces of `cs` between the occurrences of `sep`. -/
def hexPieces (sep : Char) (cs : List Char) : List (List Char) :=
  let step := fun (c : Char) (acc : List Char × List (List Char)) =>
    if c = sep then ([], acc.1 :: acc.2) else (c :: acc.1, acc.2)
  let (first, rest) := cs.foldr step ([], [])
  first :: rest

structure CharSet where
  ranges : Array (Nat × Nat)

namespace CharSet

def ofLines (lines : List String) : CharSet where
  ranges := (lines.flatMap fun line => (hexPieces ' ' line.toList).filter (· ≠ [])).toArray.map fun entry =>
    match hexPieces '-' entry with
    | [a, b] => (hexValue a, hexValue b)
    | _ => (hexValue entry, hexValue entry)

def search (ranges : Array (Nat × Nat)) (n lo hi : Nat) : Bool :=
  if lo < hi then
    match ranges[(lo + hi) / 2]? with
    | none => false
    | some (a, b) =>
      if n < a then search ranges n lo ((lo + hi) / 2)
      else if b < n then search ranges n ((lo + hi) / 2 + 1) hi
      else true
  else false
termination_by hi - lo

def contains (s : CharSet) (c : Char) : Bool := search s.ranges c.toNat 0 s.ranges.size

end CharSet

structure CharMap where
  entries : Array (Nat × List Char)

namespace CharMap

def ofLines (lines : List String) : CharMap where
  entries := (lines.flatMap fun line => (hexPieces ' ' line.toList).filter (· ≠ [])).toArray.map fun entry =>
    match hexPieces '>' entry with
    | [a, b] => (hexValue a, (hexPieces '+' b).map fun d => Char.ofNat (hexValue d))
    | _ => (hexValue entry, [])

def search (entries : Array (Nat × List Char)) (n lo hi : Nat) : Option (List Char) :=
  if lo < hi then
    match entries[(lo + hi) / 2]? with
    | none => none
    | some (a, image) =>
      if n < a then search entries n lo ((lo + hi) / 2)
      else if a < n then search entries n ((lo + hi) / 2 + 1) hi
      else some image
  else none
termination_by hi - lo

def get? (m : CharMap) (c : Char) : Option (List Char) := search m.entries c.toNat 0 m.entries.size

end CharMap

end CodeAudit.Text
