/-!
Finite maps as lists of pairs in strictly increasing order of their keys. `alter` is the one
operation that writes; a key occurs at most once because it stops at the first key not below.
-/
namespace CodeAudit

abbrev Keyed (κ β : Type) := List (κ × β)

namespace Keyed

variable {κ β γ : Type} [LT κ] [DecidableLT κ] [DecidableEq κ]

/-- Replaces the value under a key, or adds one in key order. -/
def alter (k : κ) (f : Option β → β) : Keyed κ β → Keyed κ β
  | [] => [(k, f none)]
  | (k', v) :: rest =>
    if k < k' then (k, f none) :: (k', v) :: rest
    else if k = k' then (k, f (some v)) :: rest
    else (k', v) :: alter k f rest

/-- A key that is already there gets the new value. -/
def insert (k : κ) (v : β) (m : Keyed κ β) : Keyed κ β := alter k (fun _ => v) m

/-- A key that is already there keeps its value. -/
def insertNew (k : κ) (v : β) (m : Keyed κ β) : Keyed κ β := alter k (fun old => old.getD v) m

omit [LT κ] [DecidableLT κ] in
def get? (m : Keyed κ β) (k : κ) : Option β := (m.find? fun e => e.1 = k).map (·.2)

omit [LT κ] [DecidableLT κ] in
def contains (m : Keyed κ β) (k : κ) : Bool := m.any fun e => e.1 = k

omit [LT κ] [DecidableLT κ] [DecidableEq κ] in
def keys (m : Keyed κ β) : List κ := m.map (·.1)

omit [LT κ] [DecidableLT κ] [DecidableEq κ] in
def values (m : Keyed κ β) : List β := m.map (·.2)

/-- The pairs in key order; of two values under one key the later one stays. -/
def ofList (pairs : List (κ × β)) : Keyed κ β := pairs.foldl (fun m (k, v) => insert k v m) []

/-- How often each key occurs. -/
def counts (ks : List κ) : Keyed κ Nat := ks.foldl (fun m k => alter k (fun n => n.getD 0 + 1) m) []

/-- The values gathered under each key, in the order in which they came. -/
def groups (pairs : List (κ × β)) : Keyed κ (List β) :=
  pairs.foldl (fun m (k, v) => alter k (fun vs => vs.getD [] ++ [v]) m) []

end Keyed
end CodeAudit
