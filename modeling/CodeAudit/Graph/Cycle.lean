import CodeAudit.Count
import CodeAudit.Keyed

/-!
Cycles of a directed graph, found by a depth-first search. Every edge that leads back to a vertex
of the current path closes one cycle. The search visits keys and targets in their given order.
-/
namespace CodeAudit

/-- The targets of each vertex; a vertex that is no key has none. -/
abbrev Adjacency := Keyed String (List String)

namespace Adjacency

def targets (g : Adjacency) (v : String) : List String := (Keyed.get? g v).getD []

/-- All vertices, each once: the keys and the targets. -/
def vertices (g : Adjacency) : List String :=
  (Keyed.keys g ++ (Keyed.values g).flatten).eraseDups

/-- A path under search: each vertex with the targets still to follow, the last vertex first. -/
abbrev Trail := List (String × List String)

/-- The part of the path from `v` on, the end of which leads back to `v`. -/
def Trail.cycleAt (trail : Trail) (v : String) : List String :=
  v :: ((trail.map (·.1)).takeWhile (· ≠ v)).reverse

/-- Steps that a path still takes if it grows no more. -/
def Trail.size (trail : Trail) : Nat := total (trail.map fun e => e.2.length + 1)

/-- Follows a path to its end. `fresh` holds the vertices that have not been visited; those on the
path are open and all others closed. Gives the fresh vertices left and the cycles in the order in
which they were closed. -/
def search (g : Adjacency) (fresh : List String) (trail : Trail) (cycles : List (List String)) :
    List String × List (List String) :=
  match trail with
  | [] => (fresh, cycles)
  | (_, []) :: rest => search g fresh rest cycles
  | (v, t :: ts) :: rest =>
    if t ∈ fresh then search g (fresh.erase t) ((t, g.targets t) :: (v, ts) :: rest) cycles
    else if t ∈ ((v, ts) :: rest).map (·.1) then
      search g fresh ((v, ts) :: rest) (cycles ++ [Trail.cycleAt ((v, ts) :: rest) t])
    else search g fresh ((v, ts) :: rest) cycles
termination_by (fresh.length, Trail.size trail)
decreasing_by
  · exact Prod.Lex.right _ (by simp [Trail.size])
  · rename_i h
    have := List.length_pos_of_mem h
    exact Prod.Lex.left _ _ (by rw [List.length_erase_of_mem h]; omega)
  · exact Prod.Lex.right _ (by simp [Trail.size])
  · exact Prod.Lex.right _ (by simp [Trail.size])

/-- Starts a search at a vertex that is still fresh. -/
def searchFrom (g : Adjacency) (state : List String × List (List String)) (start : String) :
    List String × List (List String) :=
  if start ∈ state.1 then search g (state.1.erase start) [(start, g.targets start)] state.2
  else state

/-- The cycles of a graph, one for each edge that closes one in the search. -/
def cycles (g : Adjacency) : List (List String) :=
  ((Keyed.keys g).foldl g.searchFrom (g.vertices, [])).2

end Adjacency

/-- The place of the first smallest text, after `i` earlier ones of which `best` at `place` is
smallest. -/
def smallestPlace (place : Nat) (best : String) (i : Nat) : List String → Nat
  | [] => place
  | s :: rest => if s < best then smallestPlace i s (i + 1) rest else smallestPlace place best (i + 1) rest

/-- A cycle turned so that it begins with its smallest member. -/
def canonicalCycle (cycle : List String) : List String :=
  match cycle with
  | [] => []
  | s :: rest => cycle.rotateLeft (smallestPlace 0 s 1 rest)

end CodeAudit
