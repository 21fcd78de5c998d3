import CodeAudit.Proofs.Graph.Search
import Mathlib.Data.List.Cycle

/-! A cycle turned to begin with its smallest member. It runs along the same edges, so that two lists that stand for
one cycle become the same list. -/
namespace CodeAudit

variable {c pre rest : List String} {best s x : String} {place : Nat}

/-- The search for the smallest text remembers one that none so far is below. -/
theorem getElem?_smallestPlace (hplace : pre[place]? = some best) (hbest : ∀ x ∈ pre, best ≤ x) :
    ∃ s, (pre ++ rest)[smallestPlace place best pre.length rest]? = some s ∧ ∀ x ∈ pre ++ rest, s ≤ x := by
  induction rest generalizing pre place best with
  | nil =>
    rw [List.append_nil]
    exact ⟨best, hplace, hbest⟩
  | cons x rest ih =>
    have hlength : pre.length + 1 = (pre ++ [x]).length := by simp
    rw [smallestPlace, hlength, List.append_cons]
    split
    case isTrue hlt =>
      apply ih
      · simp
      · intro y hy
        rcases List.mem_append.mp hy with hy | hy
        · exact hlt.le.trans (hbest y hy)
        · rw [List.mem_singleton.mp hy]
    case isFalse hge =>
      apply ih
      · rw [List.getElem?_append_left (List.getElem?_eq_some_iff.mp hplace).1]
        exact hplace
      · intro y hy
        rcases List.mem_append.mp hy with hy | hy
        · exact hbest y hy
        · rw [List.mem_singleton.mp hy]
          exact not_lt.mp hge

theorem rotateLeft_eq {k : Nat} (hk : k < c.length) : c.rotateLeft k = c.drop k ++ c.take k := by
  unfold List.rotateLeft
  dsimp only
  rw [Nat.mod_eq_of_lt hk]
  split
  · obtain rfl : k = 0 := by omega
    simp
  · rfl

/-- A cycle is turned to the place of its smallest member. -/
theorem exists_place {cycle : List String} (hcycle : cycle ≠ []) :
    ∃ place first, canonicalCycle cycle = cycle.rotateLeft place ∧ cycle[place]? = some first ∧
      ∀ x ∈ cycle, first ≤ x := by
  cases cycle with
  | nil => exact absurd rfl hcycle
  | cons s rest =>
    have hfound : ∃ first, ([s] ++ rest)[smallestPlace 0 s [s].length rest]? = some first ∧ ∀ x ∈ [s] ++ rest, first ≤ x :=
      getElem?_smallestPlace rfl (by simp)
    obtain ⟨first, hfirst, hle⟩ := hfound
    exact ⟨_, first, rfl, hfirst, hle⟩

/-- The turned cycle is a rotation of the cycle and begins with its smallest member. -/
theorem canonicalCycle_spec (hc : c ≠ []) :
    c.IsRotated (canonicalCycle c) ∧ ∃ first rest, canonicalCycle c = first :: rest ∧ ∀ x ∈ c, first ≤ x := by
  obtain ⟨place, first, hcanonical, hfirst, hle⟩ := exists_place hc
  obtain ⟨hlt, hget⟩ := List.getElem?_eq_some_iff.mp hfirst
  rw [hcanonical, rotateLeft_eq hlt]
  constructor
  · have hrotated : (c.take place ++ c.drop place).IsRotated (c.drop place ++ c.take place) := List.isRotated_append
    rwa [List.take_append_drop] at hrotated
  · refine ⟨first, c.drop (place + 1) ++ c.take place, ?_, hle⟩
    rw [List.drop_eq_getElem_cons hlt, hget, List.cons_append]

/-- A walk along the edges of a relation that goes on from its end to its beginning. -/
def ClosedWalk (R : String → String → Prop) (c : List String) : Prop :=
  ∃ first rest, c = first :: rest ∧ (first :: (rest ++ [first])).IsChain R

theorem closedWalk_iff {R : String → String → Prop} : ClosedWalk R c ↔ c ≠ [] ∧ (c : Cycle String).Chain R := by
  cases c with
  | nil => simp [ClosedWalk]
  | cons first rest => simp [ClosedWalk, Cycle.chain_coe_cons]

theorem ClosedWalk.canonicalCycle {R : String → String → Prop} (h : ClosedWalk R c) : ClosedWalk R (canonicalCycle c) := by
  obtain ⟨hne, hchain⟩ := closedWalk_iff.mp h
  obtain ⟨hrotated, first, rest, hcons, -⟩ := canonicalCycle_spec hne
  rw [Cycle.coe_eq_coe.mpr hrotated] at hchain
  exact closedWalk_iff.mpr ⟨by simp [hcons], hchain⟩

theorem ClosedWalk.imp {R S : String → String → Prop} (h : ClosedWalk R c) (hRS : ∀ a b, R a b → S a b) : ClosedWalk S c := by
  obtain ⟨first, rest, rfl, hchain⟩ := h
  exact ⟨first, rest, rfl, hchain.imp hRS⟩

end CodeAudit
