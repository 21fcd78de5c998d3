import CodeAudit.Ast.Node
import Mathlib.Data.List.Basic
import Mathlib.Data.List.Nodup

/-! Ways to the nodes of a tree. Equal nodes may stand at several places, so that a node is told by its way; the ways
in the order of a walk are those of all nodes, each once. -/
namespace CodeAudit

namespace AstNode

variable {root n m : AstNode} {up w : List Nat} {i : Nat} {p : AstNode → Bool}

/-- The node at the end of a way; a way holds the child numbers up to the root, the last one first. -/
def at? (root : AstNode) : (way : List Nat) → Option AstNode
  | [] => some root
  | i :: up => (root.at? up).bind fun n => n.children[i]?

mutual

/-- The node and all below it with their ways, in the order of `nodes`. -/
def ways (way : List Nat) (n : AstNode) : List (List Nat × AstNode) :=
  match n with
  | ⟨id, kind, name, location, children, parent, metadata⟩ =>
    (way, ⟨id, kind, name, location, children, parent, metadata⟩) :: waysOf way 0 children

def waysOf (up : List Nat) (i : Nat) : List AstNode → List (List Nat × AstNode)
  | [] => []
  | n :: rest => ways (i :: up) n ++ waysOf up (i + 1) rest

end

/-- All nodes but the root, with their ways. -/
def inside (root : AstNode) : List (List Nat × AstNode) := waysOf [] 0 root.children

/-- The innermost node of some sort on a way; the root does not count. -/
def innermost? (root : AstNode) (p : AstNode → Bool) : (way : List Nat) → Option (List Nat × AstNode)
  | [] => none
  | i :: up => (((root.at? (i :: up)).filter p).map (i :: up, ·)).or (root.innermost? p up)

theorem innermost?_cons (h : root.at? (i :: up) = some n) :
    root.innermost? p (i :: up) = if p n then some (i :: up, n) else root.innermost? p up := by
  rw [innermost?, h]
  cases hp : p n with
  | true => rw [Option.filter_some_pos hp, if_pos rfl]; rfl
  | false => rw [Option.filter_some_neg hp, if_neg Bool.false_ne_true]; rfl

theorem innermost?_cons_eq (root : AstNode) (p : AstNode → Bool) (i : Nat) (up : List Nat) :
    root.innermost? p (i :: up) =
      if (root.at? (i :: up)).any p then (root.at? (i :: up)).map (i :: up, ·) else root.innermost? p up := by
  cases hn : root.at? (i :: up) with
  | none => simp [innermost?, hn]
  | some n => simp [innermost?_cons hn]

/-- The innermost node of some sort has no other one between it and the end of the way. -/
theorem innermost?_eq_some (h : root.innermost? p up = some (w, n)) :
    w ≠ [] ∧ w <:+ up ∧ root.at? w = some n ∧ p n = true ∧
      ∀ x m, x ≠ [] → x <:+ up → root.at? x = some m → p m = true → x <:+ w := by
  induction up with
  | nil => cases h
  | cons i up ih =>
    rw [innermost?_cons_eq] at h
    split at h
    case isTrue hp =>
      obtain ⟨m, hm, heq⟩ := Option.map_eq_some_iff.mp h
      cases heq
      rw [hm] at hp
      exact ⟨by simp, List.suffix_rfl, hm, by simpa using hp, fun x _ _ hx _ _ => hx⟩
    case isFalse hp =>
      obtain ⟨hw, hsuffix, hn, hpn, hall⟩ := ih h
      refine ⟨hw, hsuffix.trans (List.suffix_cons i up), hn, hpn, ?_⟩
      intro x m hx hxup hm hpm
      rcases List.suffix_cons_iff.mp hxup with rfl | hxup
      · rw [hm] at hp
        exact absurd hpm hp
      · exact hall x m hx hxup hm hpm

theorem innermost?_eq_none (h : root.innermost? p up = none) :
    ∀ x m, x ≠ [] → x <:+ up → root.at? x = some m → p m = false := by
  induction up with
  | nil =>
    intro x m hx hxup
    exact absurd (List.suffix_nil.mp hxup) hx
  | cons i up ih =>
    rw [innermost?_cons_eq] at h
    intro x m hx hxup hm
    split at h
    case isTrue hp =>
      rw [Option.map_eq_none_iff] at h
      rw [h] at hp
      cases hp
    case isFalse hp =>
      rcases List.suffix_cons_iff.mp hxup with rfl | hxup
      · rw [hm] at hp
        simpa using hp
      · exact ih h x m hx hxup hm

theorem at?_append (root : AstNode) (way up : List Nat) :
    root.at? (way ++ up) = (root.at? up).bind fun n => n.at? way := by
  induction way with
  | nil => simp [at?]
  | cons i way ih => rw [List.cons_append, at?, ih, Option.bind_assoc]; rfl

theorem at?_concat (root : AstNode) (way : List Nat) (i : Nat) :
    root.at? (way ++ [i]) = root.children[i]?.bind fun n => n.at? way := by
  rw [at?_append]
  rfl

mutual

theorem mem_ways {n m : AstNode} {way w : List Nat} :
    (w, m) ∈ ways way n ↔ ∃ tail, w = tail ++ way ∧ n.at? tail = some m := by
  match n with
  | ⟨id, kind, name, location, children, parent, metadata⟩ =>
    rw [ways, List.mem_cons, mem_waysOf]
    constructor
    · rintro (heq | ⟨j, c, tail, hc, rfl, hm⟩)
      · cases heq
        exact ⟨[], rfl, rfl⟩
      · refine ⟨tail ++ [j], by simp, ?_⟩
        rw [at?_concat, hc]
        exact hm
    · rintro ⟨tail, rfl, hm⟩
      rcases List.eq_nil_or_concat' tail with rfl | ⟨tail, j, rfl⟩
      · exact .inl (Prod.ext rfl (Option.some.inj hm).symm)
      · rw [at?_concat] at hm
        obtain ⟨c, hc, hm⟩ := Option.bind_eq_some_iff.mp hm
        exact .inr ⟨j, c, tail, hc, by simp, hm⟩

theorem mem_waysOf {ns : List AstNode} {m : AstNode} {up w : List Nat} {i : Nat} :
    (w, m) ∈ waysOf up i ns ↔ ∃ j c tail, ns[j]? = some c ∧ w = tail ++ (i + j) :: up ∧ c.at? tail = some m := by
  match ns with
  | [] => simp [waysOf]
  | n :: rest =>
    rw [waysOf, List.mem_append, mem_ways, mem_waysOf]
    constructor
    · rintro (⟨tail, rfl, hm⟩ | ⟨j, c, tail, hc, rfl, hm⟩)
      · exact ⟨0, n, tail, rfl, rfl, hm⟩
      · refine ⟨j + 1, c, tail, hc, ?_, hm⟩
        rw [Nat.add_right_comm, Nat.add_assoc]
    · rintro ⟨j, c, tail, hc, rfl, hm⟩
      cases j with
      | zero =>
        cases hc
        exact .inl ⟨tail, rfl, hm⟩
      | succ j =>
        refine .inr ⟨j, c, tail, hc, ?_, hm⟩
        rw [Nat.add_right_comm, Nat.add_assoc]

end

theorem mem_inside_iff : (w, m) ∈ root.inside ↔ w ≠ [] ∧ root.at? w = some m := by
  rw [inside, mem_waysOf]
  constructor
  · rintro ⟨j, c, tail, hc, rfl, hm⟩
    refine ⟨by simp, ?_⟩
    rw [Nat.zero_add, at?_concat, hc]
    exact hm
  · rintro ⟨hne, hm⟩
    obtain rfl | ⟨tail, j, rfl⟩ := List.eq_nil_or_concat' w
    · exact absurd rfl hne
    · rw [at?_concat] at hm
      obtain ⟨c, hc, hm⟩ := Option.bind_eq_some_iff.mp hm
      exact ⟨j, c, tail, hc, by rw [Nat.zero_add], hm⟩

mutual

theorem map_snd_ways (way : List Nat) (n : AstNode) : (ways way n).map (·.2) = n.nodes := by
  match n with
  | ⟨id, kind, name, location, children, parent, metadata⟩ =>
    rw [ways, nodes, List.map_cons, map_snd_waysOf]

theorem map_snd_waysOf (up : List Nat) (i : Nat) (ns : List AstNode) : (waysOf up i ns).map (·.2) = nodesOf ns := by
  match ns with
  | [] => rfl
  | n :: rest => rw [waysOf, nodesOf, List.map_append, map_snd_ways, map_snd_waysOf]

end

mutual

/-- Read from the root on, the ways come in lexicographic order. -/
theorem pairwise_ways {n : AstNode} {way : List Nat} :
    ((ways way n).map fun e => e.1.reverse).Pairwise (· < ·) := by
  match n with
  | ⟨id, kind, name, location, children, parent, metadata⟩ =>
    rw [ways, List.map_cons, List.pairwise_cons]
    refine ⟨fun address hmem => ?_, pairwise_waysOf⟩
    obtain ⟨⟨w, m⟩, hw, rfl⟩ := List.mem_map.mp hmem
    obtain ⟨j, c, tail, -, rfl, -⟩ := mem_waysOf.mp hw
    -- the way to a node below goes on where the way to the node ends
    have hbelow : way.reverse ++ [] < way.reverse ++ (0 + j) :: tail.reverse :=
      List.append_left_lt (List.nil_lt_cons _ _)
    simpa using hbelow

theorem pairwise_waysOf {ns : List AstNode} {up : List Nat} {i : Nat} :
    ((waysOf up i ns).map fun e => e.1.reverse).Pairwise (· < ·) := by
  match ns with
  | [] => exact List.Pairwise.nil
  | n :: rest =>
    rw [waysOf, List.map_append, List.pairwise_append]
    refine ⟨pairwise_ways, pairwise_waysOf, ?_⟩
    intro _ hfirst _ hlater
    obtain ⟨⟨w, m⟩, hw, rfl⟩ := List.mem_map.mp hfirst
    obtain ⟨⟨w', m'⟩, hw', rfl⟩ := List.mem_map.mp hlater
    obtain ⟨tail, rfl, -⟩ := mem_ways.mp hw
    obtain ⟨j, c, tail', -, rfl, -⟩ := mem_waysOf.mp hw'
    -- the two ways part below their common parent
    have hparts : up.reverse ++ i :: tail.reverse < up.reverse ++ (i + 1 + j) :: tail'.reverse :=
      List.append_left_lt (List.cons_lt_cons_iff.mpr (.inl (by omega)))
    simpa using hparts

end

theorem nodup_waysOf {ns : List AstNode} {up : List Nat} {i : Nat} : ((waysOf up i ns).map (·.1)).Nodup := by
  have hreversed : (((waysOf up i ns).map (·.1)).map List.reverse).Nodup := by
    rw [List.map_map]
    refine List.Pairwise.imp (fun {a b} hlt heq => ?_) pairwise_waysOf
    rw [heq] at hlt
    exact List.lt_irrefl b hlt
  exact hreversed.of_map _

end AstNode

end CodeAudit
