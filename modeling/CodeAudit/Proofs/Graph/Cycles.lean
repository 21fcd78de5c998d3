import CodeAudit.Proofs.Graph.Search
import Mathlib.Data.List.Perm.Basic
import Mathlib.Data.List.Rotate

/-! What the reported cycles say about a graph. Taking away the edge that closes each of them leaves no
way round, so none is reported only if there is none. Each of them lists its members in the order in
which the search closed them, the last one first: along a cycle only its closing edge leads back. Where
no edge is listed twice, each closing edge is met once, and no cycle is reported in two rotations. -/
namespace CodeAudit.Adjacency

variable {g : Adjacency} {v t : String} {c d : List String} {cycles : List (List String)} {s : SearchState}

instance : Decidable (Closes c v t) := inferInstanceAs (Decidable (_ ∧ _))

/-- No way leads from a vertex back to it. -/
def Acyclic (g : Adjacency) : Prop := ∀ v, ¬ Relation.TransGen g.Edge v v

/-- The graph less every edge that closes one of the cycles. -/
def withoutClosing (g : Adjacency) (cycles : List (List String)) : Adjacency :=
  g.map fun e => (e.1, e.2.filter fun t => ∀ c ∈ cycles, ¬ Closes c e.1 t)

theorem edge_withoutClosing : (g.withoutClosing cycles).Edge = Unclosed g cycles := by
  funext v t
  have hget : Keyed.get? (g.withoutClosing cycles) v =
      (Keyed.get? g v).map fun ts => ts.filter fun t => ∀ c ∈ cycles, ¬ Closes c v t :=
    Keyed.get?_map (fun v (ts : List String) => ts.filter fun t => ∀ c ∈ cycles, ¬ Closes c v t) g v
  rw [Edge, Unclosed, Edge, targets, targets, hget]
  cases Keyed.get? g v <;> simp

theorem acyclic_withoutClosing (g : Adjacency) : (g.withoutClosing g.cycles).Acyclic := by
  unfold Acyclic
  rw [edge_withoutClosing]
  exact unclosed_acyclic g

/-- A cycle leads from its start back to it. -/
theorem IsCycle.transGen (h : g.IsCycle c) : ∃ v, Relation.TransGen g.Edge v v := by
  obtain ⟨-, hpath, last, first, hlast, hfirst, hedge⟩ := h
  exact ⟨first, transGen_of_closed hpath hlast hfirst hedge⟩

theorem cycles_eq_nil_iff : g.cycles = [] ↔ g.Acyclic := by
  constructor
  · intro hnil v hpath
    refine unclosed_acyclic g v (Relation.TransGen.mono (fun u w hedge => ⟨hedge, ?_⟩) _ _ hpath)
    simp [hnil]
  · intro hacyclic
    by_contra hne
    obtain ⟨c, hc⟩ := List.exists_mem_of_ne_nil _ hne
    obtain ⟨v, hpath⟩ := (isCycle_of_mem_cycles hc).transGen
    exact hacyclic v hpath

/-- The reported cycles account for every way round: without the edges that close them the graph has
none, and none is reported exactly if the graph has none. -/
theorem reported_cycles_cover_graph (g : Adjacency) :
    (g.withoutClosing g.cycles).Acyclic ∧ (g.cycles = [] ↔ g.Acyclic) :=
  ⟨g.acyclic_withoutClosing, cycles_eq_nil_iff⟩

/-- All vertices visited so far in the order in which they close, the last one first. -/
def SearchState.order (s : SearchState) : List String := (s.trail.map (·.1)).reverse ++ s.closed

theorem SearchState.Arises.nodup_order (h : s.Arises g) : s.order.Nodup := by
  have hnodup := (List.nodup_append.mp h.searching.nodup).2.1
  exact ((List.reverse_perm _).append_right _).nodup_iff.mpr hnodup

/-- A cycle lists its members as they close, the last one first. The path is reported from its start
on, and from then on vertices only come in between. -/
theorem SearchState.Arises.sublist_order (h : s.Arises g) : ∀ c ∈ s.cycles, c.Sublist s.order := by
  induction h with
  | refl => simp
  | tail _ hstep ih =>
    cases hstep with
    | enter => exact fun c hc => (ih c hc).trans (List.sublist_cons_self _ _)
    | close => simpa [order] using ih
    | @grow _ v t ts rest _ closed _ =>
      intro c hc
      have hbetween : (((v, ts) :: rest).map (·.1)).reverse.Sublist
          (((t, g.targets t) :: (v, ts) :: rest).map (·.1)).reverse := by
        simp
      exact (ih c hc).trans (hbetween.append_right closed)
    | @report _ v t ts rest _ closed ht =>
      intro c hc
      rcases List.mem_append.mp hc with hc | hc
      · exact ih c hc
      · obtain ⟨upper, below, hsplit, hcycle⟩ := Trail.cycleAt_split ht
        rw [List.mem_singleton.mp hc, hcycle, order, hsplit]
        simp
    | pass => exact ih

/-- The vertices in an order in which every reported cycle runs. -/
theorem exists_order (g : Adjacency) :
    ∃ order : List String, order.Nodup ∧ ∀ c ∈ g.cycles, c.Sublist order := by
  obtain ⟨_, closed, harises, -⟩ := g.cycles_arise
  exact ⟨_, harises.nodup_order, harises.sublist_order⟩

theorem pairwise_idxOf {order : List String} (h : order.Nodup) :
    order.Pairwise fun v t => order.idxOf v < order.idxOf t := by
  rw [List.pairwise_iff_getElem]
  intro i j hi hj hij
  rw [h.idxOf_getElem i hi, h.idxOf_getElem j hj]
  exact hij

/-- The edge that closes a cycle leads back in the order in which the cycle runs. -/
theorem Closes.idxOf_le {order : List String} (hclose : Closes d v t) (hnodup : order.Nodup)
    (hd : d.Sublist order) : order.idxOf t ≤ order.idxOf v := by
  obtain ⟨hlast, hfirst⟩ := hclose
  match d with
  | w :: rest =>
    cases hfirst
    rcases List.mem_cons.mp (List.mem_of_getLast? hlast) with rfl | hv
    · exact Nat.le_refl _
    · exact Nat.le_of_lt ((List.pairwise_cons.mp ((pairwise_idxOf hnodup).sublist hd)).1 v hv)

/-- Along a cycle no edge but the closing one closes a cycle. -/
theorem not_closes_inside (hc : c ∈ g.cycles) (hd : d ∈ g.cycles) : c.IsChain fun v t => ¬ Closes d v t := by
  obtain ⟨order, hnodup, hcycles⟩ := g.exists_order
  refine ((pairwise_idxOf hnodup).sublist (hcycles c hc)).isChain.imp ?_
  intro v t hlt hclose
  have hle := hclose.idxOf_le hnodup (hcycles d hd)
  omega

/-- Rotations of each other run in the same order only if they are the same. -/
theorem eq_of_isRotated (hc : c ∈ g.cycles) (hd : d ∈ g.cycles) (h : c.IsRotated d) : c = d := by
  obtain ⟨order, hnodup, hcycles⟩ := g.exists_order
  exact (hnodup.perm_iff_eq_of_sublist (hcycles c hc) (hcycles d hd)).mp h.perm

/-- No edge closes two of the cycles, and none that is still to be followed closes one. -/
structure SearchState.ClosesOnce (s : SearchState) : Prop where
  apart : s.cycles.Pairwise fun c d => ∀ v t, Closes c v t → ¬ Closes d v t
  ahead : ∀ e ∈ s.trail, e.2.Nodup ∧ ∀ t ∈ e.2, ∀ c ∈ s.cycles, ¬ Closes c e.1 t
  fresh : ∀ v ∈ s.fresh, ∀ t, ∀ c ∈ s.cycles, ¬ Closes c v t

theorem Closes.unique {v' t' : String} (h : Closes c v t) (h' : Closes c v' t') : v = v' ∧ t = t' :=
  ⟨Option.some.inj (h.1.symm.trans h'.1), Option.some.inj (h.2.symm.trans h'.2)⟩

section Steps

variable {fresh closed ts : List String} {trail rest : Trail}

theorem SearchState.ClosesOnce.visit (h : ClosesOnce ⟨fresh, trail, cycles, closed⟩) (hv : v ∈ fresh)
    (hts : ts.Nodup) : ClosesOnce ⟨fresh.erase v, (v, ts) :: trail, cycles, closed⟩ := by
  refine ⟨h.apart, ?_, fun u hu => h.fresh u (List.mem_of_mem_erase hu)⟩
  exact List.forall_mem_cons.mpr ⟨⟨hts, fun u _ => h.fresh v hv u⟩, h.ahead⟩

theorem SearchState.ClosesOnce.advance (h : ClosesOnce ⟨fresh, (v, t :: ts) :: rest, cycles, closed⟩) :
    ClosesOnce ⟨fresh, (v, ts) :: rest, cycles, closed⟩ := by
  obtain ⟨⟨hnodup, htop⟩, hrest⟩ := List.forall_mem_cons.mp h.ahead
  refine ⟨h.apart, List.forall_mem_cons.mpr ⟨⟨(List.nodup_cons.mp hnodup).2, ?_⟩, hrest⟩, h.fresh⟩
  exact fun u hu => htop u (List.mem_cons_of_mem t hu)

/-- A cycle that an edge closes as it is followed. The edge is not met again: it is listed once, and
its vertex stands on the path once. -/
theorem SearchState.ClosesOnce.report (h : ClosesOnce ⟨fresh, (v, t :: ts) :: rest, cycles, closed⟩)
    (hc : Closes c v t) (hv : v ∉ fresh) (hrest : v ∉ rest.map (·.1)) :
    ClosesOnce ⟨fresh, (v, ts) :: rest, cycles ++ [c], closed⟩ := by
  obtain ⟨⟨hnodup, htop⟩, -⟩ := List.forall_mem_cons.mp h.ahead
  have ht : t ∉ ts := (List.nodup_cons.mp hnodup).1
  obtain ⟨hapart, hahead, hfresh⟩ := h.advance
  have hboth : ∀ {w u : String}, (∀ d ∈ cycles, ¬ Closes d w u) → (w = v → u ≠ t) →
      ∀ d ∈ cycles ++ [c], ¬ Closes d w u := by
    intro w u hold hnew d hd hclose
    rcases List.mem_append.mp hd with hd | hd
    · exact hold d hd hclose
    · rw [List.mem_singleton.mp hd] at hclose
      obtain ⟨rfl, rfl⟩ := hc.unique hclose
      exact hnew rfl rfl
  refine ⟨?_, ?_, ?_⟩
  · refine List.pairwise_append.mpr ⟨hapart, List.pairwise_singleton _ _, ?_⟩
    intro d hd c' hc' w u hclose hclose'
    rw [List.mem_singleton.mp hc'] at hclose'
    obtain ⟨rfl, rfl⟩ := hc.unique hclose'
    exact htop t List.mem_cons_self d hd hclose
  · intro e he
    obtain ⟨hts, hclear⟩ := hahead e he
    refine ⟨hts, fun u hu => hboth (hclear u hu) ?_⟩
    rcases List.mem_cons.mp he with rfl | hbelow
    · rintro - rfl
      exact ht hu
    · rintro rfl
      exact absurd (List.mem_map_of_mem hbelow) hrest
  · intro w hw u
    refine hboth (hfresh w hw u) ?_
    rintro rfl
    exact absurd hw hv

end Steps

theorem SearchState.Arises.closesOnce (hg : ∀ v, (g.targets v).Nodup) (h : s.Arises g) : s.ClosesOnce := by
  induction h with
  | refl => exact ⟨.nil, by simp, by simp⟩
  | tail hbefore hstep ih =>
    cases hstep with
    | enter hstart => exact ih.visit hstart (hg _)
    | close => exact ⟨ih.apart, fun e he => ih.ahead e (List.mem_cons_of_mem _ he), ih.fresh⟩
    | grow ht => exact ih.advance.visit ht (hg _)
    | report ht =>
      have hsearch := SearchState.Arises.searching hbefore
      obtain ⟨-, hvisited, hdisjoint⟩ := List.nodup_append.mp hsearch.nodup
      have htrail := (List.nodup_append.mp hvisited).1
      obtain ⟨-, hclose⟩ := isCycle_cycleAt _ hsearch.path htrail ht hsearch.edge
      refine ih.report hclose ?_ (List.nodup_cons.mp htrail).1
      exact fun hv => hdisjoint _ hv _ (List.mem_append_left _ List.mem_cons_self) rfl
    | pass => exact ih.advance

/-- Where no edge is listed twice, no cycle is reported in two rotations. -/
theorem pairwise_not_isRotated (hg : ∀ ts ∈ Keyed.values g, ts.Nodup) :
    g.cycles.Pairwise fun c d => ¬ c.IsRotated d := by
  have htargets : ∀ v, (g.targets v).Nodup := by
    intro v
    unfold targets
    cases hv : Keyed.get? g v with
    | none => exact List.nodup_nil
    | some ts => exact hg ts (List.mem_map.mpr ⟨(v, ts), Keyed.mem_of_get? hv, rfl⟩)
  obtain ⟨_, _, harises, -⟩ := g.cycles_arise
  refine (harises.closesOnce htargets).apart.imp_of_mem ?_
  intro c d hc hd hapart hrotated
  obtain rfl := eq_of_isRotated hc hd hrotated
  obtain ⟨-, -, last, first, hlast, hfirst, -⟩ := isCycle_of_mem_cycles hc
  exact hapart last first ⟨hlast, hfirst⟩ ⟨hlast, hfirst⟩

/-- What is reported are cycles: nonempty, without repetition, along edges and closed by an edge. In
each of them the closing edge is the only one that closes a reported cycle, and if no edge is listed
twice, no two of them are rotations of each other. -/
theorem reported_cycles_sound_and_apart (g : Adjacency) :
    (∀ c ∈ g.cycles, c ≠ [] ∧ g.IsCycle c) ∧
      (∀ c ∈ g.cycles, ∀ d ∈ g.cycles, c.IsChain fun v t => ¬ Closes d v t) ∧
      ((∀ ts ∈ Keyed.values g, ts.Nodup) → g.cycles.Pairwise fun c d => ¬ c.IsRotated d) := by
  refine ⟨fun c hc => ?_, fun c hc d hd => not_closes_inside hc hd, pairwise_not_isRotated⟩
  have hcycle := isCycle_of_mem_cycles hc
  refine ⟨?_, hcycle⟩
  rintro rfl
  obtain ⟨_, _, hlast, -⟩ := hcycle.closed
  cases hlast

/-- Two ways round that share a vertex. -/
def knot : Adjacency := [("a", ["b"]), ("b", ["a", "c"]), ("c", ["b"])]

theorem knot_cycles : knot.cycles = [["a", "b"], ["b", "c"]] := by
  simp [knot, Adjacency.cycles, vertices, Keyed.keys, Keyed.values, searchFrom, search, targets, Keyed.get?_cons,
    Trail.cycleAt, List.eraseDups_cons]

theorem knot_cycles_apart :
    (∀ ts ∈ Keyed.values knot, ts.Nodup) ∧ knot.cycles = [["a", "b"], ["b", "c"]] ∧
      knot.cycles.Pairwise fun c d => ¬ c.IsRotated d := by
  have hnodup : ∀ ts ∈ Keyed.values knot, ts.Nodup := by decide
  exact ⟨hnodup, knot_cycles, (reported_cycles_sound_and_apart knot).2.2 hnodup⟩

end CodeAudit.Adjacency
