import CodeAudit.Proofs.Keyed
import CodeAudit.Graph.Cycle
import Mathlib.Data.List.Chain
import Mathlib.Logic.Relation

/-! The search for cycles, step by step. Vertices are fresh, on the path or closed, and they close in an
order in which every edge that closes no cycle leads to a vertex closed before. So each list that is
reported is a cycle, and without the edges that close them the graph has none. -/
namespace CodeAudit

theorem nodup_eraseDups {α : Type} [BEq α] [LawfulBEq α] (xs : List α) : xs.eraseDups.Nodup := by
  match xs with
  | [] => simp
  | x :: rest =>
    rw [List.eraseDups_cons, List.nodup_cons]
    exact ⟨by simp [List.mem_eraseDups], nodup_eraseDups _⟩
termination_by xs.length
decreasing_by exact Nat.lt_succ_of_le (List.length_filter_le _ _)

namespace Adjacency

variable {g : Adjacency} {v t : String} {c : List String} {cycles : List (List String)}

def Edge (g : Adjacency) (v t : String) : Prop := t ∈ g.targets v

/-- A path without repetitions whose end leads back to its start. -/
structure IsCycle (g : Adjacency) (c : List String) : Prop where
  nodup : c.Nodup
  path : c.IsChain g.Edge
  closed : ∃ last first, c.getLast? = some last ∧ c.head? = some first ∧ g.Edge last first

/-- The edge from the end of a cycle to its start. -/
def Closes (c : List String) (v t : String) : Prop := c.getLast? = some v ∧ c.head? = some t

/-- An edge that none of the cycles ends with. -/
def Unclosed (g : Adjacency) (cycles : List (List String)) (v t : String) : Prop :=
  g.Edge v t ∧ ∀ c ∈ cycles, ¬ Closes c v t

theorem mem_keys_of_edge (h : g.Edge v t) : v ∈ Keyed.keys g := by
  by_contra hv
  rw [Edge, targets, Keyed.get?_eq_none_iff.mpr hv] at h
  cases h

theorem mem_vertices_of_mem_keys (h : v ∈ Keyed.keys g) : v ∈ g.vertices :=
  List.mem_eraseDups.mpr (List.mem_append_left _ h)

theorem mem_vertices_of_edge (h : g.Edge v t) : t ∈ g.vertices := by
  cases hv : Keyed.get? g v with
  | none =>
    rw [Edge, targets, hv] at h
    cases h
  | some ts =>
    rw [Edge, targets, hv] at h
    have hmem : ts ∈ Keyed.values g := List.mem_map.mpr ⟨(v, ts), Keyed.mem_of_get? hv, rfl⟩
    exact List.mem_eraseDups.mpr (List.mem_append_right _ (List.mem_flatten.mpr ⟨ts, hmem, h⟩))

/-- Vertices in the order in which they closed, the last one first: what closes no cycle leads to a
vertex that closed before. -/
def Settled (g : Adjacency) (cycles : List (List String)) : List String → Prop
  | [] => True
  | v :: earlier => (∀ t, Unclosed g cycles v t → t ∈ earlier) ∧ Settled g cycles earlier

/-- The vertices of a path: what has been followed leads to the vertex above, to one that has closed
or closes a cycle. -/
def Followed (g : Adjacency) (cycles : List (List String)) (closed : List String) : Option String → Trail → Prop
  | _, [] => True
  | above, (v, ts) :: rest =>
    (∀ t ∈ ts, g.Edge v t) ∧
      (∀ t, Unclosed g cycles v t → t ∈ ts ∨ t ∈ closed ∨ above = some t) ∧
      Followed g cycles closed (some v) rest

/-- A search under way, with the vertices that have closed. -/
structure Searching (g : Adjacency) (fresh : List String) (trail : Trail) (cycles : List (List String))
    (closed : List String) : Prop where
  vertices : (fresh ++ (trail.map (·.1) ++ closed)).Perm g.vertices
  path : (trail.map (·.1)).IsChain fun w v => g.Edge v w
  followed : Followed g cycles closed none trail
  settled : Settled g cycles closed
  sound : ∀ c ∈ cycles, g.IsCycle c

variable {cycles' : List (List String)} {closed closed' : List String} {above above' : Option String}
  {fresh : List String} {trail : Trail}

theorem Unclosed.mono (h : Unclosed g cycles' v t) (hcycles : cycles ⊆ cycles') : Unclosed g cycles v t :=
  ⟨h.1, fun c hc => h.2 c (hcycles hc)⟩

theorem Settled.mono (h : Settled g cycles closed) (hcycles : cycles ⊆ cycles') : Settled g cycles' closed := by
  induction closed with
  | nil => trivial
  | cons v earlier ih => exact ⟨fun t ht => h.1 t (ht.mono hcycles), ih h.2⟩

theorem Followed.mono (h : Followed g cycles closed above trail) (hcycles : cycles ⊆ cycles')
    (hclosed : closed ⊆ closed') (habove : ∀ t, above = some t → t ∈ closed' ∨ above' = some t) :
    Followed g cycles' closed' above' trail := by
  induction trail generalizing above above' with
  | nil => trivial
  | cons e rest ih =>
    obtain ⟨hedges, hdone, hrest⟩ := h
    refine ⟨hedges, ?_, ih hrest fun t ht => .inr ht⟩
    intro t ht
    rcases hdone t (ht.mono hcycles) with h | h | h
    · exact .inl h
    · exact .inr (.inl (hclosed h))
    · exact .inr (habove t h)

/-- The cycle at a vertex of the path lists what stands above it, from the other end. -/
theorem Trail.cycleAt_split (ht : t ∈ trail.map (·.1)) :
    ∃ upper below, trail.map (·.1) = upper ++ t :: below ∧ trail.cycleAt t = t :: upper.reverse := by
  obtain ⟨upper, below, hsplit, hnot⟩ := List.eq_append_cons_of_mem ht
  refine ⟨upper, below, hsplit, ?_⟩
  have htake : (trail.map (·.1)).takeWhile (· ≠ t) = upper := by
    rw [hsplit, List.takeWhile_append_of_pos]
    · simp
    · intro w hw
      have hne : w ≠ t := by
        rintro rfl
        exact hnot hw
      simpa using hne
  rw [Trail.cycleAt, htake]

/-- The edge that leads back to a vertex of the path closes a cycle. -/
theorem isCycle_cycleAt (ts : List String) {rest : Trail}
    (hpath : (((v, ts) :: rest).map (·.1)).IsChain fun w v => g.Edge v w)
    (hnodup : (((v, ts) :: rest).map (·.1)).Nodup) (ht : t ∈ ((v, ts) :: rest).map (·.1)) (hedge : g.Edge v t) :
    g.IsCycle (Trail.cycleAt ((v, ts) :: rest) t) ∧ Closes (Trail.cycleAt ((v, ts) :: rest) t) v t := by
  obtain ⟨upper, below, hsplit, hcycle⟩ := Trail.cycleAt_split ht
  have hfirst : (((v, ts) :: rest).map (·.1)).head? = some v := rfl
  rw [← List.reverse_concat] at hcycle
  rw [List.append_cons] at hsplit
  rw [hsplit] at hfirst hpath hnodup
  rw [hcycle]
  have hlast : (upper ++ [t]).reverse.getLast? = some v := by
    rw [List.getLast?_reverse, ← hfirst]
    cases upper <;> rfl
  have hhead : (upper ++ [t]).reverse.head? = some t := by
    rw [List.reverse_concat]
    rfl
  refine ⟨⟨?_, ?_, v, t, hlast, hhead, hedge⟩, hlast, hhead⟩
  · rw [(List.reverse_perm _).nodup_iff]
    exact (List.nodup_append.mp hnodup).1
  · rw [List.isChain_reverse]
    exact hpath.left_of_append

variable {ts : List String} {rest : Trail}

theorem Searching.nodup (h : Searching g fresh trail cycles closed) :
    (fresh ++ (trail.map (·.1) ++ closed)).Nodup :=
  h.vertices.nodup_iff.mpr (nodup_eraseDups _)

theorem Searching.edge (h : Searching g fresh ((v, t :: ts) :: rest) cycles closed) : g.Edge v t :=
  h.followed.1 t List.mem_cons_self

/-- The vertex on top has no edges left and closes. -/
theorem Searching.close (h : Searching g fresh ((v, []) :: rest) cycles closed) :
    Searching g fresh rest cycles (v :: closed) := by
  obtain ⟨hvertices, hpath, ⟨-, hdone, hrest⟩, hsettled, hsound⟩ := h
  refine ⟨?_, hpath.tail, ?_, ⟨?_, hsettled⟩, hsound⟩
  · exact (List.perm_middle.append_left fresh).trans hvertices
  · exact hrest.mono (fun _ hc => hc) (List.subset_cons_self v closed) (by simp)
  · intro t ht
    simpa using hdone t ht

/-- The path grows by a fresh vertex. -/
theorem Searching.grow (h : Searching g fresh ((v, t :: ts) :: rest) cycles closed) (ht : t ∈ fresh) :
    Searching g (fresh.erase t) ((t, g.targets t) :: (v, ts) :: rest) cycles closed := by
  have hedge := h.edge
  obtain ⟨hvertices, hpath, ⟨hedges, hdone, hrest⟩, hsettled, hsound⟩ := h
  refine ⟨?_, ?_, ⟨fun _ hu => hu, fun u hu => .inl hu.1, ?_, ?_, hrest⟩, hsettled, hsound⟩
  · have hmove : (fresh.erase t ++ (t :: v :: rest.map (·.1) ++ closed)).Perm
        (fresh ++ (v :: rest.map (·.1) ++ closed)) :=
      List.perm_middle.trans ((List.perm_cons_erase ht).symm.append_right _)
    exact hmove.trans hvertices
  · exact List.isChain_cons.mpr ⟨by simpa using hedge, hpath⟩
  · exact fun u hu => hedges u (List.mem_cons_of_mem t hu)
  · intro u hu
    rcases hdone u hu with hu | hu | hu
    · rcases List.mem_cons.mp hu with rfl | hu
      · exact .inr (.inr rfl)
      · exact .inl hu
    · exact .inr (.inl hu)
    · cases hu

/-- The next edge leads back to the path and closes a cycle. -/
theorem Searching.report (h : Searching g fresh ((v, t :: ts) :: rest) cycles closed)
    (ht : t ∈ ((v, ts) :: rest).map (·.1)) :
    Searching g fresh ((v, ts) :: rest) (cycles ++ [Trail.cycleAt ((v, ts) :: rest) t]) closed := by
  have hnodup := (List.nodup_append.mp (List.nodup_append.mp h.nodup).2.1).1
  obtain ⟨hcycle, hcloses⟩ := isCycle_cycleAt ts h.path hnodup ht h.edge
  obtain ⟨hvertices, hpath, ⟨hedges, hdone, hrest⟩, hsettled, hsound⟩ := h
  generalize Trail.cycleAt ((v, ts) :: rest) t = c at hcycle hcloses
  have hsubset : cycles ⊆ cycles ++ [c] := List.subset_append_left _ _
  refine ⟨hvertices, hpath, ⟨?_, ?_, ?_⟩, hsettled.mono hsubset, ?_⟩
  · exact fun u hu => hedges u (List.mem_cons_of_mem t hu)
  · intro u hu
    rcases hdone u (hu.mono hsubset) with hmem | hmem
    · rcases List.mem_cons.mp hmem with rfl | hmem
      · exact absurd hcloses (hu.2 c (by simp))
      · exact .inl hmem
    · exact .inr hmem
  · exact hrest.mono hsubset (fun _ hu => hu) fun _ hu => .inr hu
  · intro d hd
    rcases List.mem_append.mp hd with hd | hd
    · exact hsound d hd
    · rw [List.mem_singleton.mp hd]
      exact hcycle

/-- The next edge leads to a vertex that has closed. -/
theorem Searching.pass (h : Searching g fresh ((v, t :: ts) :: rest) cycles closed) (hfresh : t ∉ fresh)
    (hopen : t ∉ ((v, ts) :: rest).map (·.1)) : Searching g fresh ((v, ts) :: rest) cycles closed := by
  have hclosed : t ∈ closed := by
    have hmem := h.vertices.mem_iff.mpr (mem_vertices_of_edge h.edge)
    rcases List.mem_append.mp hmem with hmem | hmem
    · exact absurd hmem hfresh
    · exact (List.mem_append.mp hmem).resolve_left hopen
  obtain ⟨hvertices, hpath, ⟨hedges, hdone, hrest⟩, hsettled, hsound⟩ := h
  refine ⟨hvertices, hpath, ⟨?_, ?_, hrest⟩, hsettled, hsound⟩
  · exact fun u hu => hedges u (List.mem_cons_of_mem t hu)
  · intro u hu
    rcases hdone u hu with hmem | hmem
    · rcases List.mem_cons.mp hmem with rfl | hmem
      · exact .inr (.inl hclosed)
      · exact .inl hmem
    · exact .inr hmem

/-- Where a search stands: the vertices that are fresh, the path, the cycles reported so far and the
vertices that have closed, the last one first. -/
structure SearchState where
  fresh : List String
  trail : Trail
  cycles : List (List String)
  closed : List String

/-- What the search does next. Between two paths any fresh vertex may begin one. -/
inductive SearchStep (g : Adjacency) : SearchState → SearchState → Prop
  | enter {fresh : List String} {cycles : List (List String)} {closed : List String} {start : String}
      (hstart : start ∈ fresh) :
      SearchStep g ⟨fresh, [], cycles, closed⟩ ⟨fresh.erase start, [(start, g.targets start)], cycles, closed⟩
  | close {fresh : List String} {v : String} {rest : Trail} {cycles : List (List String)} {closed : List String} :
      SearchStep g ⟨fresh, (v, []) :: rest, cycles, closed⟩ ⟨fresh, rest, cycles, v :: closed⟩
  | grow {fresh : List String} {v t : String} {ts : List String} {rest : Trail} {cycles : List (List String)}
      {closed : List String} (ht : t ∈ fresh) :
      SearchStep g ⟨fresh, (v, t :: ts) :: rest, cycles, closed⟩
        ⟨fresh.erase t, (t, g.targets t) :: (v, ts) :: rest, cycles, closed⟩
  | report {fresh : List String} {v t : String} {ts : List String} {rest : Trail} {cycles : List (List String)}
      {closed : List String} (ht : t ∈ ((v, ts) :: rest).map (·.1)) :
      SearchStep g ⟨fresh, (v, t :: ts) :: rest, cycles, closed⟩
        ⟨fresh, (v, ts) :: rest, cycles ++ [Trail.cycleAt ((v, ts) :: rest) t], closed⟩
  | pass {fresh : List String} {v t : String} {ts : List String} {rest : Trail} {cycles : List (List String)}
      {closed : List String} (hfresh : t ∉ fresh) (hopen : t ∉ ((v, ts) :: rest).map (·.1)) :
      SearchStep g ⟨fresh, (v, t :: ts) :: rest, cycles, closed⟩ ⟨fresh, (v, ts) :: rest, cycles, closed⟩

/-- The states that a search of the whole graph may come to. -/
def SearchState.Arises (g : Adjacency) (s : SearchState) : Prop :=
  Relation.ReflTransGen (SearchStep g) ⟨g.vertices, [], [], []⟩ s

/-- A path begins at a fresh vertex. -/
theorem Searching.enter (h : Searching g fresh [] cycles closed) {start : String} (hstart : start ∈ fresh) :
    Searching g (fresh.erase start) [(start, g.targets start)] cycles closed := by
  refine ⟨?_, List.isChain_singleton _, ?_, h.settled, h.sound⟩
  · exact (List.perm_middle.trans ((List.perm_cons_erase hstart).symm.append_right _)).trans h.vertices
  · exact ⟨fun _ hu => hu, fun u hu => .inl hu.1, trivial⟩

theorem SearchState.Arises.searching {s : SearchState} (h : s.Arises g) :
    Searching g s.fresh s.trail s.cycles s.closed := by
  induction h with
  | refl => exact ⟨by simp, .nil, trivial, trivial, by simp⟩
  | tail _ hstep ih =>
    cases hstep with
    | enter hstart => exact ih.enter hstart
    | close => exact ih.close
    | grow ht => exact ih.grow ht
    | report ht => exact ih.report ht
    | pass hfresh hopen => exact ih.pass hfresh hopen

/-- A search that follows its path to the end takes such steps. -/
theorem SearchState.Arises.search (h : SearchState.Arises g ⟨fresh, trail, cycles, closed⟩) :
    ∃ closed', SearchState.Arises g ⟨(g.search fresh trail cycles).1, [], (g.search fresh trail cycles).2, closed'⟩ := by
  fun_induction Adjacency.search g fresh trail cycles generalizing closed with
  | case1 => exact ⟨closed, h⟩
  | case2 _ _ _ _ ih => exact ih (h.tail .close)
  | case3 _ _ _ _ _ _ hfresh ih => exact ih (h.tail (.grow hfresh))
  | case4 _ _ _ _ _ _ _ hopen ih => exact ih (h.tail (.report hopen))
  | case5 _ _ _ _ _ _ hfresh hopen ih => exact ih (h.tail (.pass hfresh hopen))

theorem search_fresh_subset (g : Adjacency) (fresh : List String) (trail : Trail) (cycles : List (List String)) :
    (g.search fresh trail cycles).1 ⊆ fresh := by
  fun_induction Adjacency.search g fresh trail cycles with
  | case1 => exact fun _ hv => hv
  | case3 _ _ _ _ _ _ _ ih => exact fun _ hv => List.mem_of_mem_erase (ih hv)
  | case2 _ _ _ _ ih | case4 _ _ _ _ _ _ _ _ ih | case5 _ _ _ _ _ _ _ _ ih => exact ih

/-- A search from one more vertex, after which this vertex is not fresh. -/
theorem SearchState.Arises.searchFrom {state : List String × List (List String)}
    (h : SearchState.Arises g ⟨state.1, [], state.2, closed⟩) (start : String) :
    (∃ closed', SearchState.Arises g ⟨(g.searchFrom state start).1, [], (g.searchFrom state start).2, closed'⟩) ∧
      (g.searchFrom state start).1 ⊆ state.1 ∧ start ∉ (g.searchFrom state start).1 := by
  unfold Adjacency.searchFrom
  split
  case isFalse hstart => exact ⟨⟨closed, h⟩, fun _ hv => hv, hstart⟩
  case isTrue hstart =>
    have hfresh : state.1.Nodup := (List.nodup_append.mp h.searching.nodup).1
    have hsubset := search_fresh_subset g (state.1.erase start) [(start, g.targets start)] state.2
    have hbegun : SearchState.Arises g ⟨state.1.erase start, [(start, g.targets start)], state.2, closed⟩ :=
      h.tail (.enter hstart)
    refine ⟨hbegun.search, fun v hv => List.mem_of_mem_erase (hsubset hv), ?_⟩
    exact fun hv => hfresh.not_mem_erase (hsubset hv)

/-- The whole search comes to a state without a path in which all vertices with edges have closed. -/
theorem cycles_arise (g : Adjacency) :
    ∃ fresh closed, SearchState.Arises g ⟨fresh, [], g.cycles, closed⟩ ∧ ∀ v ∈ Keyed.keys g, v ∈ closed := by
  have hrun : ∀ (keys : List String) (state : List String × List (List String)) (closed : List String),
      SearchState.Arises g ⟨state.1, [], state.2, closed⟩ →
        let final := keys.foldl g.searchFrom state
        (∃ closed', SearchState.Arises g ⟨final.1, [], final.2, closed'⟩) ∧ final.1 ⊆ state.1 ∧
          ∀ v ∈ keys, v ∉ final.1 := by
    intro keys
    induction keys with
    | nil => exact fun state closed h => ⟨⟨closed, h⟩, fun _ hv => hv, by simp⟩
    | cons key rest ih =>
      intro state closed h
      obtain ⟨⟨closed', h'⟩, hsubset, hkey⟩ := h.searchFrom key
      obtain ⟨hfinal, hsubset', hrest⟩ := ih _ closed' h'
      refine ⟨hfinal, fun v hv => hsubset (hsubset' hv), ?_⟩
      intro v hv
      rcases List.mem_cons.mp hv with rfl | hv
      · exact fun hmem => hkey (hsubset' hmem)
      · exact hrest v hv
  obtain ⟨⟨closed, h⟩, -, hkeys⟩ := hrun (Keyed.keys g) (g.vertices, []) [] .refl
  refine ⟨_, closed, h, ?_⟩
  intro v hv
  have hmem := h.searching.vertices.mem_iff.mpr (mem_vertices_of_mem_keys hv)
  exact (List.mem_append.mp hmem).resolve_left (hkeys v hv)

/-- Every list that is reported is a cycle. -/
theorem isCycle_of_mem_cycles (h : c ∈ g.cycles) : g.IsCycle c := by
  obtain ⟨_, _, harises, -⟩ := g.cycles_arise
  exact harises.searching.sound c h

/-- Every member of a cycle has an edge that leads on. -/
theorem IsCycle.exists_edge (h : g.IsCycle c) (hv : v ∈ c) : ∃ t, g.Edge v t := by
  obtain ⟨-, hpath, last, first, hlast, -, hedge⟩ := h
  obtain ⟨before, after, rfl⟩ := List.append_of_mem hv
  cases after with
  | nil =>
    rw [List.getLast?_concat] at hlast
    cases hlast
    exact ⟨first, hedge⟩
  | cons t rest => exact ⟨t, List.isChain_cons_cons.mp (List.isChain_append.mp hpath).2.1 |>.1⟩

theorem Settled.of_append {later : List String} (h : Settled g cycles (later ++ closed)) : Settled g cycles closed := by
  induction later with
  | nil => exact h
  | cons v rest ih => exact ih h.2

/-- Along edges that close no cycle, vertices closed ever earlier. -/
theorem Settled.mem_of_transGen (h : Settled g cycles (v :: closed))
    (hpath : Relation.TransGen (Unclosed g cycles) v t) : t ∈ closed := by
  induction hpath with
  | single hedge => exact h.1 _ hedge
  | tail _ hedge ih =>
    obtain ⟨later, earlier, hsplit⟩ := List.append_of_mem ih
    have hsettled := h.2
    rw [hsplit] at hsettled ⊢
    exact List.mem_append_right _ (List.mem_cons_of_mem _ (hsettled.of_append.1 _ hedge))

/-- Without the edges that close the reported cycles there is no way round. -/
theorem unclosed_acyclic (g : Adjacency) (v : String) : ¬ Relation.TransGen (Unclosed g g.cycles) v v := by
  intro hpath
  obtain ⟨_, closed, harises, hkeys⟩ := g.cycles_arise
  have hsearch := harises.searching
  obtain ⟨w, hedge, -⟩ := Relation.TransGen.head'_iff.mp hpath
  obtain ⟨later, earlier, hsplit⟩ := List.append_of_mem (hkeys v (mem_keys_of_edge hedge.1))
  have hnodup : closed.Nodup := (List.nodup_append.mp hsearch.nodup).2.1
  have hsettled := hsearch.settled
  rw [hsplit] at hsettled hnodup
  have hmem := hsettled.of_append.mem_of_transGen hpath
  exact (List.nodup_cons.mp (List.nodup_append.mp hnodup).2.1).1 hmem

/-- An edge between two vertices. -/
def Link (g : Adjacency) (v t : String) : Prop := v ≠ t ∧ g.Edge v t

theorem isChain_link (hnodup : c.Nodup) (hpath : c.IsChain g.Edge) : c.IsChain g.Link := by
  induction c with
  | nil => exact .nil
  | cons v rest ih =>
    obtain ⟨hv, hrest⟩ := List.nodup_cons.mp hnodup
    obtain ⟨hedge, hpath⟩ := List.isChain_cons.mp hpath
    refine List.isChain_cons.mpr ⟨?_, ih hrest hpath⟩
    intro w hw
    refine ⟨?_, hedge w hw⟩
    rintro rfl
    exact hv (List.mem_of_head? hw)

/-- A path whose end leads back to its start goes round. -/
theorem transGen_of_closed {R : String → String → Prop} {last first : String} (hpath : c.IsChain R)
    (hlast : c.getLast? = some last) (hfirst : c.head? = some first) (hback : R last first) :
    Relation.TransGen R first first := by
  match c with
  | v :: rest =>
    cases hfirst
    refine .tail' (List.relationReflTransGen_of_exists_isChain_cons rest hpath ?_) hback
    exact Option.some.inj ((List.getLast?_eq_some_getLast _).symm.trans hlast)

/-- A cycle of several vertices goes round along edges between different ones. -/
theorem IsCycle.transGen_link (h : g.IsCycle c) (hlength : 2 ≤ c.length) :
    ∃ v, Relation.TransGen g.Link v v := by
  obtain ⟨hnodup, hpath, last, first, hlast, hfirst, hedge⟩ := h
  match c, hlength with
  | v :: w :: rest, _ =>
    cases hfirst
    have hmem : last ∈ w :: rest := List.mem_of_getLast? (by rw [← hlast, List.getLast?_cons_cons])
    have hne : last ≠ first := fun heq => (List.nodup_cons.mp hnodup).1 (heq ▸ hmem)
    exact ⟨first, transGen_of_closed (isChain_link hnodup hpath) hlast rfl ⟨hne, hedge⟩⟩

/-- A cycle of several vertices is reported exactly if there is one. -/
theorem exists_long_cycle_iff (g : Adjacency) :
    (∃ c ∈ g.cycles, 2 ≤ c.length) ↔ ∃ v, Relation.TransGen g.Link v v := by
  constructor
  · rintro ⟨c, hc, hlength⟩
    exact (isCycle_of_mem_cycles hc).transGen_link hlength
  · rintro ⟨v, hpath⟩
    by_contra hshort
    have hunclosed : g.Link ≤ Unclosed g g.cycles := by
      rintro u w ⟨hne, hedge⟩
      refine ⟨hedge, ?_⟩
      rintro c hc ⟨hlast, hfirst⟩
      -- a cycle that this edge closed would have two vertices
      refine hshort ⟨c, hc, ?_⟩
      match c with
      | [x] =>
        cases hlast
        cases hfirst
        exact absurd rfl hne
      | _ :: _ :: _ => simp
    exact unclosed_acyclic g v (Relation.TransGen.mono hunclosed _ _ hpath)

/-- If no vertex leads to itself, every cycle has several vertices. -/
theorem cycles_ne_nil_iff (hself : ∀ v, ¬ g.Edge v v) : g.cycles ≠ [] ↔ ∃ c ∈ g.cycles, 2 ≤ c.length := by
  constructor
  · intro hne
    obtain ⟨c, hc⟩ := List.exists_mem_of_ne_nil _ hne
    obtain ⟨-, -, last, first, hlast, hfirst, hedge⟩ := isCycle_of_mem_cycles hc
    refine ⟨c, hc, ?_⟩
    match c with
    | [v] =>
      cases hlast
      cases hfirst
      exact absurd hedge (hself _)
    | _ :: _ :: _ => simp
  · rintro ⟨c, hc, -⟩
    exact List.ne_nil_of_mem hc

end Adjacency
end CodeAudit
