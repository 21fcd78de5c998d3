import CodeAudit.Ast.Cache
import Mathlib.Data.List.Induction

/-! A cache over a whole history of requests. Its entries stand in the order in which their paths were last used, and
each holds what was put last; so what has to go for lack of room is what nothing has asked for longest. -/
namespace CodeAudit.AstCache

variable {α : Type}

/-- What is asked of a cache. -/
inductive Request (α : Type) where
  | get (path hash : String)
  | put (path hash : String) (value : α)
  | invalidate (path : String)
  | clear

namespace Request

/-- A request uses the path that it stores or looks up, whatever it finds there. -/
def uses (path : String) : Request α → Bool
  | get p _ | put p _ _ => p = path
  | _ => false

/-- What a request stores under a path. -/
def stores? (path : String) : Request α → Option (String × α)
  | put p hash value => if p = path then some (hash, value) else none
  | _ => none

def isGet : Request α → Bool
  | get .. => true
  | _ => false

end Request

/-- The cache after a request. -/
def serve (c : AstCache α) : Request α → AstCache α
  | .get path hash => (c.get path hash).2
  | .put path hash value => c.put path hash value
  | .invalidate path => c.invalidate path
  | .clear => c.clear

/-- The cache after a history of requests, the first one first. -/
def after (capacity : Nat) (history : List (Request α)) : AstCache α := history.foldl serve (empty capacity)

/-- The paths that are held, from the most to the least recently used. -/
def paths (c : AstCache α) : List String := c.entries.map (·.1)

/-- What was put last under a path. -/
def latestPut (history : List (Request α)) (path : String) : Option (String × α) :=
  history.reverse.findSome? (Request.stores? path)

/-- The time of the last use of a path, counted from one; zero if there was none. -/
def lastUse (history : List (Request α)) (path : String) : Nat :=
  history.length - history.reverse.findIdx (Request.uses path)

/-- The path that is held and whose last use lies furthest back. -/
def Oldest (history : List (Request α)) (c : AstCache α) (path : String) : Prop :=
  path ∈ c.paths ∧ ∀ other ∈ c.paths, other ≠ path → lastUse history path < lastUse history other

section History

variable {history : List (Request α)} {r : Request α} {path : String}

theorem lastUse_le (history : List (Request α)) (path : String) : lastUse history path ≤ history.length :=
  Nat.sub_le _ _

theorem lastUse_concat (history : List (Request α)) (r : Request α) (path : String) :
    lastUse (history ++ [r]) path = if r.uses path then history.length + 1 else lastUse history path := by
  simp only [lastUse, List.length_append, List.length_cons, List.length_nil, List.reverse_append,
    List.reverse_cons, List.reverse_nil, List.nil_append, List.cons_append, List.findIdx_cons]
  cases r.uses path with
  | true => rfl
  | false =>
    simp only [cond_false, Bool.false_eq_true, if_false]
    omega

theorem latestPut_concat (history : List (Request α)) (r : Request α) (path : String) :
    latestPut (history ++ [r]) path = (r.stores? path).or (latestPut history path) := by
  rw [latestPut, List.reverse_append, List.reverse_singleton, List.singleton_append, List.findSome?_cons]
  cases r.stores? path <;> rfl

/-- Only a use of a path stores anything under it. -/
theorem stores?_eq_none (h : r.uses path = false) : r.stores? path = none := by
  cases r with
  | put p hash value => exact if_neg (of_decide_eq_false h)
  | _ => rfl

theorem after_concat (capacity : Nat) (history : List (Request α)) (r : Request α) :
    after capacity (history ++ [r]) = (after capacity history).serve r := by
  rw [after, List.foldl_append]
  rfl

end History

section Entries

variable {c : AstCache α} {path hash q : String} {value : α} {entries : List (String × String × α)}

theorem mem_without {e : String × String × α} : e ∈ without path entries ↔ e ∈ entries ∧ e.1 ≠ path := by
  simp only [without, List.mem_filter, bne_iff_ne]

theorem map_without (path : String) (entries : List (String × String × α)) :
    (without path entries).map (·.1) = (entries.map (·.1)).filter (· != path) := by
  rw [List.filter_map]
  rfl

theorem find?_eq_none_iff : c.find? path = none ↔ path ∉ c.paths := by
  rw [find?, List.lookup_eq_none_iff, paths, List.mem_map, not_exists]
  refine forall_congr' fun e => ?_
  rw [not_and, bne_iff_ne, ne_comm]

theorem mem_entries_of_find? {e : String × α} (h : c.find? path = some e) : (path, e) ∈ c.entries := by
  obtain ⟨before, after, heq, -⟩ := List.lookup_eq_some_iff.mp h
  rw [heq]
  simp

/-- The entry of a path that stands only once. -/
theorem find?_of_mem {e : String × α} (hnodup : c.paths.Nodup) (h : (path, e) ∈ c.entries) :
    c.find? path = some e := by
  obtain ⟨before, after, heq⟩ := List.append_of_mem h
  refine List.lookup_eq_some_iff.mpr ⟨before, after, heq, ?_⟩
  rw [paths, heq, List.map_append, List.nodup_append] at hnodup
  intro x hx
  have hne := hnodup.2.2 x.1 (List.mem_map_of_mem hx) path (by simp)
  exact bne_iff_ne.mpr hne.symm

/-- Looking up a path counts once and moves its entry to the front, if there is one. -/
theorem get_snd (c : AstCache α) (path hash : String) :
    (c.get path hash).2.entries = (c.touch path).entries ∧ (c.get path hash).2.capacity = c.capacity ∧
      (c.get path hash).2.hits + (c.get path hash).2.misses = c.hits + c.misses + 1 := by
  unfold get touch
  cases c.find? path with
  | none => exact ⟨rfl, rfl, by simp only; omega⟩
  | some e =>
    by_cases heq : e.1 = hash
    · simp only [heq, if_true, true_and]
      omega
    · simp only [heq, if_false, true_and]
      omega

theorem get_fst (c : AstCache α) (path hash : String) :
    (c.get path hash).1 = some value ↔ c.find? path = some (hash, value) := by
  unfold get
  cases c.find? path with
  | none => simp
  | some e =>
    obtain ⟨stored, v⟩ := e
    by_cases heq : stored = hash <;> simp [heq]

theorem paths_put (c : AstCache α) (path hash : String) (value : α) :
    (c.put path hash value).paths = (path :: c.paths.filter (· != path)).take c.capacity := by
  rw [paths, put, List.map_take, List.map_cons, map_without]
  rfl

theorem mem_paths_touch : q ∈ (c.touch path).paths ↔ q ∈ c.paths := by
  unfold touch
  cases hfind : c.find? path with
  | none => rfl
  | some e =>
    have hmem : path ∈ c.paths := List.mem_map_of_mem (mem_entries_of_find? hfind)
    rw [paths, List.map_cons, map_without, List.mem_cons, List.mem_filter, bne_iff_ne]
    constructor
    · rintro (rfl | h)
      · exact hmem
      · exact h.1
    · intro h
      by_cases heq : q = path
      · exact .inl heq
      · exact .inr ⟨h, heq⟩

/-- A put keeps all paths, but for the last one if it needs the room for a path that was not held. -/
theorem mem_paths_put (hnodup : c.paths.Nodup) (hbounded : c.size ≤ c.capacity) (hroom : 0 < c.capacity) :
    q ∈ (c.put path hash value).paths ↔ q = path ∨ (q ∈ c.paths ∧
      ¬ (path ∉ c.paths ∧ c.size = c.capacity ∧ c.paths.getLast? = some q)) := by
  have hsize : c.paths.length = c.size := List.length_map _
  by_cases hmem : path ∈ c.paths
  · have hlength : (path :: c.paths.filter (· != path)).length ≤ c.capacity := by
      rw [List.length_cons, ← hnodup.erase_eq_filter, List.length_erase_of_mem hmem]
      have := List.length_pos_of_mem hmem
      omega
    rw [paths_put, List.take_of_length_le hlength, List.mem_cons, List.mem_filter, bne_iff_ne]
    by_cases heq : q = path <;> simp [heq, hmem]
  · have hkept : c.paths.filter (· != path) = c.paths := by
      refine List.filter_eq_self.mpr fun x hx => bne_iff_ne.mpr ?_
      rintro rfl
      exact hmem hx
    rw [paths_put, hkept]
    by_cases hfull : c.size = c.capacity
    · obtain ⟨n, hn⟩ : ∃ n, c.capacity = n + 1 := ⟨c.capacity - 1, by omega⟩
      have htake : c.paths.take n = c.paths.dropLast := by
        rw [List.dropLast_eq_take, hsize, hfull, hn, Nat.add_sub_cancel]
      have hne : c.paths ≠ [] := by
        intro hnil
        rw [hnil, List.length_nil] at hsize
        omega
      obtain ⟨init, last, hpaths⟩ := List.eq_nil_or_concat c.paths |>.resolve_left hne
      rw [List.concat_eq_append] at hpaths
      rw [hn, List.take_succ_cons, htake, List.mem_cons, hpaths, List.dropLast_concat]
      rw [hpaths] at hmem hnodup
      have hlast : last ∉ init := by
        intro h
        exact (List.nodup_append.mp hnodup).2.2 last h last (List.mem_singleton_self last) rfl
      simp only [List.mem_append, List.mem_singleton, List.getLast?_append, List.getLast?_singleton,
        Option.some_or, Option.some.injEq]
      constructor
      · rintro (rfl | h)
        · exact .inl rfl
        · refine .inr ⟨.inl h, ?_⟩
          rintro ⟨-, -, rfl⟩
          exact hlast h
      · rintro (rfl | ⟨h | rfl, hstay⟩)
        · exact .inl rfl
        · exact .inr h
        · exact absurd ⟨by simpa using hmem, by omega, rfl⟩ hstay
    · rw [List.take_of_length_le (by rw [List.length_cons]; omega), List.mem_cons]
      simp [hfull]

end Entries

/-- How a cache stands to the history of the requests that it has served. -/
structure Tracks (capacity : Nat) (history : List (Request α)) (c : AstCache α) : Prop where
  room : c.capacity = max capacity 1
  bounded : c.size ≤ c.capacity
  ordered : c.entries.Pairwise fun x y => lastUse history y.1 < lastUse history x.1
  latest : ∀ e ∈ c.entries, latestPut history e.1 = some e.2
  counted : c.hits + c.misses = history.countP Request.isGet

variable {capacity : Nat} {history : List (Request α)} {c : AstCache α} {r : Request α} {path : String}
  {entries : List (String × String × α)}

theorem tracks_empty (capacity : Nat) : Tracks capacity [] (empty capacity : AstCache α) where
  room := rfl
  bounded := Nat.zero_le _
  ordered := .nil
  latest e he := by cases he
  counted := rfl

theorem Tracks.nodup (h : Tracks capacity history c) : c.paths.Nodup := by
  refine List.pairwise_map.mpr (h.ordered.imp ?_)
  intro x y hlt heq
  rw [heq] at hlt
  exact Nat.lt_irrefl _ hlt

/-- Requests that use none of some paths leave their order as it was. -/
theorem ordered_of_unused (h : entries.Pairwise fun x y => lastUse history y.1 < lastUse history x.1)
    (hunused : ∀ e ∈ entries, r.uses e.1 = false) :
    entries.Pairwise fun x y => lastUse (history ++ [r]) y.1 < lastUse (history ++ [r]) x.1 := by
  refine List.Pairwise.imp_of_mem ?_ h
  intro x y hx hy hlt
  rw [lastUse_concat, lastUse_concat, if_neg (Bool.eq_false_iff.mp (hunused y hy)),
    if_neg (Bool.eq_false_iff.mp (hunused x hx))]
  exact hlt

/-- The path in use comes before all others. -/
theorem ordered_front (h : entries.Pairwise fun x y => lastUse history y.1 < lastUse history x.1)
    (hused : ∀ p, r.uses p = decide (path = p)) (e : String × α) :
    ((path, e) :: without path entries).Pairwise fun x y =>
      lastUse (history ++ [r]) y.1 < lastUse (history ++ [r]) x.1 := by
  have hunused : ∀ x ∈ without path entries, r.uses x.1 = false := by
    intro x hx
    rw [hused]
    exact decide_eq_false (mem_without.mp hx).2.symm
  refine List.pairwise_cons.mpr ⟨?_, ordered_of_unused (h.sublist List.filter_sublist) hunused⟩
  intro x hx
  rw [lastUse_concat, lastUse_concat, if_neg (Bool.eq_false_iff.mp (hunused x hx)),
    if_pos (by simp [hused])]
  exact Nat.lt_succ_of_le (lastUse_le history x.1)

theorem Tracks.latest_of_stores?_eq_none (h : Tracks capacity history c) {e : String × String × α}
    (he : e ∈ c.entries) (hr : r.stores? e.1 = none) : latestPut (history ++ [r]) e.1 = some e.2 := by
  rw [latestPut_concat, hr, Option.none_or, h.latest e he]

/-- A look-up moves one entry, or none, and changes none. -/
theorem Tracks.get (h : Tracks capacity history c) (path hash : String) :
    Tracks capacity (history ++ [Request.get path hash]) (c.get path hash).2 := by
  obtain ⟨hentries, hcapacity, hcount⟩ := c.get_snd path hash
  have hcounted : (c.get path hash).2.hits + (c.get path hash).2.misses =
      (history ++ [Request.get path hash]).countP Request.isGet := by
    rw [hcount, h.counted, List.countP_append]
    rfl
  cases hfind : c.find? path with
  | none =>
    have htouch : c.touch path = c := by rw [touch, hfind]
    rw [htouch] at hentries
    have hnotMem : path ∉ c.paths := find?_eq_none_iff.mp hfind
    have hunused : ∀ e ∈ c.entries, (Request.get path hash : Request α).uses e.1 = false := by
      intro e he
      refine decide_eq_false ?_
      rintro rfl
      exact hnotMem (List.mem_map_of_mem he)
    refine ⟨hcapacity.trans h.room, ?_, ?_, ?_, hcounted⟩
    · rw [size, hentries, hcapacity]
      exact h.bounded
    · rw [hentries]
      exact ordered_of_unused h.ordered hunused
    · rw [hentries]
      intro e he
      exact h.latest_of_stores?_eq_none he rfl
  | some e =>
    have hmem : (path, e) ∈ c.entries := mem_entries_of_find? hfind
    have htouch : (c.touch path).entries = (path, e) :: without path c.entries := by rw [touch, hfind]
    rw [htouch] at hentries
    refine ⟨hcapacity.trans h.room, ?_, ?_, ?_, hcounted⟩
    · have hlength : (without path c.entries).length < c.entries.length :=
        List.length_filter_lt_length_iff_exists.mpr ⟨(path, e), hmem, by simp⟩
      have hbounded := h.bounded
      rw [size] at hbounded
      rw [size, hentries, hcapacity, List.length_cons]
      omega
    · rw [hentries]
      exact ordered_front h.ordered (fun _ => rfl) e
    · rw [hentries]
      intro x hx
      refine h.latest_of_stores?_eq_none ?_ rfl
      rcases List.mem_cons.mp hx with rfl | hx
      · exact hmem
      · exact (mem_without.mp hx).1

/-- A put sets one entry in front of the others and keeps as many as there is room for. -/
theorem Tracks.put (h : Tracks capacity history c) (path hash : String) (value : α) :
    Tracks capacity (history ++ [Request.put path hash value]) (c.put path hash value) where
  room := h.room
  bounded := by
    rw [size, AstCache.put, List.length_take]
    exact Nat.min_le_left _ _
  ordered := (ordered_front h.ordered (fun _ => rfl) (hash, value)).sublist (List.take_sublist _ _)
  latest e he := by
    rcases List.mem_cons.mp (List.mem_of_mem_take he) with rfl | he
    · rw [latestPut_concat, Request.stores?, if_pos rfl, Option.some_or]
    · obtain ⟨hmem, hne⟩ := mem_without.mp he
      exact h.latest_of_stores?_eq_none hmem (if_neg hne.symm)
  counted := by
    rw [List.countP_append]
    exact h.counted

/-- A request that uses no path only takes entries away. -/
theorem Tracks.shrink (h : Tracks capacity history c) (hunused : ∀ p, r.uses p = false)
    (hget : r.isGet = false) (hentries : entries.Sublist c.entries) :
    Tracks capacity (history ++ [r]) { c with entries := entries } where
  room := h.room
  bounded := Nat.le_trans hentries.length_le h.bounded
  ordered := ordered_of_unused (h.ordered.sublist hentries) fun e _ => hunused e.1
  latest e he := h.latest_of_stores?_eq_none (hentries.subset he) (stores?_eq_none (hunused e.1))
  counted := by
    rw [List.countP_append, List.countP_singleton, hget]
    exact h.counted

theorem Tracks.serve (h : Tracks capacity history c) (r : Request α) :
    Tracks capacity (history ++ [r]) (c.serve r) := by
  cases r with
  | get path hash => exact h.get path hash
  | put path hash value => exact h.put path hash value
  | invalidate path => exact h.shrink (fun _ => rfl) rfl List.filter_sublist
  | clear => exact h.shrink (fun _ => rfl) rfl (List.nil_sublist _)

theorem tracks_after (capacity : Nat) (history : List (Request α)) :
    Tracks capacity history (after capacity history) := by
  induction history using List.reverseRecOn with
  | nil => exact tracks_empty capacity
  | append_singleton history r ih =>
    rw [after_concat]
    exact ih.serve r

theorem Tracks.find?_eq_some_iff (h : Tracks capacity history c) {e : String × α} :
    c.find? path = some e ↔ path ∈ c.paths ∧ latestPut history path = some e := by
  constructor
  · intro hfind
    have hmem := mem_entries_of_find? hfind
    exact ⟨List.mem_map_of_mem hmem, h.latest _ hmem⟩
  · rintro ⟨hpath, hlatest⟩
    obtain ⟨⟨p, e'⟩, hmem, rfl⟩ := List.mem_map.mp hpath
    rw [h.latest _ hmem] at hlatest
    cases hlatest
    exact find?_of_mem h.nodup hmem

/-- The last path in the list is the one that was used longest ago. -/
theorem Tracks.oldest_iff (h : Tracks capacity history c) : Oldest history c path ↔ c.paths.getLast? = some path := by
  have hordered : c.paths.Pairwise fun x y => lastUse history y < lastUse history x :=
    List.pairwise_map.mpr h.ordered
  constructor
  · rintro ⟨hmem, holdest⟩
    obtain ⟨init, last, hpaths⟩ := List.eq_nil_or_concat c.paths |>.resolve_left (List.ne_nil_of_mem hmem)
    rw [List.concat_eq_append] at hpaths
    rw [hpaths, List.pairwise_append] at hordered
    rw [hpaths] at hmem holdest ⊢
    rw [List.getLast?_append, List.getLast?_singleton, Option.some_or, Option.some.injEq]
    by_contra hne
    have hinit : path ∈ init := by
      rcases List.mem_append.mp hmem with hinit | hlast
      · exact hinit
      · exact absurd (List.mem_singleton.mp hlast).symm hne
    have hlater := hordered.2.2 path hinit last (List.mem_singleton_self last)
    exact Nat.lt_asymm hlater (holdest last (by simp) hne)
  · intro hlast
    obtain ⟨init, hpaths⟩ := List.getLast?_eq_some_iff.mp hlast
    rw [hpaths, List.pairwise_append] at hordered
    refine ⟨by simp [hpaths], ?_⟩
    intro other hother hne
    rw [hpaths] at hother
    rcases List.mem_append.mp hother with hinit | hother
    · exact hordered.2.2 other hinit path (List.mem_singleton_self path)
    · exact absurd (List.mem_singleton.mp hother) hne

/-- Which paths are held after one more request. -/
theorem Tracks.mem_paths_serve (h : Tracks capacity history c) (r : Request α) (q : String) :
    q ∈ (c.serve r).paths ↔ (∃ hash value, r = .put q hash value) ∨ (q ∈ c.paths ∧
      ¬ (r = .invalidate q ∨ r = .clear ∨ ∃ path hash value, r = .put path hash value ∧ path ∉ c.paths ∧
        c.size = max capacity 1 ∧ Oldest history c q)) := by
  cases r with
  | get path hash =>
    have hpaths : (c.get path hash).2.paths = (c.touch path).paths := by
      rw [paths, (c.get_snd path hash).1]
      rfl
    simp only [AstCache.serve, hpaths, mem_paths_touch, reduceCtorEq, exists_false, false_or, false_and,
      not_false_eq_true, and_true]
  | put path hash value =>
    have hroom : 0 < c.capacity := by rw [h.room]; omega
    rw [AstCache.serve, mem_paths_put h.nodup h.bounded hroom, h.oldest_iff, ← h.room]
    simp [eq_comm]
  | invalidate path =>
    rw [AstCache.serve, invalidate, paths, map_without, List.mem_filter, bne_iff_ne]
    simp [paths, eq_comm]
  | clear => simp [AstCache.serve, AstCache.clear, paths]

/-- A cache is exactly a map with room for so many paths, at least one, which gives up the path that
was used longest ago. -/
theorem after_isLru (capacity : Nat) (history : List (Request α)) :
    let c := after capacity history
    -- never more paths than there is room for, and none twice
    c.size ≤ max 1 capacity ∧ c.paths.Nodup ∧
    -- a look-up gives what was put last for a path that is held, if it has the hash asked for
    (∀ path hash value, (c.get path hash).1 = some value ↔
      path ∈ c.paths ∧ latestPut history path = some (hash, value)) ∧
    (∀ path ∈ c.paths, ∃ e, c.find? path = some e ∧ latestPut history path = some e) ∧
    -- a path comes in by a put of its own only
    (∀ r, ∀ path ∉ c.paths, path ∈ (c.serve r).paths ↔ ∃ hash value, r = .put path hash value) ∧
    -- and it goes by one of three requests only
    (∀ r, ∀ path ∈ c.paths, path ∉ (c.serve r).paths ↔
      r = .invalidate path ∨ r = .clear ∨
        ∃ other hash value, r = .put other hash value ∧ other ∉ c.paths ∧ c.size = max 1 capacity ∧
          Oldest history c path) ∧
    (c.paths ≠ [] → ∃! path, Oldest history c path) ∧
    c.hits + c.misses = history.countP Request.isGet := by
  intro c
  have h : Tracks capacity history c := tracks_after capacity history
  refine ⟨?_, h.nodup, ?_, ?_, ?_, ?_, ?_, h.counted⟩
  · rw [Nat.max_comm, ← h.room]
    exact h.bounded
  · intro path hash value
    rw [get_fst, h.find?_eq_some_iff]
  · intro path hpath
    obtain ⟨⟨p, e⟩, hmem, rfl⟩ := List.mem_map.mp hpath
    exact ⟨e, find?_of_mem h.nodup hmem, h.latest _ hmem⟩
  · intro r path hpath
    rw [h.mem_paths_serve]
    simp [hpath]
  · intro r path hpath
    rw [h.mem_paths_serve, Nat.max_comm 1 capacity]
    constructor
    · intro hgone
      by_contra hstay
      exact hgone (.inr ⟨hpath, hstay⟩)
    · rintro hgone (⟨hash, value, rfl⟩ | ⟨-, hstay⟩)
      · rcases hgone with hgone | hgone | ⟨other, _, _, heq, hother, -⟩
        · cases hgone
        · cases hgone
        · cases heq
          exact hother hpath
      · exact hstay hgone
  · intro hne
    refine ⟨c.paths.getLast hne, h.oldest_iff.mpr (List.getLast?_eq_some_getLast hne), ?_⟩
    intro path hpath
    rw [h.oldest_iff, List.getLast?_eq_some_getLast hne] at hpath
    exact (Option.some.inj hpath).symm

/-- A look-up that fails for its hash still counts as a use: `b` has to go. -/
example : (after 2 [.put "a" "1" (), .put "b" "1" (), .get "a" "2", .get "c" "1", .put "d" "1" ()]).paths =
    ["d", "a"] := by decide

end CodeAudit.AstCache
