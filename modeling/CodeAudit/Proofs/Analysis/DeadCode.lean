import CodeAudit.Proofs.Analysis.Visits
import CodeAudit.Proofs.Keyed
import CodeAudit.Proofs.Path
import CodeAudit.Proofs.Sorting

/-! Which functions are reported as dead. The verdict on a function is said by the calls in the trees and the
functions around them, without the places of functions in the list of all; ids keep functions apart, so that a list of
dead ids tells which functions are dead. -/
namespace CodeAudit.Calling

variable {trees : List AstFile} {functions : List FunctionRecord} {calls : List ResolvedCall} {file callee id : String}
  {f g : FunctionRecord} {i j : Nat} {c v : Visit} {p : Project} {limit : Nat}

/-- What a name stands for in a file: the functions of that name in the file, or all if the file has none. -/
def Denotes (functions : List FunctionRecord) (file callee : String) (f : FunctionRecord) : Prop :=
  f.name = callee ∧ (f.file = file ∨ ∀ g ∈ functions, g.name = callee → g.file ≠ file)

theorem mem_named_iff {x : FunctionRecord × Nat} : x ∈ functions.zipIdx.filter (fun f => f.1.name = callee) ↔
    functions[x.2]? = some x.1 ∧ x.1.name = callee := by
  rw [List.mem_filter, List.mem_zipIdx_iff_getElem?, decide_eq_true_iff]

theorem here_eq_nil_iff :
    ((functions.zipIdx.filter fun f => f.1.name = callee).filter fun f => f.1.file = file) = [] ↔
      ∀ g ∈ functions, g.name = callee → g.file ≠ file := by
  rw [List.filter_eq_nil_iff]
  constructor
  · intro hnone g hg hname hfile
    obtain ⟨k, hk⟩ := List.mem_iff_getElem?.mp hg
    exact hnone (g, k) (mem_named_iff.mpr ⟨hk, hname⟩) (decide_eq_true hfile)
  · intro hother x hx hfile
    obtain ⟨hget, hname⟩ := mem_named_iff.mp hx
    exact hother x.1 (List.mem_of_getElem? hget) hname (of_decide_eq_true hfile)

theorem mem_resolve_iff : i ∈ resolve functions file callee ↔
    ∃ f, functions[i]? = some f ∧ Denotes functions file callee f := by
  have hplaces (l : List (FunctionRecord × Nat)) : i ∈ l.map (·.2) ↔ ∃ f, (f, i) ∈ l := by simp
  unfold resolve
  rw [hplaces]
  refine exists_congr fun f => ?_
  by_cases hnone : ∀ g ∈ functions, g.name = callee → g.file ≠ file
  · rw [if_pos (List.isEmpty_iff.mpr (here_eq_nil_iff.mpr hnone)), mem_named_iff]
    exact and_congr_right fun _ => ⟨fun hname => ⟨hname, .inr hnone⟩, And.left⟩
  · rw [if_neg (fun hempty => hnone (here_eq_nil_iff.mp (List.isEmpty_iff.mp hempty))), List.mem_filter, mem_named_iff,
      decide_eq_true_iff, and_assoc]
    exact and_congr_right fun _ => and_congr_right fun _ => (or_iff_left hnone).symm

/-- The function around a node is the one at another node. -/
def Visit.EnclosedBy (c v : Visit) : Prop := c.tree = v.tree ∧ c.function? = some v.way

/-- Every call that may mean a function stands in that function itself. -/
def Uncalled (trees : List AstFile) (functions : List FunctionRecord) (v : Visit) (f : FunctionRecord) : Prop :=
  ∀ c ∈ visits trees, ∀ callee, calleeOf? c.node = some callee → Denotes functions c.file.path callee f → c.EnclosedBy v

/-- Not reached from outside, by a framework or by another part of the program. -/
structure IsDead (trees : List AstFile) (functions : List FunctionRecord) (v : Visit) (f : FunctionRecord) : Prop where
  entry : f.isEntryPoint = false
  hook : f.isHook = false
  uncalled : Uncalled trees functions v f

/-- A caller is told by the place of the function around it. -/
theorem caller_eq_iff (hv : (functionsIn trees)[i]? = some v) :
    (c.function?.map fun way => number trees (c.tree, way)) = some i ↔ c.EnclosedBy v := by
  have hsite : ((functionsIn trees).map Visit.site)[i]? = some v.site := by
    rw [List.getElem?_map, hv]
    rfl
  obtain ⟨hi, hget⟩ := List.getElem?_eq_some_iff.mp hsite
  rw [Option.map_eq_some_iff]
  constructor
  · rintro ⟨way, hway, hnumber⟩
    have heq : (c.tree, way) = v.site := by
      subst hnumber
      rw [← hget]
      exact (List.getElem_idxOf hi).symm
    exact ⟨(Prod.mk.inj heq).1, hway.trans (congrArg some (Prod.mk.inj heq).2)⟩
  · rintro ⟨htree, hway⟩
    refine ⟨v.way, hway, ?_⟩
    have hidx := (nodup_functionsIn trees).idxOf_getElem i hi
    rwa [hget, Visit.site, ← htree] at hidx

theorem isCalled_iff : isCalled (Harvest.ofTrees trees).resolved i = true ↔
    ∃ c ∈ visits trees, ∃ callee, calleeOf? c.node = some callee ∧
      (c.function?.map fun way => number trees (c.tree, way)) ≠ some i ∧
      i ∈ resolve (Harvest.ofTrees trees).functions c.file.path callee := by
  unfold isCalled Harvest.resolved
  rw [List.any_map, List.any_eq_true, calls_ofTrees]
  constructor
  · rintro ⟨call, hcall, hi⟩
    obtain ⟨c, hc, hcall⟩ := List.mem_filterMap.mp hcall
    obtain ⟨callee, hcallee, rfl⟩ := Option.map_eq_some_iff.mp hcall
    exact ⟨c, hc, callee, hcallee, of_decide_eq_true hi⟩
  · rintro ⟨c, hc, callee, hcallee, hi⟩
    refine ⟨⟨c.file.path, c.function?.map fun way => number trees (c.tree, way), callee, c.node.location.startLine⟩,
      List.mem_filterMap.mpr ⟨c, hc, ?_⟩, decide_eq_true hi⟩
    rw [Visit.call?, hcallee]
    rfl

theorem isCalled_eq_false_iff (hv : (functionsIn trees)[i]? = some v)
    (hf : (Harvest.ofTrees trees).functions[i]? = some f) :
    isCalled (Harvest.ofTrees trees).resolved i = false ↔ Uncalled trees (Harvest.ofTrees trees).functions v f := by
  rw [← Bool.not_eq_true, isCalled_iff]
  constructor
  · intro hnone c hc callee hcallee hdenotes
    by_contra henclosed
    exact hnone ⟨c, hc, callee, hcallee, fun heq => henclosed ((caller_eq_iff hv).mp heq),
      mem_resolve_iff.mpr ⟨f, hf, hdenotes⟩⟩
  · rintro huncalled ⟨c, hc, callee, hcallee, hcaller, hi⟩
    obtain ⟨f', hf', hdenotes⟩ := mem_resolve_iff.mp hi
    obtain rfl : f = f' := Option.some.inj (hf.symm.trans hf')
    exact hcaller ((caller_eq_iff hv).mpr (huncalled c hc callee hcallee hdenotes))

theorem isDead_iff (hv : (functionsIn trees)[i]? = some v) (hf : (Harvest.ofTrees trees).functions[i]? = some f) :
    isDead (Harvest.ofTrees trees).resolved (f, i) = true ↔ IsDead trees (Harvest.ofTrees trees).functions v f := by
  unfold isDead
  simp only [Bool.and_eq_true, Bool.not_eq_true', isCalled_eq_false_iff hv hf]
  constructor
  · rintro ⟨⟨huncalled, hentry⟩, hhook⟩
    exact ⟨hentry, hhook, huncalled⟩
  · rintro ⟨hentry, hhook, huncalled⟩
    exact ⟨⟨huncalled, hentry⟩, hhook⟩

/-- What is reported as dead are the ids of dead functions. -/
theorem mem_deadFunctions_iff : id ∈ (analyze limit p).report.deadFunctions ↔
    ∃ v, (v, id) ∈ identified p.parsed ∧ IsDead p.parsed (Harvest.ofTrees p.parsed).functions v (v.record id) := by
  constructor
  · intro hid
    obtain ⟨f, hf, rfl⟩ := List.mem_map.mp hid
    obtain ⟨⟨f, i⟩, hdead, rfl⟩ := List.mem_map.mp hf
    obtain ⟨hf, hdead⟩ := List.mem_filter.mp hdead
    rw [List.mem_zipIdx_iff_getElem?] at hf
    obtain ⟨v, id, hv, hid, rfl⟩ := getElem?_functions_iff.mp hf
    exact ⟨v, mem_identified_iff.mpr ⟨i, hv, hid⟩, (isDead_iff hv hf).mp hdead⟩
  · rintro ⟨v, hmem, hdead⟩
    obtain ⟨i, hv, hid⟩ := mem_identified_iff.mp hmem
    have hf := getElem?_functions_iff.mpr ⟨v, id, hv, hid, rfl⟩
    refine List.mem_map.mpr ⟨v.record id, List.mem_map.mpr ⟨(v.record id, i), List.mem_filter.mpr ⟨?_, ?_⟩, rfl⟩, rfl⟩
    · exact List.mem_zipIdx_iff_getElem?.mpr hf
    · exact (isDead_iff hv hf).mpr hdead

/-- The bases of functions end in a name, behind a colon or a dot. -/
theorem plain_base (hv : '#' ∉ v.name.toList) : IdCounts.Plain v.base := by
  cases hclass : v.className? with
  | none =>
    have hbase : v.base.toList = v.file.path.toList ++ [':'] ++ ':' :: v.name.toList := by
      simp [Visit.base, Visit.qualified, hclass]
    exact IdCounts.plain_of_toList hbase hv (by decide) (by decide)
  | some name =>
    have hbase : v.base.toList = v.file.path.toList ++ [':', ':'] ++ name.toList ++ '.' :: v.name.toList := by
      simp [Visit.base, Visit.qualified, hclass]
    exact IdCounts.plain_of_toList hbase hv (by decide) (by decide)

theorem identified_functions (trees : List AstFile) :
    List.Forall₂ (fun v f => (v, f.id) ∈ identified trees ∧ f = v.record f.id) (functionsIn trees)
      (Harvest.ofTrees trees).functions := by
  have hlength : (functionsIn trees).length = (Harvest.ofTrees trees).functions.length := by
    rw [functions_ofTrees, List.length_zipWith, length_idsIn, Nat.min_self]
  refine List.forall₂_iff_zip.mpr ⟨hlength, fun {v f} hmem => ?_⟩
  obtain ⟨i, hi⟩ := List.mem_iff_getElem?.mp hmem
  obtain ⟨hv, hf⟩ := List.getElem?_zip_eq_some.mp hi
  obtain ⟨v', id, hv', hid, rfl⟩ := getElem?_functions_iff.mp hf
  obtain rfl : v = v' := Option.some.inj (hv.symm.trans hv')
  exact ⟨mem_identified_iff.mpr ⟨i, hv, hid⟩, rfl⟩

/-- An id tells the function, if ids are not given twice. -/
theorem eq_of_mem_identified {v' : Visit} (hnodup : (idsIn trees).Nodup) (h : (v, id) ∈ identified trees)
    (h' : (v', id) ∈ identified trees) : v = v' := by
  obtain ⟨i, hv, hi⟩ := mem_identified_iff.mp h
  obtain ⟨j, hv', hj⟩ := mem_identified_iff.mp h'
  obtain ⟨hlt, -⟩ := List.getElem?_eq_some_iff.mp hi
  obtain rfl := (List.getElem?_inj hlt hnodup).mp (hi.trans hj.symm)
  exact Option.some.inj (hv.symm.trans hv')

/-- Ids keep functions apart. -/
theorem nodup_idsIn (h : ∀ f ∈ (Harvest.ofTrees trees).functions, '#' ∉ f.name.toList) : (idsIn trees).Nodup := by
  refine IdCounts.nodup_numberedAfter fun b hb => ?_
  obtain ⟨v, hv, rfl⟩ := List.mem_map.mp hb
  obtain ⟨i, hi⟩ := List.mem_iff_getElem?.mp hv
  have hlt : i < (idsIn trees).length := by
    rw [length_idsIn]
    exact (List.getElem?_eq_some_iff.mp hi).1
  have hmem := mem_functions_iff.mpr ⟨v, _, mem_identified_iff.mpr ⟨i, hi, List.getElem?_eq_getElem hlt⟩, rfl⟩
  exact plain_base (h _ hmem)

theorem isCalled_of_mem_calleesOf (h : j ∈ calleesOf calls i) : isCalled calls j = true := by
  obtain ⟨hj, hne⟩ := List.mem_filter.mp (List.mem_mergeSort.mp (mem_eraseReps.mp h))
  obtain ⟨c, hc, hj⟩ := List.mem_flatMap.mp hj
  obtain ⟨hc, hcaller⟩ := List.mem_filter.mp hc
  refine List.any_eq_true.mpr ⟨c, hc, decide_eq_true ⟨?_, hj⟩⟩
  rw [of_decide_eq_true hcaller]
  exact fun heq => of_decide_eq_true hne (Option.some.inj heq).symm

theorem exists_of_mem_getD {table : List (List Nat)} (h : j ∈ table.toArray.getD i []) : ∃ js ∈ table, j ∈ js := by
  rw [Array.getD_eq_getD_getElem?, List.getElem?_toArray] at h
  cases hrow : table[i]? with
  | none =>
    rw [hrow] at h
    cases h
  | some js =>
    rw [hrow] at h
    exact ⟨js, List.mem_of_getElem? hrow, h⟩

/-- What an edge leads to is called. -/
theorem exists_called_of_mem_edges {e : String × List String} (he : e ∈ (analyze limit p).report.edges)
    (hid : id ∈ e.2) : ∃ v, (v, id) ∈ identified p.parsed ∧
      ¬ Uncalled p.parsed (Harvest.ofTrees p.parsed).functions v (v.record id) := by
  obtain ⟨caller, targets⟩ := e
  have hedge := Keyed.mem_of_get?_ofList (Keyed.get?_of_mem (Keyed.sorted_ofList _) he)
  obtain ⟨⟨f, i⟩, -, heq⟩ := List.mem_map.mp hedge
  rw [← (Prod.mk.inj heq).2] at hid
  obtain ⟨g, hg, rfl⟩ := List.mem_map.mp hid
  obtain ⟨j, hj, hg⟩ := List.mem_filterMap.mp hg
  obtain ⟨callees, hcallees, hj⟩ := exists_of_mem_getD hj
  obtain ⟨_, -, rfl⟩ := List.mem_map.mp hcallees
  obtain ⟨v, id, hv, hj', rfl⟩ := getElem?_functions_iff.mp hg
  refine ⟨v, mem_identified_iff.mpr ⟨j, hv, hj'⟩, fun huncalled => ?_⟩
  have hcalled := (isCalled_eq_false_iff hv hg).mpr huncalled
  rw [isCalled_of_mem_calleesOf hj] at hcalled
  cases hcalled

/-- No edge leads to what is reported as dead. -/
theorem notMem_edges_of_dead (hnodup : (idsIn p.parsed).Nodup) (hid : id ∈ (analyze limit p).report.deadFunctions)
    {e : String × List String} (he : e ∈ (analyze limit p).report.edges) : id ∉ e.2 := by
  intro hmem
  obtain ⟨v, hv, hdead⟩ := mem_deadFunctions_iff.mp hid
  obtain ⟨v', hv', hcalled⟩ := exists_called_of_mem_edges he hmem
  obtain rfl := eq_of_mem_identified hnodup hv hv'
  exact hcalled hdead.uncalled

section Rearranged

/-! Files with paths of their own share no bases, so that what a file adds does not depend on where it stands. -/

variable {t : AstFile} {tree first : Nat} {trees' : List AstFile} {used : List String} {c' v' : Visit}

/-- The functions of one file. -/
def functionsOf (tree : Nat) (t : AstFile) : List Visit := (visitsOf tree t t.root.inside).filter Visit.isFunction

/-- The functions of a file with the ids they have if the file stands alone. -/
def identifiedOf (tree : Nat) (t : AstFile) : List (Visit × String) :=
  (functionsOf tree t).zip (IdCounts.numberedAfter [] ((functionsOf tree t).map Visit.base))

/-- Files that can be told apart by their paths. -/
structure Apart (trees : List AstFile) : Prop where
  distinct : (trees.map (·.path)).Nodup
  plain : ∀ t ∈ trees, ':' ∉ t.path.toList

theorem file_of_mem_functionsOf (h : v ∈ functionsOf tree t) : v.file = t := by
  obtain ⟨_, -, rfl⟩ := List.mem_map.mp (List.mem_filter.mp h).1
  rfl

/-- A base begins with the path of its file. -/
theorem path_eq_of_base_eq (hv : ':' ∉ v.file.path.toList) (hv' : ':' ∉ v'.file.path.toList) (h : v.base = v'.base) :
    v.file.path = v'.file.path := by
  have hbase (v : Visit) : v.base.toList = v.file.path.toList ++ ':' :: ':' :: v.qualified.toList := by
    simp [Visit.base]
  have hparts := congrArg (fun b => Text.splitChars ':' b.toList) h
  simp only [hbase, Text.splitChars_append hv, Text.splitChars_append hv'] at hparts
  exact String.toList_inj.mp (List.cons_eq_cons.mp hparts).1

theorem functionsFrom_cons (first : Nat) (t : AstFile) (trees : List AstFile) :
    (visitsFrom first (t :: trees)).filter Visit.isFunction =
      functionsOf first t ++ (visitsFrom (first + 1) trees).filter Visit.isFunction := by
  rw [visitsFrom_cons, List.filter_append]
  rfl

theorem file_of_mem_visitsFrom (h : v ∈ visitsFrom first trees) : v.file ∈ trees := by
  obtain ⟨⟨t, tree⟩, ht, hv⟩ := List.mem_flatMap.mp h
  obtain ⟨_, -, rfl⟩ := List.mem_map.mp hv
  exact (List.mem_zipIdx ht).2.2 ▸ List.getElem_mem _

theorem zip_functionsFrom (htrees : Apart trees)
    (hused : ∀ v ∈ (visitsFrom first trees).filter Visit.isFunction, v.base ∉ used) :
    ((visitsFrom first trees).filter Visit.isFunction).zip
        (IdCounts.numberedAfter used (((visitsFrom first trees).filter Visit.isFunction).map Visit.base)) =
      (trees.zipIdx first).flatMap fun (t, tree) => identifiedOf tree t := by
  induction trees generalizing first used with
  | nil => rfl
  | cons t trees ih =>
    obtain ⟨hdistinct, hplain⟩ := htrees
    obtain ⟨hnew, hdistinct⟩ := List.nodup_cons.mp hdistinct
    obtain ⟨ht, hplain⟩ := List.forall_mem_cons.mp hplain
    rw [functionsFrom_cons] at hused ⊢
    obtain ⟨hhere, hlater⟩ := List.forall_mem_append.mp hused
    have hfirst : IdCounts.numberedAfter used ((functionsOf first t).map Visit.base) =
        IdCounts.numberedAfter [] ((functionsOf first t).map Visit.base) := by
      have hnot : ∀ b ∈ (functionsOf first t).map Visit.base, b ∉ used := List.forall_mem_map.mpr hhere
      simpa using IdCounts.numberedAfter_of_notMem hnot []
    -- none of the files that follow shares a base with this one
    have hrest : ∀ v ∈ (visitsFrom (first + 1) trees).filter Visit.isFunction,
        v.base ∉ used ++ (functionsOf first t).map Visit.base := by
      intro v hv hmem
      rcases List.mem_append.mp hmem with hmem | hmem
      · exact hlater v hv hmem
      · obtain ⟨v', hv', hbase⟩ := List.mem_map.mp hmem
        have hfile := file_of_mem_visitsFrom (List.mem_filter.mp hv).1
        have hfile' := file_of_mem_functionsOf hv'
        have hpath := path_eq_of_base_eq (by rwa [hfile']) (hplain _ hfile) hbase
        rw [hfile'] at hpath
        exact hnew (List.mem_map.mpr ⟨v.file, hfile, hpath.symm⟩)
    rw [List.map_append, IdCounts.numberedAfter_append, List.zip_append, ih ⟨hdistinct, hplain⟩ hrest, hfirst,
      List.zipIdx_cons, List.flatMap_cons]
    · rfl
    · rw [IdCounts.length_numberedAfter, List.length_map]

theorem mem_identified_iff_of_apart (htrees : Apart trees) : (v, id) ∈ identified trees ↔
    trees[v.tree]? = some v.file ∧ (v, id) ∈ identifiedOf v.tree v.file := by
  have hpairs : identified trees = trees.zipIdx.flatMap fun (t, tree) => identifiedOf tree t :=
    zip_functionsFrom htrees fun _ _ => List.not_mem_nil
  rw [hpairs, List.mem_flatMap]
  constructor
  · rintro ⟨⟨t, tree⟩, ht, hmem⟩
    obtain ⟨_, -, rfl⟩ := List.mem_map.mp (List.mem_filter.mp (List.of_mem_zip hmem).1).1
    exact ⟨List.mem_zipIdx_iff_getElem?.mp ht, hmem⟩
  · rintro ⟨ht, hmem⟩
    exact ⟨(v.file, v.tree), List.mem_zipIdx_iff_getElem?.mpr ht, hmem⟩

/-- The node at the same place of the same file, where this file stands in another list. -/
def Visit.moved (v : Visit) (tree : Nat) : Visit := { v with tree := tree }

theorem functionsOf_moved (tree tree' : Nat) (t : AstFile) :
    functionsOf tree' t = (functionsOf tree t).map fun v => v.moved tree' := by
  unfold functionsOf visitsOf
  rw [List.filter_map, List.filter_map, List.map_map]
  rfl

theorem identifiedOf_moved (tree tree' : Nat) (t : AstFile) :
    identifiedOf tree' t = (identifiedOf tree t).map fun x => (x.1.moved tree', x.2) := by
  unfold identifiedOf
  rw [functionsOf_moved tree tree', List.map_map, List.zip_map_left]
  rfl

/-- A function keeps its id wherever its file stands. -/
theorem identified_moved (htrees : Apart trees) (htrees' : Apart trees') (hv : (v, id) ∈ identified trees)
    (htree : trees'[tree]? = some v.file) : (v.moved tree, id) ∈ identified trees' := by
  obtain ⟨-, hv⟩ := (mem_identified_iff_of_apart htrees).mp hv
  refine (mem_identified_iff_of_apart htrees').mpr ⟨htree, ?_⟩
  have hmoved : (v.moved tree, id) ∈ identifiedOf tree v.file := by
    rw [identifiedOf_moved v.tree tree]
    exact List.mem_map.mpr ⟨(v, id), hv, rfl⟩
  exact hmoved

theorem mem_visits_moved (hv : v ∈ visits trees) (htree : trees'[tree]? = some v.file) :
    v.moved tree ∈ visits trees' := mem_visits_iff.mpr ⟨htree, (mem_visits_iff.mp hv).2⟩

theorem exists_tree_of_perm (hperm : trees.Perm trees') (hv : v ∈ visits trees) :
    ∃ tree : Nat, trees'[tree]? = some v.file :=
  List.mem_iff_getElem?.mp (hperm.subset (List.mem_of_getElem? (mem_visits_iff.mp hv).1))

theorem mem_functions_of_perm (htrees : Apart trees) (htrees' : Apart trees') (hperm : trees.Perm trees')
    (hf : f ∈ (Harvest.ofTrees trees).functions) : f ∈ (Harvest.ofTrees trees').functions := by
  obtain ⟨v, id, hv, rfl⟩ := mem_functions_iff.mp hf
  obtain ⟨tree, htree⟩ := exists_tree_of_perm hperm (mem_visits_of_mem_identified hv)
  exact mem_functions_iff.mpr ⟨v.moved tree, id, identified_moved htrees htrees' hv htree, rfl⟩

theorem Apart.perm (htrees : Apart trees) (hperm : trees.Perm trees') : Apart trees' where
  distinct := (hperm.map _).nodup_iff.mp htrees.distinct
  plain t ht := htrees.plain t (hperm.mem_iff.mpr ht)

/-- Which functions are dead does not depend on where their files stand. -/
theorem IsDead.moved (htrees : Apart trees) (hperm : trees.Perm trees') (hv : v ∈ visits trees)
    (hdead : IsDead trees (Harvest.ofTrees trees).functions v f) (htree : trees'[tree]? = some v.file) :
    IsDead trees' (Harvest.ofTrees trees').functions (v.moved tree) f where
  entry := hdead.entry
  hook := hdead.hook
  uncalled c' hc' callee hcallee hdenotes := by
    have htrees' := htrees.perm hperm
    obtain ⟨k, hk⟩ := exists_tree_of_perm hperm.symm hc'
    have hdenotes : Denotes (Harvest.ofTrees trees).functions c'.file.path callee f := by
      refine ⟨hdenotes.1, hdenotes.2.imp_right fun hother g hg => hother g ?_⟩
      exact mem_functions_of_perm htrees htrees' hperm hg
    obtain ⟨hsame, hinside⟩ := hdead.uncalled _ (mem_visits_moved hc' hk) callee hcallee hdenotes
    refine ⟨?_, hinside⟩
    -- the call stands in the file of the function, which has one place only
    have hfile : c'.file = v.file := by
      have hcfile : trees[v.tree]? = some c'.file := hsame ▸ hk
      exact Option.some.inj (hcfile.symm.trans (mem_visits_iff.mp hv).1)
    have hplace := (mem_visits_iff.mp hc').1
    rw [hfile] at hplace
    obtain ⟨hlt, -⟩ := List.getElem?_eq_some_iff.mp hplace
    exact (List.getElem?_inj hlt htrees'.distinct.of_map).mp (hplace.trans htree.symm)

theorem mem_deadFunctions_of_perm {p p' : Project} {limit limit' : Nat} (htrees : Apart p.parsed)
    (hperm : p.parsed.Perm p'.parsed) (hid : id ∈ (analyze limit p).report.deadFunctions) :
    id ∈ (analyze limit' p').report.deadFunctions := by
  obtain ⟨v, hv, hdead⟩ := mem_deadFunctions_iff.mp hid
  have hvisit := mem_visits_of_mem_identified hv
  obtain ⟨tree, htree⟩ := exists_tree_of_perm hperm hvisit
  exact mem_deadFunctions_iff.mpr ⟨v.moved tree, identified_moved htrees (htrees.perm hperm) hv htree,
    hdead.moved htrees hperm hvisit htree⟩

end Rearranged

/-- A function is reported as dead exactly if nothing reaches it: it is no entry point and no hook, and every call in
a parsed file that may mean it stands in itself. No edge leads to it, and the order of the files does not count. -/
theorem dead_code_verdict (limit : Nat) (p : Project)
    (hnames : ∀ f ∈ (analyze limit p).report.functions, '#' ∉ f.name.toList) :
    List.Forall₂ (fun v f => f = v.record f.id ∧ (f.id ∈ (analyze limit p).report.deadFunctions ↔
        IsDead p.parsed (analyze limit p).report.functions v f))
      (functionsIn p.parsed) (analyze limit p).report.functions ∧
    (∀ id ∈ (analyze limit p).report.deadFunctions, ∀ e ∈ (analyze limit p).report.edges, id ∉ e.2) ∧
    (Apart p.parsed → ∀ p' : Project, p'.trees.Perm p.trees → ∀ id,
      id ∈ (analyze limit p').report.deadFunctions ↔ id ∈ (analyze limit p).report.deadFunctions) := by
  have hids : (idsIn p.parsed).Nodup := nodup_idsIn hnames
  refine ⟨?_, fun id hid e he => notMem_edges_of_dead hids hid he, fun hapart p' hperm id => ?_⟩
  · refine (identified_functions p.parsed).imp fun {v f} hvf => ⟨hvf.2, ?_⟩
    rw [mem_deadFunctions_iff]
    constructor
    · rintro ⟨v', hv', hdead⟩
      obtain rfl := eq_of_mem_identified hids hvf.1 hv'
      rwa [← hvf.2] at hdead
    · intro hdead
      refine ⟨v, hvf.1, ?_⟩
      rwa [← hvf.2]
  · have hparsed : p'.parsed.Perm p.parsed := hperm.filter _
    exact ⟨mem_deadFunctions_of_perm (hapart.perm hparsed.symm) hparsed, mem_deadFunctions_of_perm hapart hparsed.symm⟩

/-- Two functions of one name, each in a file of its own: the first one calls itself, the second one is called at
module level. -/
def twoParsers : Project where
  trees := [parser "util.ts" [call "util.ts" 2] [], parser "lib.ts" [] [call "lib.ts" 4]]
where
  call (file : String) (line : Nat) : AstNode :=
    { kind := .call, name := some "parse", location := .line file line }
  parser (file : String) (inside after : List AstNode) : AstFile :=
    let function := { kind := .function, name := some "parse", location := .line file 1, children := inside }
    .ofTree file .typescript
      { kind := .moduleScope, location := .fileStart file, children := function :: after } [] [] file .full

/-- The call in the other file means the function there. -/
theorem shadowed_parser_is_dead :
    (∀ f ∈ (analyze 10 twoParsers).report.functions, '#' ∉ f.name.toList) ∧ Apart twoParsers.parsed ∧
    (analyze 10 twoParsers).report.deadFunctions = ["util.ts::parse"] ∧
    (∃ v ∈ functionsIn twoParsers.parsed,
      IsDead twoParsers.parsed (analyze 10 twoParsers).report.functions v (v.record "util.ts::parse")) ∧
    (∀ e ∈ (analyze 10 twoParsers).report.edges, "util.ts::parse" ∉ e.2) ∧
    ∀ id, id ∈ (analyze 10 ⟨[], twoParsers.trees.reverse⟩).report.deadFunctions ↔ id = "util.ts::parse" := by
  have hnames : ∀ f ∈ (analyze 10 twoParsers).report.functions, '#' ∉ f.name.toList := by decide +kernel
  have hapart : Apart twoParsers.parsed := ⟨by decide +kernel, by decide +kernel⟩
  have hdead : (analyze 10 twoParsers).report.deadFunctions = ["util.ts::parse"] := by decide +kernel
  obtain ⟨hverdicts, hedges, horder⟩ := dead_code_verdict 10 twoParsers hnames
  refine ⟨hnames, hapart, hdead, ?_, hedges _ (by simp [hdead]), fun id => ?_⟩
  · have hfirst : ∃ f rest, (analyze 10 twoParsers).report.functions = f :: rest ∧ f.id = "util.ts::parse" :=
      ⟨_, _, rfl, by decide +kernel⟩
    obtain ⟨f, rest, hfunctions, hid⟩ := hfirst
    rw [hfunctions] at hverdicts ⊢
    obtain ⟨v, _, ⟨hrecord, hverdict⟩, -, hv⟩ := List.forall₂_cons_right_iff.mp hverdicts
    rw [hid] at hrecord hverdict
    refine ⟨v, by simp [hv], ?_⟩
    rw [← hrecord]
    exact hverdict.mp (by simp [hdead])
  · rw [horder hapart _ (List.reverse_perm _), hdead, List.mem_singleton]

end CodeAudit.Calling
