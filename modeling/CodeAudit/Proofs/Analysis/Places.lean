import CodeAudit.Analysis.Complexity
import CodeAudit.Analysis.Layering
import CodeAudit.Proofs.Analysis.Chains
import CodeAudit.Proofs.Analysis.Dependencies
import CodeAudit.Proofs.Analysis.Visits
import CodeAudit.Proofs.Sorting
import CodeAudit.Proofs.Outline.Located

/-! Where the findings of the analyses lie. Each lies in a file of the project; those on directories
and on imports name it by its normal form, all others as the project does. -/
namespace CodeAudit

/-- The kinds whose findings name a file by its normal form. -/
def FindingKind.isProjectWide : FindingKind → Bool
  | layerViolation | deepNesting | fatModule | circularDependency | highCoupling => true
  | _ => false

namespace Project

/-- Trees of files of the project, whose nodes lie in these files. -/
structure Grounded (p : Project) : Prop where
  located : ∀ t ∈ p.trees, t.Located
  sources : ∀ t ∈ p.trees, ∃ f ∈ p.files, t.path = f.path

variable {p : Project} {t : AstFile} {x : Finding}

theorem mem_trees_of_mem_parsed (ht : t ∈ p.parsed) : t ∈ p.trees := (List.mem_filter.mp ht).1

/-- The finding lies in a file of the project, which it names as its kind has it. -/
def Places (p : Project) (x : Finding) : Prop :=
  ∃ f ∈ p.files, x.location.file = if x.kind.isProjectWide then Path.normalize f.path else f.path

theorem Grounded.places_of_path (hp : p.Grounded) (ht : t ∈ p.trees) (hkind : x.kind.isProjectWide = false)
    (hx : x.location.file = t.path) : p.Places x := by
  obtain ⟨f, hf, hpath⟩ := hp.sources t ht
  refine ⟨f, hf, ?_⟩
  rw [hkind, hx, hpath]
  rfl

theorem Grounded.places_of_normalize (hp : p.Grounded) (ht : t ∈ p.trees) (hkind : x.kind.isProjectWide = true)
    (hx : x.location.file = Path.normalize t.path) : p.Places x := by
  obtain ⟨f, hf, hpath⟩ := hp.sources t ht
  refine ⟨f, hf, ?_⟩
  rw [if_pos hkind, hx, hpath]

end Project

namespace Complexity

variable {p : Project} {threshold limit : Nat} {x : Finding}

theorem of_mem_measure {content : String} {t : AstFile} (ht : t.Located)
    (hx : x ∈ (measure threshold limit content t).findings) :
    x.location.file = t.path ∧ x.kind.isProjectWide = false := by
  have hlong : ∀ {x : Finding}, x ∈ (if limit < (Text.lines content).length
      then [fileFinding limit t.path (Text.lines content).length] else []) →
      x.location.file = t.path ∧ x.kind.isProjectWide = false := by
    intro x hx
    split at hx
    · rw [List.mem_singleton.mp hx]
      exact ⟨rfl, rfl⟩
    · cases hx
  unfold measure at hx
  simp only at hx
  split at hx
  · exact hlong hx
  · rcases List.mem_append.mp hx with hx | hx
    · exact hlong hx
    · obtain ⟨⟨function, record⟩, hmem, rfl⟩ := List.mem_map.mp hx
      obtain ⟨f, hf, heq⟩ := List.mem_map.mp (List.mem_filter.mp hmem).1
      cases heq
      exact ⟨ht function (List.mem_filter.mp hf).1, rfl⟩

theorem places_of_mem_findings (hp : p.Grounded) (hx : x ∈ (analyze threshold limit p).findings) : p.Places x := by
  refine List.foldlRecOn (motive := fun all : Analysis Report => ∀ x ∈ all.findings, p.Places x) p.trees _
    (by simp) ?_ x hx
  intro all hall t ht
  cases p.content? t.path with
  | none => exact hall
  | some content =>
    refine List.forall_mem_append.mpr ⟨hall, fun x hx => ?_⟩
    obtain ⟨hfile, hkind⟩ := of_mem_measure (hp.located t ht) hx
    exact hp.places_of_path ht hkind hfile

end Complexity

theorem AstNode.LiesIn.at? {root n : AstNode} {path : String} {way : List Nat} (hroot : root.LiesIn path)
    (hn : root.at? way = some n) : n.LiesIn path := by
  induction way generalizing n with
  | nil =>
    obtain rfl := Option.some.inj hn
    exact hroot
  | cons i up ih =>
    obtain ⟨m, hm, hn⟩ := Option.bind_eq_some_iff.mp hn
    exact (AstNode.liesIn_iff.mp (ih hm)).2 n (List.mem_of_getElem? hn)

namespace Calling

variable {p : Project} {limit : Nat} {x : Finding}

theorem file_of_mem_functions {trees : List AstFile} {f : FunctionRecord} (hlocated : ∀ t ∈ trees, t.Located)
    (hf : f ∈ (Harvest.ofTrees trees).functions) : ∃ t ∈ trees, f.location.file = t.path := by
  obtain ⟨v, id, hv, rfl⟩ := mem_functions_iff.mp hf
  obtain ⟨htree, -, hnode⟩ := mem_visits_iff.mp (mem_visits_of_mem_identified hv)
  have ht := List.mem_of_getElem? htree
  have hroot : v.file.root.LiesIn v.file.path := hlocated v.file ht
  exact ⟨v.file, ht, (AstNode.liesIn_iff.mp (hroot.at? hnode)).1⟩

/-- The functions of a chain begin with the one it starts at. -/
theorem head?_records {functions : List FunctionRecord} {callees : Nat → List Nat} {limit budget start : Nat}
    {f : FunctionRecord} {chain : List Nat} (hf : functions[start]? = some f)
    (h : deepChain? callees limit budget start = some chain) :
    (chain.filterMap fun i => functions[i]?).head? = some f := by
  obtain ⟨rest, rfl⟩ := List.head?_eq_some_iff.mp (isCallChain_of_deepChain? h).starts
  rw [List.filterMap_cons_some hf, List.head?_cons]

theorem location_chainFinding {chain : List FunctionRecord} {f : FunctionRecord} (h : chain.head? = some f) :
    (chainFinding limit chain).location = f.location := by
  have hplace : (chainFinding limit chain).location = (chain.head?.map (·.location)).getD {} := rfl
  rw [hplace, h]
  rfl

theorem places_of_mem_findings (hp : p.Grounded) (hx : x ∈ (analyze limit p).findings) : p.Places x := by
  have hfunctions : ∀ f ∈ (Harvest.ofTrees p.parsed).functions, ∃ t ∈ p.trees, f.location.file = t.path := by
    intro f hf
    obtain ⟨t, ht, hfile⟩ := file_of_mem_functions (fun t ht => hp.located t (Project.mem_trees_of_mem_parsed ht)) hf
    exact ⟨t, Project.mem_trees_of_mem_parsed ht, hfile⟩
  rcases List.mem_append.mp hx with hx | hx
  · obtain ⟨f, hf, rfl⟩ := List.mem_map.mp hx
    obtain ⟨⟨g, i⟩, hmem, rfl⟩ := List.mem_map.mp hf
    have hg := List.mem_zipIdx_iff_getElem?.mp (List.mem_filter.mp hmem).1
    obtain ⟨t, ht, hfile⟩ := hfunctions g (List.mem_of_getElem? hg)
    exact hp.places_of_path ht rfl hfile
  · obtain ⟨chain, hchain, rfl⟩ := List.mem_map.mp hx
    obtain ⟨start, hstart, hrecords⟩ := List.mem_filterMap.mp hchain
    obtain ⟨is, hdeep, rfl⟩ := Option.map_eq_some_iff.mp hrecords
    obtain ⟨⟨g, i⟩, hmem, rfl⟩ := List.mem_map.mp hstart
    have hg := List.mem_zipIdx_iff_getElem?.mp (List.mem_filter.mp hmem).1
    obtain ⟨t, ht, hfile⟩ := hfunctions g (List.mem_of_getElem? hg)
    refine hp.places_of_path ht rfl ?_
    rw [location_chainFinding (head?_records hg hdeep), hfile]

end Calling

namespace Layering

variable {p : Project} {maxDepth maxFiles : Nat} {x : Finding}

theorem headD_files_mem {m : ModuleRecord} (hm : m ∈ modules p) : m.files.headD "" ∈ p.paths := by
  obtain ⟨⟨dir, files⟩, hgroup, rfl⟩ := List.mem_map.mp hm
  obtain ⟨hne, hfiles⟩ := Keyed.of_mem_groups hgroup
  obtain ⟨path, hpath, heq⟩ := List.mem_map.mp (hfiles _ (Text.headD_sortedDistinct_mem hne))
  cases heq
  exact hpath

theorem of_mem_moduleFindings {m : ModuleRecord} (hx : x ∈ moduleFindings maxDepth maxFiles m) :
    x.location.file = m.files.headD "" ∧ x.kind.isProjectWide = true := by
  have hone : ∀ {c : Prop} [Decidable c] {y : Finding}, x ∈ (if c then [y] else []) → x = y := by
    intro c _ y hx
    split at hx
    · exact List.mem_singleton.mp hx
    · cases hx
  rcases List.mem_append.mp hx with hx | hx
  · rw [hone hx]
    exact ⟨rfl, rfl⟩
  · rw [hone hx]
    exact ⟨rfl, rfl⟩

theorem source_of_mem_crossingsOf {known : List String} {t : AstFile} {c : Crossing}
    (hc : c ∈ crossingsOf known t) : c.source = Path.normalize t.path := by
  unfold crossingsOf at hc
  simp only at hc
  split at hc
  · cases hc
  · obtain ⟨i, -, hi⟩ := List.mem_filterMap.mp hc
    split at hi
    · cases hi
    · split at hi
      · cases hi
      · cases hi
        rfl

theorem places_of_mem_findings (hp : p.Grounded) (hx : x ∈ (analyze maxDepth maxFiles p).findings) : p.Places x := by
  rcases List.mem_append.mp hx with hx | hx
  · obtain ⟨m, hm, hx⟩ := List.mem_flatMap.mp hx
    obtain ⟨hfile, hkind⟩ := of_mem_moduleFindings hx
    obtain ⟨f, hf, hpath⟩ := List.mem_map.mp (headD_files_mem hm)
    refine ⟨f, hf, ?_⟩
    rw [if_pos hkind, hfile, hpath]
  · obtain ⟨c, hc, rfl⟩ := List.mem_map.mp hx
    obtain ⟨t, ht, hc⟩ := List.mem_flatMap.mp hc
    exact hp.places_of_normalize (Project.mem_trees_of_mem_parsed ht) rfl (source_of_mem_crossingsOf hc)

end Layering

theorem headD_canonicalCycle_mem {c : List String} (hc : c ≠ []) : (canonicalCycle c).headD "" ∈ c := by
  have hrotate : ∀ n, (c.rotateLeft n).Perm c := by
    intro n
    unfold List.rotateLeft
    simp only
    split
    · exact .refl c
    · exact List.perm_append_comm.trans (.of_eq (List.take_append_drop _ c))
  have hperm : (canonicalCycle c).Perm c := by
    cases c with
    | nil => exact .refl []
    | cons s rest => exact hrotate _
  cases hcanonical : canonicalCycle c with
  | nil =>
    rw [hcanonical] at hperm
    exact absurd hperm.nil_eq.symm hc
  | cons s rest =>
    rw [hcanonical] at hperm
    exact hperm.subset List.mem_cons_self

namespace Coupling

variable {p : Project} {limit : Nat} {x : Finding}

theorem findings_addImport (known : List String) (importer : String) (t : Tally) (i : ImportInfo) :
    (t.addImport known importer i).findings = t.findings := by
  unfold Tally.addImport
  split
  · split <;> rfl
  · rfl
  · rfl
  · rfl

theorem findings_foldl_addImport (known : List String) (importer : String) (imports : List ImportInfo) (t : Tally) :
    (imports.foldl (Tally.addImport known importer) t).findings = t.findings := by
  induction imports generalizing t with
  | nil => rfl
  | cons i rest ih => rw [List.foldl_cons, ih, findings_addImport]

theorem places_of_mem_findings (hp : p.Grounded) (hx : x ∈ (analyze limit p).findings) : p.Places x := by
  rcases List.mem_append.mp hx with hx | hx
  · refine List.foldlRecOn (motive := fun t : Tally => ∀ x ∈ t.findings, p.Places x) p.parsed
      (Tally.addFile p.paths limit) (by simp) ?_ x hx
    intro tally hall t ht
    unfold Tally.addFile
    simp only [findings_foldl_addImport]
    refine List.forall_mem_append.mpr ⟨hall, fun x hx => ?_⟩
    split at hx
    · rw [List.mem_singleton.mp hx]
      exact hp.places_of_normalize (Project.mem_trees_of_mem_parsed ht) rfl rfl
    · cases hx
  · obtain ⟨c, hc, rfl⟩ := List.mem_map.mp hx
    obtain ⟨cycle, hcycle, rfl⟩ := List.mem_map.mp (List.mem_eraseDups.mp hc)
    have hisCycle := Adjacency.isCycle_of_mem_cycles hcycle
    have hne : cycle ≠ [] := by
      obtain ⟨last, _, hlast, -⟩ := hisCycle.closed
      rintro rfl
      cases hlast
    obtain ⟨w, hedge⟩ := hisCycle.exists_edge (headD_canonicalCycle_mem hne)
    have hreads := reads_foldl_addFile p.paths limit p.parsed
    obtain ⟨t, ht, hpath, -⟩ := (hreads.edges _ w).mp ((hreads.adjacency _ w).mp hedge)
    exact hp.places_of_normalize (Project.mem_trees_of_mem_parsed ht) rfl hpath.symm

end Coupling
end CodeAudit
