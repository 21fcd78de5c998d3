import CodeAudit.Proofs.Analysis.Dependencies
import Mathlib.Data.Set.Function

/-! The graph of a project and its dependency report are two views of one relation between files: the
graph names a file by its module and has edges to things outside and from a file to itself, the report
names it by its path and has neither. Cycles of several files are in both or in none. -/
namespace CodeAudit

section Cycles

variable {α β : Type} {R S : α → α → Prop}

/-- A way round takes only steps that another one follows, so that all others may be left out. -/
theorem exists_transGen_iff_of_followed (hSR : ∀ x y, S x y → R x y) (hRS : ∀ x y z, R x y → R y z → S x y) :
    (∃ a, Relation.TransGen R a a) ↔ ∃ a, Relation.TransGen S a a := by
  have hfollowed : ∀ {a b}, Relation.TransGen R a b → ∀ c, R b c → Relation.TransGen S a b := by
    intro a b hab
    induction hab with
    | single hstep => exact fun c hc => .single (hRS _ _ c hstep hc)
    | tail _ hstep ih => exact fun c hc => (ih _ hstep).tail (hRS _ _ c hstep hc)
  constructor
  · rintro ⟨a, h⟩
    obtain ⟨b, hab, -⟩ := Relation.TransGen.head'_iff.mp h
    exact ⟨a, hfollowed h b hab⟩
  · rintro ⟨a, h⟩
    exact ⟨a, Relation.TransGen.mono hSR _ _ h⟩

/-- Names that tell vertices apart keep the ways round. -/
theorem exists_transGen_map_iff {s : Set α} {name : α → β} (hname : s.InjOn name)
    (hR : ∀ x y, R x y → x ∈ s ∧ y ∈ s) :
    (∃ b, Relation.TransGen (Relation.Map R name name) b b) ↔ ∃ a, Relation.TransGen R a a := by
  have hback : ∀ {b c}, Relation.TransGen (Relation.Map R name name) b c →
      ∃ x ∈ s, ∃ y ∈ s, name x = b ∧ name y = c ∧ Relation.TransGen R x y := by
    intro b c h
    induction h with
    | single hstep =>
      obtain ⟨x, y, hxy, rfl, rfl⟩ := hstep
      exact ⟨x, (hR x y hxy).1, y, (hR x y hxy).2, rfl, rfl, .single hxy⟩
    | tail _ hstep ih =>
      obtain ⟨x, hx, y, hy, rfl, hyname, hpath⟩ := ih
      obtain ⟨y', z, hyz, hy', rfl⟩ := hstep
      -- two steps that meet in a name meet in a vertex
      obtain rfl : y = y' := hname hy (hR y' z hyz).1 (hyname.trans hy'.symm)
      exact ⟨x, hx, z, (hR y z hyz).2, rfl, rfl, hpath.tail hyz⟩
  constructor
  · rintro ⟨b, h⟩
    obtain ⟨x, hx, y, hy, hxname, hyname, hpath⟩ := hback h
    obtain rfl : x = y := hname hx hy (hxname.trans hyname.symm)
    exact ⟨x, hpath⟩
  · rintro ⟨a, h⟩
    exact ⟨name a, h.lift name fun x y hxy => ⟨x, y, hxy, rfl, rfl⟩⟩

end Cycles

variable {files : List AstFile} {f h : AstFile} {p : Project} {limit : Nat}

/-- Of the files, `f` imports another one, `h`. -/
def AstFile.Needs (files : List AstFile) (f h : AstFile) : Prop :=
  (f ∈ files ∧ h ∈ files) ∧ f ≠ h ∧ f.Imports files h

/-- A project made of these files, each with its tree. -/
structure Project.Holds (p : Project) (files : List AstFile) : Prop where
  trees : p.trees = files
  parsed : ∀ f ∈ files, f.hasError = false
  paths : ∀ path, path ∈ p.paths ↔ path ∈ files.map AstFile.modulePath

theorem Project.Holds.parsed_eq (hp : p.Holds files) : p.parsed = files := by
  rw [Project.parsed, hp.trees, List.filter_eq_self]
  intro f hf
  simp [hp.parsed f hf]

theorem Project.Holds.depends_eq (hp : p.Holds files) (hpaths : (files.map AstFile.modulePath).Nodup) :
    Coupling.Depends (Coupling.analyze limit p).report.edges =
      Relation.Map (AstFile.Needs files) AstFile.modulePath AstFile.modulePath := by
  funext a b
  rw [eq_iff_iff, Coupling.depends_analyze_iff, hp.parsed_eq]
  constructor
  · rintro ⟨f, hf, rfl, hne, i, hi, hresolve⟩
    rw [Path.resolveImport_congr hp.paths] at hresolve
    obtain ⟨h, hh, rfl⟩ := List.mem_map.mp (Path.mem_of_resolveImport hresolve)
    refine ⟨f, h, ⟨⟨hf, hh⟩, ?_, i, hi, hresolve⟩, rfl, rfl⟩
    rintro rfl
    exact hne rfl
  · rintro ⟨f, h, ⟨⟨hf, hh⟩, hne, i, hi, hresolve⟩, rfl, rfl⟩
    refine ⟨f, hf, rfl, ?_, i, hi, ?_⟩
    · intro heq
      exact hne (List.inj_on_of_nodup_map hpaths hf hh heq.symm)
    · rw [Path.resolveImport_congr hp.paths, hresolve]

/-- The graph has a way round through several vertices exactly if the files have one: an edge to
something outside leads no further. -/
theorem CodeGraph.exists_transGen_link_iff (hpaths : (files.map AstFile.modulePath).Nodup)
    (hids : (files.map AstFile.moduleId).Nodup) :
    (∃ v, Relation.TransGen (CodeGraph.ofFiles files).importAdjacency.Link v v) ↔
      ∃ v, Relation.TransGen (Relation.Map (AstFile.Needs files) AstFile.moduleId AstFile.moduleId) v v := by
  apply exists_transGen_iff_of_followed
  · rintro _ _ ⟨f, h, ⟨⟨hf, hh⟩, hne, himports⟩, rfl, rfl⟩
    refine ⟨?_, ?_⟩
    · intro heq
      exact hne (List.inj_on_of_nodup_map hids hf hh heq)
    · rw [edge_importAdjacency_iff, importEdge_moduleId_iff hpaths hids hf hh]
      exact himports
  · rintro a b c ⟨hne, hab⟩ ⟨-, hbc⟩
    rw [edge_importAdjacency_iff] at hab hbc
    obtain ⟨f, hf, rfl, -⟩ := (importEdge_iff hpaths).mp hab
    obtain ⟨h, hh, rfl, -⟩ := (importEdge_iff hpaths).mp hbc
    refine ⟨f, h, ⟨⟨hf, hh⟩, ?_, (importEdge_moduleId_iff hpaths hids hf hh).mp hab⟩, rfl, rfl⟩
    rintro rfl
    exact hne rfl

/-- The graph and the dependency report agree: one has a cycle of several modules exactly if the other
has a cycle, a module imports another one exactly if its file depends on the other's, and nothing but
files is in a dependency. -/
theorem graph_and_report_agree (limit : Nat) (hpaths : (files.map AstFile.modulePath).Nodup)
    (hids : (files.map AstFile.moduleId).Nodup) (hp : p.Holds files) :
    let graph := CodeGraph.ofFiles files
    let report := (Coupling.analyze limit p).report
    ((∃ c ∈ graph.cycles, 2 ≤ c.length) ↔ report.cycles ≠ []) ∧
      (∀ f ∈ files, ∀ h ∈ files,
        (f ≠ h ∧ graph.ImportEdge f.moduleId h.moduleId) ↔ Coupling.Depends report.edges f.modulePath h.modulePath) ∧
      ∀ a b, Coupling.Depends report.edges a b → ∃ f ∈ files, ∃ h ∈ files, f.modulePath = a ∧ h.modulePath = b := by
  have hneeds : ∀ f h, AstFile.Needs files f h → f ∈ {f | f ∈ files} ∧ h ∈ {f | f ∈ files} := fun _ _ => And.left
  have hpathInj : Set.InjOn AstFile.modulePath {f | f ∈ files} :=
    fun _ hf _ hh heq => List.inj_on_of_nodup_map hpaths hf hh heq
  have hidInj : Set.InjOn AstFile.moduleId {f | f ∈ files} :=
    fun _ hf _ hh heq => List.inj_on_of_nodup_map hids hf hh heq
  refine ⟨?_, ?_, ?_⟩
  · rw [CodeGraph.cycles, Adjacency.exists_long_cycle_iff, CodeGraph.exists_transGen_link_iff hpaths hids,
      Coupling.cycles_analyze_ne_nil_iff, hp.depends_eq hpaths, exists_transGen_map_iff hidInj hneeds,
      exists_transGen_map_iff hpathInj hneeds]
  · intro f hf h hh
    rw [CodeGraph.importEdge_moduleId_iff hpaths hids hf hh, hp.depends_eq hpaths]
    constructor
    · rintro ⟨hne, himports⟩
      exact ⟨f, h, ⟨⟨hf, hh⟩, hne, himports⟩, rfl, rfl⟩
    · rintro ⟨f', h', ⟨⟨hf', hh'⟩, hne, himports⟩, hfpath, hhpath⟩
      obtain rfl := hpathInj hf' hf hfpath
      obtain rfl := hpathInj hh' hh hhpath
      exact ⟨hne, himports⟩
  · intro a b hab
    rw [hp.depends_eq hpaths] at hab
    obtain ⟨f, h, ⟨⟨hf, hh⟩, -⟩, rfl, rfl⟩ := hab
    exact ⟨f, hf, h, hh, rfl, rfl⟩

/-- Two files that import each other, one of them also a package, and one that imports itself. -/
def tangledFiles : List AstFile :=
  [.ofImports "src/a.ts" .typescript ["./b", "react"], .ofImports "./src/b.ts" .typescript ["../src/a.ts"],
    .ofImports "src/c.ts" .typescript ["./c"]]

def tangledProject : Project where
  files := tangledFiles.map fun f => .unloaded f.path 0
  trees := tangledFiles

theorem tangled_views_agree :
    (tangledFiles.map AstFile.modulePath).Nodup ∧ (tangledFiles.map AstFile.moduleId).Nodup ∧
      tangledProject.Holds tangledFiles ∧
      (∃ c ∈ (CodeGraph.ofFiles tangledFiles).cycles, 2 ≤ c.length) ∧
      (Coupling.analyze 10 tangledProject).report.cycles ≠ [] ∧
      ∀ f ∈ tangledFiles, ∀ h ∈ tangledFiles,
        (f ≠ h ∧ (CodeGraph.ofFiles tangledFiles).ImportEdge f.moduleId h.moduleId) ↔
          Coupling.Depends (Coupling.analyze 10 tangledProject).report.edges f.modulePath h.modulePath := by
  have hpaths : (tangledFiles.map AstFile.modulePath).Nodup := by decide +kernel
  have hids : (tangledFiles.map AstFile.moduleId).Nodup := by decide +kernel
  have hholds : tangledProject.Holds tangledFiles := by
    refine ⟨rfl, by decide +kernel, fun path => ?_⟩
    rw [tangledProject, Project.paths, List.map_map]
    rfl
  obtain ⟨hcycles, hedges, -⟩ := graph_and_report_agree 10 hpaths hids hholds
  have hround : ∃ c ∈ (CodeGraph.ofFiles tangledFiles).cycles, 2 ≤ c.length := by
    rw [CodeGraph.cycles, Adjacency.exists_long_cycle_iff]
    have there : (CodeGraph.ofFiles tangledFiles).ImportEdge "typescript:src/a" "typescript:src/b" := by
      unfold CodeGraph.ImportEdge
      decide +kernel
    have back : (CodeGraph.ofFiles tangledFiles).ImportEdge "typescript:src/b" "typescript:src/a" := by
      unfold CodeGraph.ImportEdge
      decide +kernel
    rw [← CodeGraph.edge_importAdjacency_iff] at there back
    exact ⟨"typescript:src/a", .tail (.single ⟨by decide, there⟩) ⟨by decide, back⟩⟩
  exact ⟨hpaths, hids, hholds, hround, hcycles.mp hround, hedges⟩

end CodeAudit
