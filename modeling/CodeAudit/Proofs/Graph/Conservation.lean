import CodeAudit.Proofs.Graph.Calls
import CodeAudit.Proofs.Graph.Reordering

/-! No import is lost in a graph, and no call that is resolved. The statements and call sites of all files are merged
into one edge for each two ends; the edge is made by the first of them, and each further one adds one to its weight. -/
namespace CodeAudit

def Relation.ends (r : Relation) : Ends := ⟨r.source, r.target⟩

namespace AstFile

/-- The id of what an import leads to: the module of a file, or something outside. -/
def targetOf (files : List AstFile) (f : AstFile) (i : ImportInfo) : String :=
  match Path.resolveImport f.modulePath i.source (files.map modulePath) with
  | some path => ((files.find? fun h => h.modulePath = path).map moduleId).getD (Entity.externalId i.source)
  | none => Entity.externalId i.source

/-- The imports of all files that lead from one end to the other, in their order. -/
def importsBetween (files : List AstFile) (e : Ends) : List ImportInfo :=
  files.flatMap fun f => f.imports.filter fun i => f.moduleId = e.source ∧ targetOf files f i = e.target

/-- The call sites of all files. -/
def callSites (files : List AstFile) : List (AstFile × String) := files.flatMap fun f => f.callees.map (f, ·)

end AstFile

/-- The edge that imports with the same ends give: its place is the one of the first import, and it stands for run
time only if all of them do. -/
def importEdge? (e : Ends) : List ImportInfo → Option Relation
  | [] => none
  | i :: rest => some ⟨e.source, e.target, .imports, rest.length + 1, (i :: rest).all (·.isDynamic), some ⟨i.source, i.line⟩⟩

namespace GraphDraft

variable {d : GraphDraft} {files : List AstFile} {f : AstFile} {e : Ends}

theorem foldl_mergeImport_some (rs : List ImportReference) (x : Relation) :
    rs.foldl (fun old r => some (mergeImport r (d.endsOf r) old)) (some x) =
      some { x with
        weight := x.weight + rs.length
        conditional := x.conditional && rs.all (·.statement.isDynamic) } := by
  induction rs generalizing x with
  | nil => simp
  | cons r rs ih =>
    rw [List.foldl_cons, mergeImport, ih, List.length_cons, List.all_cons, Bool.and_assoc, Nat.add_assoc, Nat.add_comm 1]

/-- Imports with the same ends are merged one after the other. -/
theorem get?_mergedImports_eq (d : GraphDraft) (e : Ends) : d.mergedImports.get? e =
    importEdge? e ((d.imports.filter fun r => d.endsOf r = e).map (·.statement)) := by
  have hends : ∀ r ∈ d.imports.filter fun r => d.endsOf r = e, d.endsOf r = e := by simp
  rw [get?_mergedImports]
  generalize (d.imports.filter fun r => d.endsOf r = e) = rs at hends ⊢
  cases rs with
  | nil => rfl
  | cons r rs =>
    rw [List.foldl_cons, mergeImport, foldl_mergeImport_some, hends r List.mem_cons_self, List.map_cons, importEdge?]
    simp [Nat.add_comm, Function.comp_def]

theorem ends_importEdges (d : GraphDraft) : d.importEdges.map Relation.ends = d.mergedImports.keys := by
  rw [importEdges_eq, Keyed.values, Keyed.keys, List.map_map]
  apply List.map_congr_left
  intro x hx
  have himport := get?_mergedImports_isImport (Keyed.get?_of_mem d.sorted_mergedImports hx)
  simp [Relation.ends, himport.source, himport.target]

theorem mem_importEdges_iff {r : Relation} : r ∈ d.importEdges ↔
    importEdge? r.ends ((d.imports.filter fun i => d.endsOf i = r.ends).map (·.statement)) = some r := by
  rw [← get?_mergedImports_eq]
  constructor
  · intro hr
    obtain ⟨⟨e, x⟩, hmem, rfl⟩ := List.mem_map.mp hr
    have hget := Keyed.get?_of_mem d.sorted_mergedImports hmem
    have himport := get?_mergedImports_isImport hget
    have hends : x.ends = e := by rw [Relation.ends, himport.source, himport.target]
    rw [hends]
    exact hget
  · intro hget
    exact List.mem_map.mpr ⟨_, Keyed.mem_of_get? hget, rfl⟩

theorem total_importEdges (d : GraphDraft) : total (d.importEdges.map (·.weight)) = d.imports.length := by
  have htotal := Keyed.total_foldl_alter Relation.weight d.endsOf
    (f := fun r => mergeImport r (d.endsOf r)) (fun _ => rfl) (fun _ _ => rfl) d.imports []
  rw [importEdges_eq, mergedImports, htotal]
  simp [Keyed.values]

theorem Gathered.importTarget_eq (hd : Gathered files d) (hpaths : (files.map AstFile.modulePath).Nodup)
    (f : AstFile) (i : ImportInfo) :
    d.importTarget ⟨f.moduleId, f.modulePath, i⟩ = AstFile.targetOf files f i := by
  rw [AstFile.targetOf]
  cases hresolve : Path.resolveImport f.modulePath i.source (files.map AstFile.modulePath) with
  | none => exact hd.importTarget_of_none hresolve
  | some path =>
    obtain ⟨h, hh, rfl⟩ := List.mem_map.mp (Path.mem_of_resolveImport hresolve)
    have hfind : (files.find? fun g => g.modulePath = h.modulePath) = some h :=
      (Keyed.find?_eq_some_iff fun _ hx _ hy heq => List.inj_on_of_nodup_map hpaths hx hy heq).mpr ⟨hh, rfl⟩
    rw [hd.importTarget_of_some hh hresolve]
    simp [hfind]

theorem Gathered.filter_imports (hd : Gathered files d) (hpaths : (files.map AstFile.modulePath).Nodup) (e : Ends) :
    (d.imports.filter fun r => d.endsOf r = e).map (·.statement) = AstFile.importsBetween files e := by
  rw [hd.imports, List.filter_flatMap, List.map_flatMap, AstFile.importsBetween]
  apply List.flatMap_congr
  intro f _
  rw [AstFile.importReferences, List.filter_map, List.map_map]
  have hid : (ImportReference.statement ∘ (⟨f.moduleId, f.modulePath, ·⟩ : ImportInfo → ImportReference)) = id := rfl
  rw [hid, List.map_id]
  apply List.filter_congr
  intro i _
  rw [Function.comp_apply, endsOf, hd.importTarget_eq hpaths, decide_eq_decide, Ends.mk.injEq]

theorem ends_callEdges (d : GraphDraft) : (d.callEdges.map Relation.ends).Nodup := by
  rw [callEdges, List.map_map]
  exact Keyed.nodup_keys (Keyed.sorted_counts _)

/-- Each call that is resolved counts. -/
theorem total_callEdges (d : GraphDraft) : total (d.callEdges.map (·.weight)) =
    d.calls.countP fun c => (d.resolveName? [.function] c.moduleId c.callee).isSome := by
  rw [callEdges, List.map_map]
  change total (Keyed.counts _).values = _
  rw [Keyed.total_counts, List.length_filterMap_eq_countP]
  simp

end GraphDraft

namespace CodeGraph

variable {files : List AstFile} {f : AstFile} {name callee : String}

def functionsNamed (g : CodeGraph) (name : String) : List Entity :=
  g.entities.filter fun e => e.kind = .function ∧ e.name = name

/-- A call by a file leads somewhere: to a function of its own module or to the only function of that name. -/
def Resolves (g : CodeGraph) (f : AstFile) (callee : String) : Prop :=
  (∃ e ∈ g.functionsNamed callee, f.Contains e) ∨ (g.functionsNamed callee).length = 1

instance (g : CodeGraph) (f : AstFile) (callee : String) : Decidable (g.Resolves f callee) :=
  inferInstanceAs (Decidable (_ ∨ _))

/-- A call by a file is resolved: as above, but a file with an empty path has no functions of its own. -/
def ResolvesByPath (g : CodeGraph) (f : AstFile) (callee : String) : Prop :=
  (f.modulePath ≠ "" ∧ ∃ e ∈ g.functionsNamed callee, f.Contains e) ∨ (g.functionsNamed callee).length = 1

instance (g : CodeGraph) (f : AstFile) (callee : String) : Decidable (g.ResolvesByPath f callee) :=
  inferInstanceAs (Decidable (_ ∨ _))

/-- How many calls the edges of a graph stand for. -/
def callWeight (g : CodeGraph) : Nat := total ((g.edges.filter fun r => r.kind = .calls).map (·.weight))

/-- How many calls of the files should be in their graph. -/
def resolvable (files : List AstFile) : Nat :=
  (AstFile.callSites (AstFile.accepted files)).countP fun x => (ofFiles files).Resolves x.1 x.2

theorem mem_callSites_iff {x : AstFile × String} : x ∈ AstFile.callSites files ↔ x.1 ∈ files ∧ x.2 ∈ x.1.callees := by
  simp only [AstFile.callSites, List.mem_flatMap, List.mem_map]
  constructor
  · rintro ⟨f, hf, callee, hcallee, rfl⟩
    exact ⟨hf, hcallee⟩
  · rintro ⟨hf, hcallee⟩
    exact ⟨x.1, hf, x.2, hcallee, rfl⟩

theorem length_imports (files : List AstFile) :
    (files.flatMap AstFile.importReferences).length = total (files.map (·.imports.length)) := by
  induction files with
  | nil => rfl
  | cons f files ih =>
    rw [List.flatMap_cons, List.length_append, ih, AstFile.importReferences, List.length_map, List.map_cons, total_cons]

theorem countP_eq_countP_iff {α : Type} {p q : α → Bool} {xs : List α} (h : ∀ x ∈ xs, p x = true → q x = true) :
    xs.countP p = xs.countP q ↔ ∀ x ∈ xs, q x = true → p x = true := by
  induction xs with
  | nil => simp
  | cons x xs ih =>
    have hrest : ∀ y ∈ xs, p y = true → q y = true := fun y hy => h y (List.mem_cons_of_mem _ hy)
    have hle := List.countP_mono_left hrest
    have hx := h x List.mem_cons_self
    rw [List.countP_cons, List.countP_cons, List.forall_mem_cons, ← ih hrest]
    cases hp : p x <;> cases hq : q x <;> simp [hp, hq] at hx ⊢
    omega

theorem mem_functionsNamed {e : Entity} (he : e ∈ (ofFiles files).functionsNamed name) :
    ∃ h ∈ AstFile.accepted files, h.Contains e := by
  obtain ⟨hmem, hkind⟩ := List.mem_filter.mp he
  have htyped := GraphDraft.addFiles_typed (AstFile.accepted files)
  have hfunctions := (GraphDraft.addFiles_functionsOf (AstFile.accepted files)).addExternals htyped
  rw [GraphDraft.addFiles_accepted] at hfunctions
  obtain ⟨h, hh, hid⟩ := hfunctions e.id e ((ordered_ofFiles files).node?_of_mem hmem) (of_decide_eq_true hkind).1
  exact ⟨h, hh, AstFile.contains_iff.mpr hid⟩

/-- The graph resolves calls as far as paths go. -/
theorem resolveName?_isSome_iff (hcolon : ∀ f ∈ files, ':' ∉ f.path.toList) (hf : f ∈ AstFile.accepted files) :
    ((GraphDraft.addFiles {} files).addExternals.resolveName? [.function] f.moduleId callee).isSome = true ↔
      (ofFiles files).ResolvesByPath f callee := by
  have hnamed : ((GraphDraft.addFiles {} files).addExternals.nodes.values.filter fun e =>
      [EntityKind.function].contains e.kind && e.name == callee) = (ofFiles files).functionsNamed callee := by
    apply List.filter_congr
    intro e _
    rw [Bool.eq_iff_iff]
    simp
  have hmodule : ∀ e ∈ (ofFiles files).functionsNamed callee,
      GraphDraft.moduleOf e.id = f.moduleId ↔ f.modulePath ≠ "" ∧ f.Contains e := by
    intro e he
    obtain ⟨h, hh, hcontains⟩ := mem_functionsNamed he
    exact GraphDraft.moduleOf_eq_iff (hcolon f (AstFile.mem_of_mem_accepted hf)) (hcolon h (AstFile.mem_of_mem_accepted hh))
      hcontains
  rw [GraphDraft.resolveName?_isSome_iff, hnamed, ResolvesByPath]
  apply or_congr_left
  constructor
  · rintro ⟨e, he, hid⟩
    obtain ⟨hpath, hcontains⟩ := (hmodule e he).mp hid
    exact ⟨hpath, e, he, hcontains⟩
  · rintro ⟨hpath, e, he, hcontains⟩
    exact ⟨e, he, (hmodule e he).mpr ⟨hpath, hcontains⟩⟩

theorem callWeight_ofFiles (hcolon : ∀ f ∈ files, ':' ∉ f.path.toList) : (ofFiles files).callWeight =
    (AstFile.callSites (AstFile.accepted files)).countP fun x => (ofFiles files).ResolvesByPath x.1 x.2 := by
  have hsites := GraphDraft.addFiles_calls (AstFile.nodup_accepted files)
  rw [GraphDraft.addFiles_accepted] at hsites
  have hcount : ∀ p : String × String → Bool, ((GraphDraft.addFiles {} files).calls.countP fun c => p c.site) =
      (AstFile.callSites (AstFile.accepted files)).countP fun x => p (x.1.moduleId, x.2) := by
    intro p
    calc ((GraphDraft.addFiles {} files).calls.countP fun c => p c.site)
        = ((GraphDraft.addFiles {} files).calls.map CallReference.site).countP p := by
          rw [List.countP_map]
          rfl
      _ = ((AstFile.callSites (AstFile.accepted files)).map fun x => (x.1.moduleId, x.2)).countP p := by
          rw [hsites, AstFile.callSites, List.map_flatMap]
          simp only [List.map_map]
          rfl
      _ = _ := by
          rw [List.countP_map]
          rfl
  rw [callWeight, ofFiles, (GraphDraft.addFiles_typed files).filter_calls, GraphDraft.total_callEdges]
  refine (hcount fun x =>
    ((GraphDraft.addFiles {} files).addExternals.resolveName? [.function] x.1 x.2).isSome).trans ?_
  apply List.countP_congr
  intro x hx
  rw [resolveName?_isSome_iff hcolon (mem_callSites_iff.mp hx).1, decide_eq_true_iff]
  rfl

/-- The graph has all calls that it should have if no file with an empty path depends on the name being its own. -/
theorem callWeight_eq_resolvable_iff (hcolon : ∀ f ∈ files, ':' ∉ f.path.toList) :
    (ofFiles files).callWeight = resolvable files ↔
      ∀ f ∈ AstFile.accepted files, f.modulePath = "" → ∀ callee ∈ f.callees,
        (∃ e ∈ (ofFiles files).functionsNamed callee, f.Contains e) →
          ((ofFiles files).functionsNamed callee).length = 1 := by
  have himp : ∀ x ∈ AstFile.callSites (AstFile.accepted files),
      decide ((ofFiles files).ResolvesByPath x.1 x.2) = true → decide ((ofFiles files).Resolves x.1 x.2) = true := by
    intro x _
    simp only [decide_eq_true_eq]
    exact Or.imp_left And.right
  rw [callWeight_ofFiles hcolon, resolvable, countP_eq_countP_iff himp]
  simp only [decide_eq_true_eq, mem_callSites_iff]
  constructor
  · intro hall f hf hpath callee hcallee hown
    rcases hall (f, callee) ⟨hf, hcallee⟩ (.inl hown) with ⟨hne, -⟩ | hone
    · exact absurd hpath hne
    · exact hone
  · rintro hall x ⟨hf, hcallee⟩ (hown | hone)
    · by_cases hpath : x.1.modulePath = ""
      · exact .inr (hall x.1 hf hpath x.2 hcallee hown)
      · exact .inl ⟨hpath, hown⟩
    · exact .inr hone

/-- What is kept of the imports and of the calls of files. -/
structure Conserves (files : List AstFile) (g : CodeGraph) : Prop where
  importEnds : ((g.edges.filter fun r => r.kind = .imports).map Relation.ends).Nodup
  importWeight : total ((g.edges.filter fun r => r.kind = .imports).map (·.weight)) =
    total ((AstFile.accepted files).map (·.imports.length))
  imports : ∀ r, r ∈ (g.edges.filter fun r => r.kind = .imports) ↔
    importEdge? r.ends (AstFile.importsBetween (AstFile.accepted files) r.ends) = some r
  callEnds : ((g.edges.filter fun r => r.kind = .calls).map Relation.ends).Nodup
  calls : g.callWeight = (AstFile.callSites (AstFile.accepted files)).countP fun x => g.ResolvesByPath x.1 x.2

/-- Whatever files without colons in their paths are added: two ends have one edge at most, of imports as of calls; an
edge stands for all imports with its ends and no others; and the calls in the graph are all that should be there exactly
if no file with an empty path calls a function of its own that is not the only one of that name. -/
theorem ofFiles_conserves (hcolon : ∀ f ∈ files, ':' ∉ f.path.toList) :
    Conserves files (ofFiles files) ∧
      ((ofFiles files).callWeight = resolvable files ↔
        ∀ f ∈ AstFile.accepted files, f.modulePath = "" → ∀ callee ∈ f.callees,
          (∃ e ∈ (ofFiles files).functionsNamed callee, f.Contains e) →
            ((ofFiles files).functionsNamed callee).length = 1) := by
  have htyped := GraphDraft.addFiles_typed files
  have hpaths := AstFile.nodup_accepted files
  have hgathered := GraphDraft.addFiles_gathered hpaths
  rw [GraphDraft.addFiles_accepted] at hgathered
  have himports : ((ofFiles files).edges.filter fun r => r.kind = .imports) = _ := htyped.filter_imports
  have hcalls : ((ofFiles files).edges.filter fun r => r.kind = .calls) = _ := htyped.filter_calls
  refine ⟨⟨?_, ?_, ?_, ?_, callWeight_ofFiles hcolon⟩, ?_⟩
  · rw [himports, GraphDraft.ends_importEdges]
    exact Keyed.nodup_keys (GraphDraft.sorted_mergedImports _)
  · rw [himports, GraphDraft.total_importEdges, hgathered.imports, length_imports]
  · intro r
    rw [himports, GraphDraft.mem_importEdges_iff, hgathered.filter_imports hpaths]
  · rw [hcalls]
    exact GraphDraft.ends_callEdges _
  · exact callWeight_eq_resolvable_iff hcolon

/-- A file without a path that calls a function of its own, and another file with a function of that name. -/
def namelessFiles : List AstFile :=
  let place (path : String) (line : Nat) : Location := ⟨path, line, 1, line, 9⟩
  [drawnFile "" ["./worker", "lodash", "lodash"]
    [{ kind := .call, location := place "" 1, metadata := [("callee", .text "start")] },
      { kind := .function, name := some "start", location := place "" 2 }],
    drawnFile "worker.ts" []
      [{ kind := .function, name := some "start", location := place "worker.ts" 1 },
        { kind := .call, location := place "worker.ts" 2, metadata := [("callee", .text "start")] }]]

theorem ofFiles_namelessFiles_conserves :
    (∀ f ∈ namelessFiles, ':' ∉ f.path.toList) ∧ Conserves namelessFiles (ofFiles namelessFiles) ∧
      (ofFiles namelessFiles).callWeight ≠ resolvable namelessFiles := by
  have hcolon : ∀ f ∈ namelessFiles, ':' ∉ f.path.toList := by decide +kernel
  obtain ⟨hconserves, hiff⟩ := ofFiles_conserves hcolon
  refine ⟨hcolon, hconserves, ?_⟩
  intro hall
  have hone := hiff.mp hall
  revert hone
  decide +kernel

/-- Of the two calls in these files, each of which has a function to call in its own file, only one is kept. -/
theorem call_of_nameless_file_lost :
    (∀ f ∈ namelessFiles, ':' ∉ f.path.toList) ∧ resolvable namelessFiles = 2 ∧
      (ofFiles namelessFiles).callWeight = 1 := by
  decide +kernel

end CodeGraph
end CodeAudit
