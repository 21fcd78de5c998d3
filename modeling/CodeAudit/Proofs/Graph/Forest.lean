import CodeAudit.Proofs.Graph.Assembly
import CodeAudit.Proofs.Graph.Declarations
import CodeAudit.Proofs.Graph.Reordering
import CodeAudit.Proofs.Graph.WellFormed
import Mathlib.Data.List.Dedup
import Mathlib.Logic.Relation

/-! Containment in a graph. The nodes are the modules, what the files declare and what lies outside, each once. Every
declaration has one edge to it that says where it belongs; back along these edges one comes through smaller and smaller
containers to the module of the file. -/
namespace CodeAudit

/-- `u` is a container around `v`. -/
def Declaration.Around (u v : Declaration) : Prop := u.kind.isContainer = true ∧ u.way <:+ v.way.tail

/-- The id of the innermost container around a declaration, or of its module if there is none. -/
def Declaration.BelongsTo (v : Declaration) (id : String) : Prop :=
  (∃ w ∈ v.file.declarations, w.Around v ∧ (∀ u ∈ v.file.declarations, u.Around v → u.way <:+ w.way) ∧ id = w.id) ∨
    (∀ u ∈ v.file.declarations, ¬ u.Around v) ∧ id = v.file.moduleId

/-- The specifiers of imports that lead to no file, each once. -/
def AstFile.outside (files : List AstFile) : List String :=
  (files.flatMap fun f => (f.imports.filter fun i =>
    (Path.resolveImport f.modulePath i.source (files.map AstFile.modulePath)).isNone).map (·.source)).dedup

/-- All nodes that a graph of files should have. -/
def AstFile.expectedEntities (files : List AstFile) : List Entity :=
  files.map AstFile.moduleEntity ++ (files.flatMap AstFile.declarations).map Declaration.entity ++
    (AstFile.outside files).map Entity.ofSpecifier

/-- The edges that say where an id belongs. -/
def CodeGraph.containers (g : CodeGraph) (id : String) : List Relation :=
  (g.incoming id).filter fun r => r.kind = .composes

/-- An edge by which `b` belongs to `a`. -/
def CodeGraph.Composes (g : CodeGraph) (a b : String) : Prop := ∃ r ∈ g.containers b, r.source = a

namespace AstFile

variable {f h : AstFile} {u v w : Declaration} {way up : List Nat} {n : AstNode} {id : String} {files : List AstFile}

theorem hiddenBelow_of_suffix (h : way <:+ up) (hhidden : f.hiddenBelow up = false) : f.hiddenBelow way = false := by
  obtain ⟨below, rfl⟩ := h
  induction below with
  | nil => exact hhidden
  | cons i below ih =>
    rw [List.cons_append, hiddenBelow_cons, Bool.or_eq_false_iff] at hhidden
    exact ih hhidden.2

/-- What is hidden is hidden by a function that is itself declared. -/
theorem hiddenBelow_iff : f.hiddenBelow up = true ↔ ∃ u ∈ f.declarations, u.kind = .function ∧ u.way <:+ up := by
  induction up with
  | nil =>
    constructor
    · intro hhidden
      cases hhidden
    · rintro ⟨u, hu, -, hsuffix⟩
      exact absurd (List.suffix_nil.mp hsuffix) (mem_declarations_iff.mp hu).1
  | cons i up ih =>
    rw [hiddenBelow_cons, Bool.or_eq_true]
    constructor
    · intro hhidden
      by_cases hup : f.hiddenBelow up = true
      · obtain ⟨u, hu, hkind, hsuffix⟩ := ih.mp hup
        exact ⟨u, hu, hkind, hsuffix.trans (List.suffix_cons i up)⟩
      · obtain ⟨n, hn, hn'⟩ := (Option.any_eq_true _ _).mp (hhidden.resolve_right hup)
        obtain ⟨⟨kind, name⟩, hdeclared, hkind⟩ := (Option.any_eq_true _ _).mp hn'
        refine ⟨⟨f, i :: up, kind, name, n⟩, mem_declarations_iff.mpr ?_, of_decide_eq_true hkind, List.suffix_rfl⟩
        exact ⟨by simp, hn, Bool.eq_false_of_not_eq_true hup, hdeclared, rfl⟩
    · rintro ⟨u, hu, hkind, hsuffix⟩
      rcases List.suffix_cons_iff.mp hsuffix with hway | hsuffix
      · obtain ⟨-, hn, -, hdeclared, -⟩ := mem_declarations_iff.mp hu
        left
        rw [← hway, hn]
        simp [AstNode.hides, hdeclared, hkind]
      · exact .inr (ih.mpr ⟨u, hu, hkind, hsuffix⟩)

/-- Declared is each named node of one of the kinds that no declared function is around. -/
theorem exists_declaration_iff : (∃ v ∈ f.declarations, v.way = way ∧ v.node = n) ↔
    way ≠ [] ∧ f.root.at? way = some n ∧ n.declared?.isSome = true ∧
      ∀ u ∈ f.declarations, u.kind = .function → ¬ u.way <:+ way.tail := by
  have hhidden : f.hiddenBelow way.tail = false ↔
      ∀ u ∈ f.declarations, u.kind = .function → ¬ u.way <:+ way.tail := by
    rw [← Bool.not_eq_true, hiddenBelow_iff]
    simp only [not_exists, not_and]
  rw [← hhidden]
  constructor
  · rintro ⟨v, hv, rfl, rfl⟩
    obtain ⟨hway, hn, hbelow, hdeclared, -⟩ := mem_declarations_iff.mp hv
    exact ⟨hway, hn, by rw [hdeclared]; rfl, hbelow⟩
  · rintro ⟨hway, hn, hdeclared, hbelow⟩
    obtain ⟨⟨kind, name⟩, hdeclared⟩ := Option.isSome_iff_exists.mp hdeclared
    exact ⟨⟨f, way, kind, name, n⟩, mem_declarations_iff.mpr ⟨hway, hn, hbelow, hdeclared, rfl⟩, rfl, rfl⟩

theorem isContainer_of_mem (hv : v ∈ f.declarations) : v.node.isContainer = v.kind.isContainer := by
  obtain ⟨-, -, -, hdeclared, -⟩ := mem_declarations_iff.mp hv
  simp [AstNode.isContainer, hdeclared]

/-- All containers around a declaration are declared. -/
theorem exists_of_isContainer (hv : v ∈ f.declarations) (hway : way ≠ []) (hsuffix : way <:+ v.way.tail)
    (hn : f.root.at? way = some n) (hcontainer : n.isContainer = true) :
    ∃ w ∈ f.declarations, w.way = way ∧ w.Around v := by
  obtain ⟨-, -, hhidden, -, -⟩ := mem_declarations_iff.mp hv
  obtain ⟨⟨kind, name⟩, hdeclared, hkind⟩ := (Option.any_eq_true _ _).mp hcontainer
  refine ⟨⟨f, way, kind, name, n⟩, mem_declarations_iff.mpr ⟨hway, hn, ?_, hdeclared, rfl⟩, rfl, hkind, hsuffix⟩
  exact hiddenBelow_of_suffix ((List.tail_suffix way).trans hsuffix) hhidden

theorem belongsTo_containerBelow (hv : v ∈ f.declarations) : v.BelongsTo (f.containerBelow v.way.tail) := by
  have hfile := file_of_mem_declarations hv
  -- a container around a declaration is a node on its way
  have hnode : ∀ u ∈ f.declarations, u.Around v →
      u.way ≠ [] ∧ f.root.at? u.way = some u.node ∧ u.node.isContainer = true := by
    intro u hu haround
    obtain ⟨hway, hn, -, -, -⟩ := mem_declarations_iff.mp hu
    exact ⟨hway, hn, by rw [isContainer_of_mem hu, haround.1]⟩
  unfold Declaration.BelongsTo
  rw [hfile, containerBelow]
  cases hinner : f.root.innermost? AstNode.isContainer v.way.tail with
  | none =>
    right
    refine ⟨?_, rfl⟩
    intro u hu haround
    obtain ⟨hway, hn, hcontainer⟩ := hnode u hu haround
    rw [AstNode.innermost?_eq_none hinner u.way u.node hway haround.2 hn] at hcontainer
    cases hcontainer
  | some x =>
    obtain ⟨way, n⟩ := x
    obtain ⟨hway, hsuffix, hn, hcontainer, hall⟩ := AstNode.innermost?_eq_some hinner
    obtain ⟨w, hw, rfl, haround⟩ := exists_of_isContainer hv hway hsuffix hn hcontainer
    left
    refine ⟨w, hw, haround, ?_, idAt_way hw⟩
    intro u hu haround'
    obtain ⟨hway', hn', hcontainer'⟩ := hnode u hu haround'
    exact hall u.way u.node hway' haround'.2 hn' hcontainer'

theorem owns_id (v : Declaration) : Owns v.file.moduleId v.id := .inr (id_eq_append v)

/-- What belongs to a file has not the id of something outside. -/
theorem owns_ne_externalId (hid : Owns f.moduleId id) (specifier : String) : id ≠ Entity.externalId specifier := by
  rintro rfl
  obtain ⟨tail, -, hlist⟩ := toList_of_owns hid
  have hhead := congrArg List.head? hlist
  rw [Entity.externalId, String.toList_append] at hhead
  cases hl : f.language <;> simp [hl, Language.name] at hhead

theorem id_ne_moduleId (hcolon : ':' ∉ f.path.toList) (hv : ':' ∉ v.file.path.toList) : v.id ≠ f.moduleId := by
  intro heq
  have hsame : v.file.moduleId = f.moduleId := moduleId_eq_of_owns hv hcolon (owns_id v) (.inl heq)
  obtain ⟨rest, hrest⟩ := id_eq_append v
  have hlength := congrArg String.length (hrest.symm.trans heq)
  have hcolons : "::".length = 2 := rfl
  rw [String.length_append, String.length_append, hcolons, hsame] at hlength
  omega

/-- Everything that the files declare has an id of its own. -/
theorem nodup_ids_flatMap (hids : (files.map moduleId).Nodup) (hcolon : ∀ f ∈ files, ':' ∉ f.path.toList)
    (hnames : ∀ v ∈ files.flatMap declarations, '#' ∉ v.name.toList) :
    ((files.flatMap declarations).map Declaration.id).Nodup := by
  rw [List.map_flatMap, List.nodup_flatMap]
  constructor
  · intro f hf
    apply nodup_ids
    exact fun v hv => hnames v (List.mem_flatMap.mpr ⟨f, hf, hv⟩)
  · refine (List.pairwise_map.mp hids).imp_of_mem ?_
    intro f h hf hh hne id hid hid'
    obtain ⟨v, hv, rfl⟩ := List.mem_map.mp hid
    obtain ⟨u, hu, heq⟩ := List.mem_map.mp hid'
    have hown := owns_id v
    have hown' := owns_id u
    rw [file_of_mem_declarations hv] at hown
    rw [file_of_mem_declarations hu, heq] at hown'
    exact hne (moduleId_eq_of_owns (hcolon f hf) (hcolon h hh) hown hown')

theorem ids_expectedEntities (files : List AstFile) : (expectedEntities files).map (·.id) =
    files.map moduleId ++ (files.flatMap declarations).map Declaration.id ++ (outside files).map Entity.externalId := by
  simp only [expectedEntities, List.map_append, List.map_map]
  rfl

theorem nodup_ids_expectedEntities (hids : (files.map moduleId).Nodup) (hcolon : ∀ f ∈ files, ':' ∉ f.path.toList)
    (hnames : ∀ v ∈ files.flatMap declarations, '#' ∉ v.name.toList) :
    ((expectedEntities files).map (·.id)).Nodup := by
  rw [ids_expectedEntities, List.nodup_append, List.nodup_append]
  refine ⟨⟨hids, nodup_ids_flatMap hids hcolon hnames, ?_⟩,
    (List.nodup_dedup _).map GraphDraft.externalId_injective, ?_⟩
  · intro _ hid _ hid'
    obtain ⟨f, hf, rfl⟩ := List.mem_map.mp hid
    obtain ⟨v, hv, rfl⟩ := List.mem_map.mp hid'
    obtain ⟨h, hh, hv⟩ := List.mem_flatMap.mp hv
    refine (id_ne_moduleId (hcolon f hf) ?_).symm
    rw [file_of_mem_declarations hv]
    exact hcolon h hh
  · intro id hid _ hspecifier
    obtain ⟨specifier, -, rfl⟩ := List.mem_map.mp hspecifier
    rcases List.mem_append.mp hid with hid | hid
    · obtain ⟨f, -, rfl⟩ := List.mem_map.mp hid
      exact f.moduleId_ne_externalId specifier
    · obtain ⟨v, -, rfl⟩ := List.mem_map.mp hid
      exact owns_ne_externalId (owns_id v) specifier

end AstFile

namespace GraphDraft

variable {d : GraphDraft} {f : AstFile} {files : List AstFile} {id specifier : String} {e : Entity}

/-- A file alone gives the nodes of its module and of its declarations. -/
theorem get?_addFile_empty (hcolon : ':' ∉ f.path.toList) (hnames : ∀ v ∈ f.declarations, '#' ∉ v.name.toList) :
    (addFile {} f).nodes.get? id = some e ↔
      f.moduleId = id ∧ f.moduleEntity = e ∨ ∃ v ∈ f.declarations, v.id = id ∧ v.entity = e := by
  have hmodule : ∀ k, Keyed.get? [(f.moduleId, f.moduleEntity)] k =
      if f.moduleId = k then some f.moduleEntity else none := fun k => Keyed.get?_cons _ _ k
  rw [(addFile_empty f).2, Keyed.get?_foldl_insert_eq_some_iff Declaration.id Declaration.entity
    (AstFile.nodup_ids hnames) (List.pairwise_singleton _ _), hmodule]
  · simp
  · intro v hv
    rw [hmodule, if_neg]
    refine (AstFile.id_ne_moduleId hcolon ?_).symm
    rwa [AstFile.file_of_mem_declarations hv]

/-- Outside are the specifiers of imports that lead to no file. -/
theorem Gathered.mem_outsideSpecifiers (hd : Gathered files d) :
    specifier ∈ d.outsideSpecifiers ↔ specifier ∈ AstFile.outside files := by
  have hnone : ∀ (f : AstFile) (i : ImportInfo), (d.importedModule? ⟨f.moduleId, f.modulePath, i⟩).isNone =
      (Path.resolveImport f.modulePath i.source (files.map AstFile.modulePath)).isNone := by
    intro f i
    rw [importedModule?, Path.resolveImport_congr fun p => hd.mem_keys]
    cases hresolve : Path.resolveImport f.modulePath i.source (files.map AstFile.modulePath) with
    | none => rfl
    | some p =>
      obtain ⟨h, hh, rfl⟩ := List.mem_map.mp (Path.mem_of_resolveImport hresolve)
      rw [Option.bind_some, (hd.modules h.modulePath h.moduleId).mpr ⟨h, hh, rfl, rfl⟩]
      rfl
  rw [AstFile.outside, List.mem_dedup, outsideSpecifiers, hd.imports]
  simp only [List.mem_map, List.mem_filter, List.mem_flatMap, AstFile.importReferences]
  constructor
  · rintro ⟨_, ⟨⟨f, hf, i, hi, rfl⟩, hmissing⟩, rfl⟩
    rw [hnone] at hmissing
    exact ⟨f, hf, i, ⟨hi, hmissing⟩, rfl⟩
  · rintro ⟨f, hf, i, ⟨hi, hmissing⟩, rfl⟩
    rw [← hnone] at hmissing
    exact ⟨_, ⟨⟨f, hf, i, hi, rfl⟩, hmissing⟩, rfl⟩

end GraphDraft

namespace CodeGraph

variable {files : List AstFile} {e : Entity}

theorem Ordered.mem_entities_iff {g : CodeGraph} (h : g.Ordered) : e ∈ g.entities ↔ g.node? e.id = some e := by
  constructor
  · exact h.node?_of_mem
  · intro he
    exact List.mem_map.mpr ⟨(e.id, e), Keyed.mem_of_get? he, rfl⟩

/-- Before anything outside is added, the nodes are modules and declarations. -/
theorem get?_addFiles_iff (hassembled : GraphDraft.Assembled files (GraphDraft.addFiles {} files))
    (hcolon : ∀ f ∈ files, ':' ∉ f.path.toList)
    (hnames : ∀ v ∈ files.flatMap AstFile.declarations, '#' ∉ v.name.toList) :
    (GraphDraft.addFiles {} files).nodes.get? e.id = some e ↔
      e ∈ files.map AstFile.moduleEntity ++ (files.flatMap AstFile.declarations).map Declaration.entity := by
  have halone : ∀ f ∈ files, (GraphDraft.addFile {} f).nodes.get? e.id = some e ↔
      f.moduleEntity = e ∨ ∃ v ∈ f.declarations, v.entity = e := by
    intro f hf
    rw [GraphDraft.get?_addFile_empty (hcolon f hf) fun v hv => hnames v (List.mem_flatMap.mpr ⟨f, hf, hv⟩)]
    constructor
    · rintro (⟨-, he⟩ | ⟨v, hv, -, he⟩)
      · exact .inl he
      · exact .inr ⟨v, hv, he⟩
    · rintro (rfl | ⟨v, hv, rfl⟩)
      · exact .inl ⟨rfl, rfl⟩
      · exact .inr ⟨v, hv, rfl, rfl⟩
  rw [hassembled.nodes]
  simp only [List.mem_append, List.mem_map, List.mem_flatMap]
  constructor
  · rintro ⟨f, hf, he⟩
    rcases (halone f hf).mp he with he | ⟨v, hv, he⟩
    · exact .inl ⟨f, hf, he⟩
    · exact .inr ⟨v, ⟨f, hf, hv⟩, he⟩
  · rintro (⟨f, hf, he⟩ | ⟨v, ⟨f, hf, hv⟩, he⟩)
    · exact ⟨f, hf, (halone f hf).mpr (.inl he)⟩
    · exact ⟨f, hf, (halone f hf).mpr (.inr ⟨v, hv, he⟩)⟩

/-- The nodes of a graph are the expected ones. -/
theorem mem_entities_ofFiles (hpaths : (files.map AstFile.modulePath).Nodup) (hids : (files.map AstFile.moduleId).Nodup)
    (hcolon : ∀ f ∈ files, ':' ∉ f.path.toList)
    (hnames : ∀ v ∈ files.flatMap AstFile.declarations, '#' ∉ v.name.toList) :
    e ∈ (ofFiles files).entities ↔ e ∈ AstFile.expectedEntities files := by
  have hassembled := GraphDraft.addFiles_assembled hpaths hids hcolon
  have hgathered := GraphDraft.addFiles_gathered hpaths
  have hget : (ofFiles files).node? e.id = _ :=
    GraphDraft.get?_addExternals (GraphDraft.addFiles_typed files) e.id
  rw [(ordered_ofFiles files).mem_entities_iff, hget, Option.or_eq_some_iff, get?_addFiles_iff hassembled hcolon hnames,
    AstFile.expectedEntities, List.mem_append (t := (AstFile.outside files).map _)]
  have hfind : ∀ s, (GraphDraft.addFiles {} files).outsideSpecifiers.find? (fun s => Entity.externalId s = e.id) = some s ↔
      s ∈ AstFile.outside files ∧ Entity.externalId s = e.id := by
    intro s
    rw [Keyed.find?_eq_some_iff fun _ _ _ _ heq => GraphDraft.externalId_injective heq, hgathered.mem_outsideSpecifiers]
  constructor
  · rintro (he | ⟨-, he⟩)
    · exact .inl he
    · obtain ⟨s, hs, rfl⟩ := Option.map_eq_some_iff.mp he
      exact .inr (List.mem_map_of_mem ((hfind s).mp hs).1)
  · rintro (he | he)
    · exact .inl he
    · obtain ⟨s, hs, rfl⟩ := List.mem_map.mp he
      right
      constructor
      · rw [Option.eq_none_iff_forall_ne_some]
        intro x hx
        obtain ⟨f, -, halone⟩ := (hassembled.nodes _ x).mp hx
        exact AstFile.owns_ne_externalId (GraphDraft.owns_of_alone halone) s rfl
      · rw [(hfind s).mpr ⟨hs, rfl⟩]
        rfl

theorem entities_perm (hpaths : (files.map AstFile.modulePath).Nodup) (hids : (files.map AstFile.moduleId).Nodup)
    (hcolon : ∀ f ∈ files, ':' ∉ f.path.toList)
    (hnames : ∀ v ∈ files.flatMap AstFile.declarations, '#' ∉ v.name.toList) :
    (ofFiles files).entities.Perm (AstFile.expectedEntities files) := by
  have hnodup : (ofFiles files).entities.Nodup := by
    refine (ordered_ofFiles files).pairwise_entities.imp ?_
    rintro a _ hlt rfl
    exact lt_irrefl _ hlt
  have hexpected := (AstFile.nodup_ids_expectedEntities hids hcolon hnames).of_map
  exact (List.perm_ext_iff_of_nodup hnodup hexpected).mpr fun _ => mem_entities_ofFiles hpaths hids hcolon hnames

/-- The edges that say where an id belongs are those of the declarations with this id. -/
theorem containers_ofFiles (hpaths : (files.map AstFile.modulePath).Nodup) (hids : (files.map AstFile.moduleId).Nodup)
    (hcolon : ∀ f ∈ files, ':' ∉ f.path.toList) (id : String) : (ofFiles files).containers id =
      ((files.flatMap AstFile.declarations).filter fun v => v.id = id).map Declaration.composition := by
  have hassembled := GraphDraft.addFiles_assembled hpaths hids hcolon
  have hcompositions : ((ofFiles files).edges.filter fun r => r.kind = .composes) =
      (files.flatMap AstFile.declarations).map Declaration.composition := by
    rw [ofFiles, (GraphDraft.addFiles_typed files).filter_composes, hassembled.compositions, List.map_flatMap]
    simp only [(GraphDraft.addFile_empty _).1]
  rw [containers, incoming_eq_filter, List.filter_comm, hcompositions, List.filter_map]
  rfl

theorem containers_declaration (hpaths : (files.map AstFile.modulePath).Nodup)
    (hids : (files.map AstFile.moduleId).Nodup) (hcolon : ∀ f ∈ files, ':' ∉ f.path.toList)
    (hnames : ∀ v ∈ files.flatMap AstFile.declarations, '#' ∉ v.name.toList) {v : Declaration}
    (hv : v ∈ files.flatMap AstFile.declarations) : (ofFiles files).containers v.id = [v.composition] := by
  have hnodup := AstFile.nodup_ids_flatMap hids hcolon hnames
  rw [containers_ofFiles hpaths hids hcolon, Keyed.filter_key_eq_singleton hnodup hv, List.map_singleton]

theorem containers_moduleId (hpaths : (files.map AstFile.modulePath).Nodup) (hids : (files.map AstFile.moduleId).Nodup)
    (hcolon : ∀ f ∈ files, ':' ∉ f.path.toList) {f : AstFile} (hf : f ∈ files) :
    (ofFiles files).containers f.moduleId = [] := by
  rw [containers_ofFiles hpaths hids hcolon, List.map_eq_nil_iff, List.filter_eq_nil_iff]
  intro v hv
  obtain ⟨h, hh, hv⟩ := List.mem_flatMap.mp hv
  have hne : v.id ≠ f.moduleId := by
    apply AstFile.id_ne_moduleId (hcolon f hf)
    rw [AstFile.file_of_mem_declarations hv]
    exact hcolon h hh
  simpa using hne

/-- Back along the edges one comes to the module; on the way there the containers get smaller. -/
theorem reaches_module {g : CodeGraph} {f : AstFile} (hg : ∀ v ∈ f.declarations, g.containers v.id = [v.composition])
    {v : Declaration} (hv : v ∈ f.declarations) : Relation.ReflTransGen g.Composes f.moduleId v.id := by
  induction hlength : v.way.length using Nat.strongRecOn generalizing v with
  | ind n ih =>
    have hfile := AstFile.file_of_mem_declarations hv
    have hstep : g.Composes (f.containerBelow v.way.tail) v.id := by
      refine ⟨v.composition, by simp [hg v hv], ?_⟩
      rw [Declaration.composition, hfile]
    have hbelongs := AstFile.belongsTo_containerBelow hv
    unfold Declaration.BelongsTo at hbelongs
    rw [hfile] at hbelongs
    rcases hbelongs with ⟨w, hw, haround, -, hid⟩ | ⟨-, hid⟩
    · rw [hid] at hstep
      have hway := (AstFile.mem_declarations_iff.mp hv).1
      have hshorter : w.way.length < n := by
        have htail := haround.2.length_le
        have hpos := List.length_pos_of_ne_nil hway
        rw [List.length_tail] at htail
        omega
      exact (ih w.way.length hshorter hw rfl).tail hstep
    · rw [hid] at hstep
      exact .single hstep

/-- Modules and what lies outside apart, the nodes of a graph of files are the named declarations that are in no other
function, and each of them hangs below the module of its file, in the innermost container around it. -/
structure ContainmentForest (files : List AstFile) (g : CodeGraph) : Prop where
  nodes : g.entities.Perm (AstFile.expectedEntities files)
  ids : (g.entities.map (·.id)).Nodup
  declared : ∀ f ∈ files, ∀ way n, (∃ v ∈ f.declarations, v.way = way ∧ v.node = n) ↔
    way ≠ [] ∧ f.root.at? way = some n ∧ n.declared?.isSome = true ∧
      ∀ u ∈ f.declarations, u.kind = .function → ¬ u.way <:+ way.tail
  once : ∀ f ∈ files, (f.declarations.map Declaration.way).Nodup
  named : ∀ f ∈ files, ∀ v ∈ f.declarations, v.file = f ∧ v.node.declared? = some (v.kind, v.name)
  container : ∀ f ∈ files, ∀ v ∈ f.declarations, ∃ r, g.containers v.id = [r] ∧ v.BelongsTo r.source
  reaches : ∀ f ∈ files, ∀ v ∈ f.declarations, Relation.ReflTransGen g.Composes f.moduleId v.id
  roots : ∀ f ∈ files, g.containers f.moduleId = []

/-- The graph of files with paths and ids of their own is a forest of modules, if there are no colons in the paths and
no declared name has the mark for numbers in it. -/
theorem containmentForest_ofFiles {files : List AstFile} (hpaths : (files.map AstFile.modulePath).Nodup)
    (hids : (files.map AstFile.moduleId).Nodup) (hcolon : ∀ f ∈ files, ':' ∉ f.path.toList)
    (hnames : ∀ v ∈ files.flatMap AstFile.declarations, '#' ∉ v.name.toList) :
    ContainmentForest files (ofFiles files) := by
  have hperm := entities_perm hpaths hids hcolon hnames
  have hcontainers : ∀ f ∈ files, ∀ v ∈ f.declarations, (ofFiles files).containers v.id = [v.composition] := by
    intro f hf v hv
    exact containers_declaration hpaths hids hcolon hnames (List.mem_flatMap.mpr ⟨f, hf, hv⟩)
  constructor
  case nodes => exact hperm
  case ids => exact (hperm.map _).nodup_iff.mpr (AstFile.nodup_ids_expectedEntities hids hcolon hnames)
  case declared => exact fun _ _ _ _ => AstFile.exists_declaration_iff
  case once => exact fun f _ => f.nodup_declarations
  case named =>
    intro f _ v hv
    exact ⟨AstFile.file_of_mem_declarations hv, (AstFile.mem_declarations_iff.mp hv).2.2.2.1⟩
  case container =>
    intro f hf v hv
    refine ⟨v.composition, hcontainers f hf v hv, ?_⟩
    rw [Declaration.composition, AstFile.file_of_mem_declarations hv]
    exact AstFile.belongsTo_containerBelow hv
  case reaches => exact fun f hf _ hv => reaches_module (hcontainers f hf) hv
  case roots => exact fun _ hf => containers_moduleId hpaths hids hcolon hf

/-- A class with a method that has a function inside and with a class of its own, a second declaration of the name of
the method's class, and an import of something outside. -/
def nestedFiles : List AstFile :=
  let place (line : Nat) : Location := ⟨"src/list.ts", line, 1, line, 9⟩
  let declared (kind : NodeKind) (name : String) (line : Nat) (children : List AstNode) : AstNode :=
    { kind := kind, name := some name, location := place line, children := children }
  [drawnFile "src/list.ts" ["lodash", "./cell", "lodash"]
    [declared .classType "List" 1
      [declared .function "push" 2 [declared .function "grow" 3 []],
        declared .classType "Cursor" 4 [declared .function "next" 5 []]],
      declared .typeAlias "List" 6 []],
    drawnFile "src/cell.ts" [] [declared .enumType "Color" 1 [declared .binding "red" 2 []]]]

theorem containmentForest_nestedFiles :
    (nestedFiles.map AstFile.modulePath).Nodup ∧ (nestedFiles.map AstFile.moduleId).Nodup ∧
      (∀ f ∈ nestedFiles, ':' ∉ f.path.toList) ∧
      (∀ v ∈ nestedFiles.flatMap AstFile.declarations, '#' ∉ v.name.toList) ∧
      ContainmentForest nestedFiles (ofFiles nestedFiles) ∧
      (ofFiles nestedFiles).containers "typescript:src/list::List.Cursor.next" =
        [⟨"typescript:src/list::List.Cursor", "typescript:src/list::List.Cursor.next", .composes, 1, false, none⟩] ∧
      (ofFiles nestedFiles).entities.length = 10 := by
  have hpaths : (nestedFiles.map AstFile.modulePath).Nodup := by decide +kernel
  have hids : (nestedFiles.map AstFile.moduleId).Nodup := by decide +kernel
  have hcolon : ∀ f ∈ nestedFiles, ':' ∉ f.path.toList := by decide +kernel
  have hnames : ∀ v ∈ nestedFiles.flatMap AstFile.declarations, '#' ∉ v.name.toList := by decide +kernel
  refine ⟨hpaths, hids, hcolon, hnames, containmentForest_ofFiles hpaths hids hcolon hnames, ?_, ?_⟩
  · decide +kernel
  · decide +kernel

end CodeGraph
end CodeAudit
