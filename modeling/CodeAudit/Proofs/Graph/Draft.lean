import CodeAudit.Graph.Build
import CodeAudit.Proofs.Keyed
import CodeAudit.Proofs.Numbering
import Mathlib.Data.List.Induction
import Mathlib.Data.List.Nodup

/-! What a file brings to the draft of a graph. A walk writes declarations and calls only, so that
modules and imports are those of the files as they came; and a relation between two drafts that every
declaration and every call keeps is kept by the walk. -/
namespace CodeAudit

theorem IdCounts.lookup_restart (counts : IdCounts) (base b : String) :
    (counts.restart base).lookup b = if b = base then some 1 else counts.lookup b := by
  induction counts with
  | nil => exact lookup_cons (base, 1) [] b
  | cons e rest ih =>
    obtain ⟨k, n⟩ := e
    rw [restart]
    by_cases hk : k = base
    · subst hk
      by_cases hb : b = k <;> simp [lookup_cons, hb]
    · rw [if_neg hk, lookup_cons, ih, lookup_cons]
      by_cases hb : b = k
      · rw [if_pos hb, if_neg (fun h => hk (hb ▸ h)), if_pos hb]
      · rw [if_neg hb, if_neg hb]

namespace AstFile

def modulePath (f : AstFile) : String := Path.normalize f.path

def moduleName (f : AstFile) : String := Path.withoutExtension f.modulePath

/-- The id of the node that stands for a file. -/
def moduleId (f : AstFile) : String := f.language.name ++ ":" ++ f.moduleName

def moduleEntity (f : AstFile) : Entity := .ofFile f.moduleId f.moduleName f

def moduleScope (f : AstFile) : GraphScope where
  language := f.language
  moduleId := f.moduleId
  moduleName := f.moduleName
  container := f.moduleId

def importReferences (f : AstFile) : List ImportReference := f.imports.map (⟨f.moduleId, f.modulePath, ·⟩)

theorem nodup_map_concat {name : AstFile → String} {files : List AstFile} {f : AstFile} :
    ((files ++ [f]).map name).Nodup ↔ (files.map name).Nodup ∧ name f ∉ files.map name := by
  rw [List.map_append, List.map_singleton, ← List.concat_eq_append, List.nodup_concat, and_comm]

end AstFile

/-- Scopes of the same file. -/
structure GraphScope.Within (root s : GraphScope) : Prop where
  language : s.language = root.language
  moduleId : s.moduleId = root.moduleId
  moduleName : s.moduleName = root.moduleName

theorem GraphScope.Within.refl (s : GraphScope) : s.Within s := ⟨rfl, rfl, rfl⟩

/-- The id of a declaration before repetitions are told apart. -/
def GraphScope.baseId (s : GraphScope) (name : String) : String :=
  s.language.name ++ ":" ++ (s.moduleName ++ "::" ++ s.qualifier ++ name)

namespace GraphDraft

variable {s root : GraphScope} {d e : GraphDraft} {f : AstFile} {kind : EntityKind} {name callee : String}
  {n : AstNode}

/-- A draft with one more module, but nothing of what is in it. -/
def addModule (d : GraphDraft) (f : AstFile) : GraphDraft :=
  { d with
    nodes := d.nodes.insert f.moduleId f.moduleEntity
    modules := d.modules.insert f.modulePath f.moduleId
    counts := d.counts.restart f.moduleId
    imports := d.imports ++ f.importReferences }

theorem addFile_eq (d : GraphDraft) (f : AstFile) :
    d.addFile f =
      if d.modules.contains f.modulePath then d else walkAll f.moduleScope (d.addModule f) f.root.children := rfl

theorem addFile_of_notMem (h : f.modulePath ∉ d.modules.keys) :
    d.addFile f = walkAll f.moduleScope (d.addModule f) f.root.children := by
  rw [addFile_eq, if_neg]
  rwa [Keyed.contains_iff_mem_keys]

def addCall (d : GraphDraft) (s : GraphScope) (callee : String) : GraphDraft :=
  { d with calls := d.calls ++ [⟨s.function.getD s.container, s.moduleId, callee⟩] }

/-- What a node does to a draft depends on the node and the scope only. -/
theorem enter_cases (s : GraphScope) (n : AstNode) :
    (∃ callee, ∀ d : GraphDraft, d.enter s n = (s, d.addCall s callee)) ∨
      (∃ kind name, EntityKind.ofNode? n.kind = some kind ∧ ∀ d : GraphDraft, d.enter s n = d.declare s kind name n) ∨
      ∀ d : GraphDraft, d.enter s n = (s, d) := by
  unfold enter
  split
  · split
    · exact .inl ⟨_, fun _ => rfl⟩
    · exact .inr (.inr fun _ => rfl)
  · split
    · exact .inr (.inl ⟨_, _, ‹_›, fun _ => rfl⟩)
    · exact .inr (.inr fun _ => rfl)

theorem declare_fst (d : GraphDraft) (s : GraphScope) (kind : EntityKind) (name : String) (n : AstNode) :
    (d.declare s kind name n).1 = scopeInside s (d.counts.allocate (s.baseId name)).1 name kind := rfl

theorem declare_snd (d : GraphDraft) (s : GraphScope) (kind : EntityKind) (name : String) (n : AstNode) :
    let id := (d.counts.allocate (s.baseId name)).1
    (d.declare s kind name n).2 =
      { d with
        counts := (d.counts.allocate (s.baseId name)).2
        nodes := d.nodes.insert id (.ofNode id kind (s.moduleName ++ "::" ++ s.qualifier ++ name) s.language n)
        compositions := d.compositions ++ [⟨s.container, id, .composes, 1, false, none⟩]
        heritage := d.heritage ++ heritageOf s id kind n } := rfl

theorem within_scopeInside (h : root.Within s) (id name : String) (kind : EntityKind) :
    root.Within (scopeInside s id name kind) := by
  unfold scopeInside
  split
  · exact { h with }
  · split
    · exact { h with }
    · exact h

/-- What a file declares has an id that begins with that of its module. -/
theorem baseId_within (hs : f.moduleScope.Within s) (name : String) :
    s.baseId name = f.moduleId ++ "::" ++ (s.qualifier ++ name) := by
  rw [GraphScope.baseId, hs.language, hs.moduleName]
  simp only [AstFile.moduleScope, AstFile.moduleId, String.append_assoc]

theorem allocate_within (hs : f.moduleScope.Within s) (counts : IdCounts) (name : String) :
    ∃ rest : String, (counts.allocate (s.baseId name)).1 = f.moduleId ++ "::" ++ rest := by
  obtain ⟨tail, htail⟩ := counts.allocate_fst (s.baseId name)
  refine ⟨s.qualifier ++ name ++ tail, ?_⟩
  rw [htail, baseId_within hs]
  simp only [String.append_assoc]

/-- A relation between drafts that goes on to hold whatever both take in. -/
structure Stable (root : GraphScope) (R : GraphDraft → GraphDraft → Prop) : Prop where
  call : ∀ {s d e} (callee : String), root.Within s → R d e → R (d.addCall s callee) (e.addCall s callee)
  declare : ∀ {s d e kind} (name : String) {n : AstNode}, root.Within s → EntityKind.ofNode? n.kind = some kind →
    R d e → (d.declare s kind name n).1 = (e.declare s kind name n).1 ∧
      R (d.declare s kind name n).2 (e.declare s kind name n).2

theorem Stable.enter {R : GraphDraft → GraphDraft → Prop} (hR : Stable root R) (hs : root.Within s) (h : R d e)
    (n : AstNode) :
    (d.enter s n).1 = (e.enter s n).1 ∧ root.Within (d.enter s n).1 ∧ R (d.enter s n).2 (e.enter s n).2 := by
  obtain ⟨callee, henter⟩ | ⟨kind, name, hkind, henter⟩ | henter := enter_cases s n
  · rw [henter, henter]
    exact ⟨rfl, hs, hR.call callee hs h⟩
  · rw [henter, henter]
    obtain ⟨hscope, hdrafts⟩ := hR.declare name hs hkind h
    exact ⟨hscope, within_scopeInside hs _ _ _, hdrafts⟩
  · rw [henter, henter]
    exact ⟨rfl, hs, h⟩

mutual

theorem Stable.walk {R : GraphDraft → GraphDraft → Prop} (hR : Stable root R) {s : GraphScope}
    (hs : root.Within s) {d e : GraphDraft} (h : R d e) (n : AstNode) : R (walk s d n) (walk s e n) := by
  match n with
  | ⟨id, kind, name, location, children, parent, metadata⟩ =>
    simp only [GraphDraft.walk]
    obtain ⟨hscope, hs', h'⟩ := hR.enter hs h ⟨id, kind, name, location, children, parent, metadata⟩
    rw [← hscope]
    exact hR.walkAll hs' h' children

theorem Stable.walkAll {R : GraphDraft → GraphDraft → Prop} (hR : Stable root R) {s : GraphScope}
    (hs : root.Within s) {d e : GraphDraft} (h : R d e) (ns : List AstNode) :
    R (walkAll s d ns) (walkAll s e ns) := by
  match ns with
  | [] => exact h
  | n :: rest =>
    simp only [GraphDraft.walkAll]
    exact hR.walkAll hs (hR.walk hs h n) rest

end

/-- A property of drafts that every call and every declaration keeps. -/
theorem walkAll_induction {P : GraphDraft → Prop}
    (hcall : ∀ {s d} (callee : String), root.Within s → P d → P (d.addCall s callee))
    (hdeclare : ∀ {s d kind} (name : String) {n : AstNode}, root.Within s → EntityKind.ofNode? n.kind = some kind →
      P d → P (d.declare s kind name n).2)
    (hs : root.Within s) (h : P d) (ns : List AstNode) : P (walkAll s d ns) := by
  have hR : Stable root fun d e => d = e ∧ P d := by
    constructor
    · rintro s d _ callee hs ⟨rfl, h⟩
      exact ⟨rfl, hcall callee hs h⟩
    · rintro s d _ kind name n hs hkind ⟨rfl, h⟩
      exact ⟨rfl, rfl, hdeclare name hs hkind h⟩
  exact (hR.walkAll hs ⟨rfl, h⟩ ns).2

/-- A walk finds neither modules nor imports. -/
theorem walkAll_frame (s : GraphScope) (d : GraphDraft) (ns : List AstNode) :
    (walkAll s d ns).modules = d.modules ∧ (walkAll s d ns).imports = d.imports := by
  refine walkAll_induction (P := fun e => e.modules = d.modules ∧ e.imports = d.imports)
    ?_ ?_ (.refl s) ⟨rfl, rfl⟩ ns
  · exact fun _ _ h => h
  · exact fun _ _ _ _ h => h

/-- The order and the kinds of what a draft has gathered; nodes know the ids that they stand under. -/
structure Typed (d : GraphDraft) : Prop where
  nodes : Keyed.Sorted d.nodes
  ids : ∀ id e, d.nodes.get? id = some e → e.id = id
  compositions : ∀ r ∈ d.compositions, r.kind = .composes
  heritage : ∀ h ∈ d.heritage, h.kind = .inherits ∨ h.kind = .implements

theorem Typed.ids_insert (h : d.Typed) (x : Entity) (id : String) (e : Entity)
    (he : (d.nodes.insert x.id x).get? id = some e) : e.id = id := by
  rw [Keyed.get?_insert h.nodes] at he
  split at he
  case isTrue hid =>
    cases he
    exact hid
  case isFalse => exact h.ids id e he

theorem Typed.declare (h : d.Typed) (s : GraphScope) (kind : EntityKind) (name : String) (n : AstNode) :
    (d.declare s kind name n).2.Typed := by
  rw [declare_snd]
  refine ⟨Keyed.sorted_insert h.nodes _ _, h.ids_insert (.ofNode _ kind _ s.language n), ?_, ?_⟩
  · intro r hr
    rcases List.mem_append.mp hr with hr | hr
    · exact h.compositions r hr
    · rw [List.mem_singleton.mp hr]
  · intro r hr
    rcases List.mem_append.mp hr with hr | hr
    · exact h.heritage r hr
    · unfold heritageOf at hr
      split at hr
      · rcases List.mem_append.mp hr with hr | hr
        · obtain ⟨_, -, rfl⟩ := List.mem_map.mp hr
          exact .inl rfl
        · obtain ⟨_, -, rfl⟩ := List.mem_map.mp hr
          exact .inr rfl
      · cases hr

theorem Typed.addModule (h : d.Typed) (f : AstFile) : (d.addModule f).Typed :=
  { h with nodes := Keyed.sorted_insert h.nodes _ _, ids := h.ids_insert f.moduleEntity }

theorem Typed.addFile (h : d.Typed) (f : AstFile) : (d.addFile f).Typed := by
  rw [addFile_eq]
  split
  · exact h
  · refine walkAll_induction ?_ ?_ (.refl f.moduleScope) ?_ f.root.children
    · exact fun _ _ h => { h with }
    · exact fun _ _ _ _ h => h.declare _ _ _ _
    · exact h.addModule f

theorem addFiles_concat (d : GraphDraft) (files : List AstFile) (f : AstFile) :
    d.addFiles (files ++ [f]) = (d.addFiles files).addFile f := List.foldl_append

theorem addFiles_typed (files : List AstFile) : (addFiles {} files).Typed := by
  induction files using List.reverseRecOn with
  | nil => exact ⟨Keyed.sorted_nil, by simp [addFiles], by simp [addFiles], by simp [addFiles]⟩
  | append_singleton files f ih =>
    rw [addFiles_concat]
    exact ih.addFile f

/-- The specifiers that lead to no module. -/
def outsideSpecifiers (d : GraphDraft) : List String :=
  (d.imports.filter fun r => (d.importedModule? r).isNone).map (·.statement.source)

theorem nodes_addExternals (d : GraphDraft) :
    d.addExternals.nodes = d.outsideSpecifiers.foldl
      (fun ns s => Keyed.alter (Entity.externalId s) (fun old => old.getD (.ofSpecifier s)) ns) d.nodes := rfl

theorem externalId_injective : Function.Injective Entity.externalId := by
  intro s s' h
  have hlist := congrArg String.toList h
  simp only [Entity.externalId, String.toList_append] at hlist
  exact String.toList_injective (List.append_cancel_left hlist)

/-- What is there stays, and what is missing is added under its id. -/
theorem get?_addExternals (h : d.Typed) (id : String) :
    d.addExternals.nodes.get? id =
      (d.nodes.get? id).or ((d.outsideSpecifiers.find? fun s => Entity.externalId s = id).map .ofSpecifier) := by
  have hfold : ∀ (specifiers : List String) (old : Option Entity), (∀ s ∈ specifiers, Entity.externalId s = id) →
      specifiers.foldl (fun old s => some (old.getD (Entity.ofSpecifier s))) old =
        old.or (specifiers.head?.map .ofSpecifier) := by
    intro specifiers
    induction specifiers with
    | nil => simp
    | cons s rest ih =>
      intro old hrest
      rw [List.foldl_cons, ih _ (fun x hx => hrest x (List.mem_cons_of_mem _ hx))]
      cases old <;> simp
  rw [nodes_addExternals, Keyed.get?_foldl_alter Entity.externalId _ _ h.nodes, hfold, List.head?_filter]
  simp

theorem sorted_addExternals (h : d.Typed) : Keyed.Sorted d.addExternals.nodes :=
  Keyed.sorted_foldl_alter Entity.externalId _ _ h.nodes

theorem id_of_get?_addExternals (h : d.Typed) {id : String} {e : Entity}
    (he : d.addExternals.nodes.get? id = some e) : e.id = id := by
  rw [get?_addExternals h, Option.or_eq_some_iff] at he
  rcases he with he | ⟨-, he⟩
  · exact h.ids id e he
  · obtain ⟨s, hs, rfl⟩ := Option.map_eq_some_iff.mp he
    simpa [Entity.ofSpecifier] using List.find?_some hs

end GraphDraft
end CodeAudit
