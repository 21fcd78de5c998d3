import CodeAudit.Proofs.Graph.Difference
import Mathlib.Data.List.Forall2

/-! Code that moves does not change. Where a declaration stands goes into its node as its location only:
ids are made of names and of how often they occur, hashes of what is declared and of how many lines it
has. So the graphs of files and of the same files with their code moved are built in step, and only
modules, which carry the hash of the whole file, can differ in their hashes. -/
namespace CodeAudit

/-- The same place in a file, so many lines further down. -/
structure Location.Moved (offset : Int) (l l' : Location) : Prop where
  file : l'.file = l.file
  startLine : (l'.startLine : Int) = l.startLine + offset
  endLine : (l'.endLine : Int) = l.endLine + offset
  startColumn : l'.startColumn = l.startColumn
  endColumn : l'.endColumn = l.endColumn

theorem Location.Moved.lineCount_eq {offset : Int} {l l' : Location} (h : l.Moved offset l') :
    l'.lineCount = l.lineCount := by
  have hstart := h.startLine
  have hend := h.endLine
  unfold lineCount
  omega

def Location.shift (lines : Nat) (l : Location) : Location :=
  { l with startLine := l.startLine + lines, endLine := l.endLine + lines }

theorem Location.moved_shift (l : Location) (lines : Nat) : l.Moved lines (l.shift lines) :=
  ⟨rfl, Int.natCast_add .., Int.natCast_add .., rfl, rfl⟩

namespace AstNode

mutual

/-- The same tree with all its nodes moved. Ids and links to parents go by positions and may be others. -/
def Moved (offset : Int) (n n' : AstNode) : Prop :=
  match n with
  | ⟨_, kind, name, location, children, _, metadata⟩ =>
    n'.kind = kind ∧ n'.name = name ∧ n'.metadata = metadata ∧ location.Moved offset n'.location ∧
      MovedAll offset children n'.children

def MovedAll (offset : Int) : List AstNode → List AstNode → Prop
  | [], ns' => ns' = []
  | n :: rest, ns' => ∃ n' rest', ns' = n' :: rest' ∧ Moved offset n n' ∧ MovedAll offset rest rest'

end

mutual

def shift (lines : Nat) (n : AstNode) : AstNode :=
  match n with
  | ⟨id, kind, name, location, children, parent, metadata⟩ =>
    ⟨id, kind, name, location.shift lines, shiftAll lines children, parent, metadata⟩

def shiftAll (lines : Nat) : List AstNode → List AstNode
  | [] => []
  | n :: rest => shift lines n :: shiftAll lines rest

end

mutual

theorem moved_shift (n : AstNode) (lines : Nat) : n.Moved lines (n.shift lines) := by
  match n with
  | ⟨id, kind, name, location, children, parent, metadata⟩ =>
    exact ⟨rfl, rfl, rfl, location.moved_shift lines, movedAll_shiftAll children lines⟩

theorem movedAll_shiftAll (ns : List AstNode) (lines : Nat) : MovedAll lines ns (shiftAll lines ns) := by
  match ns with
  | [] => rfl
  | n :: rest => exact ⟨_, _, rfl, moved_shift n lines, movedAll_shiftAll rest lines⟩

end

/-- What a graph takes from a node: what it declares and how long it is. -/
structure Declares (n n' : AstNode) : Prop where
  kind : n'.kind = n.kind
  name : n'.name = n.name
  metadata : n'.metadata = n.metadata
  lineCount : n'.lineCount = n.lineCount

variable {offset : Int} {n n' : AstNode}

theorem Moved.declares (h : n.Moved offset n') : n.Declares n' := by
  obtain ⟨id, kind, name, location, children, parent, metadata⟩ := n
  obtain ⟨hkind, hname, hmetadata, hlocation, -⟩ := h
  exact ⟨hkind, hname, hmetadata, hlocation.lineCount_eq⟩

theorem Moved.children (h : n.Moved offset n') : MovedAll offset n.children n'.children := by
  obtain ⟨id, kind, name, location, children, parent, metadata⟩ := n
  exact h.2.2.2.2

theorem Declares.meta? (h : n.Declares n') (key : String) : n'.meta? key = n.meta? key := by
  rw [AstNode.meta?, AstNode.meta?, h.metadata]

/-- A signature is read off what is declared and the number of lines. -/
theorem Declares.signatureParts (h : n.Declares n') (kind : EntityKind) :
    Entity.signatureParts kind n' = Entity.signatureParts kind n := by
  have hflag : ∀ key, n'.flag key = n.flag key := fun key => by rw [flag, flag, h.meta?]
  have htext : ∀ key, n'.text? key = n.text? key := fun key => by rw [text?, text?, h.meta?]
  have htexts : ∀ key, n'.textsOrText key = n.textsOrText key := fun key => by
    unfold textsOrText
    rw [h.meta?]
  have hparameters : n'.parameters = n.parameters := by rw [parameters, parameters, h.meta?]
  unfold Entity.signatureParts
  rw [h.name, h.lineCount, hparameters, isAsync, isStatic, isExported, visibility?, bases, interfaces, hflag, hflag,
    hflag, htext, htext, htexts, htexts]
  rfl

end AstNode

/-- A file and the same file with its code moved, and with any hash. -/
structure AstFile.Moved (f f' : AstFile) : Prop where
  path : f'.path = f.path
  language : f'.language = f.language
  root : ∃ offset, f.root.Moved offset f'.root
  imports : f'.imports.map (fun i => { i with line := 0 }) = f.imports.map fun i => { i with line := 0 }
  exports : f'.exports.map (fun e => { e with line := 0 }) = f.exports.map fun e => { e with line := 0 }

/-- A file with its code so many lines further down. -/
def AstFile.shift (f : AstFile) (lines : Nat) (contentHash : String) : AstFile :=
  { f with root := f.root.shift lines, contentHash := contentHash }

theorem AstFile.moved_shift (f : AstFile) (lines : Nat) (contentHash : String) : f.Moved (f.shift lines contentHash) where
  path := rfl
  language := rfl
  root := ⟨lines, f.root.moved_shift lines⟩
  imports := rfl
  exports := rfl

namespace AstFile.Moved

variable {f f' : AstFile}

theorem modulePath_eq (h : f.Moved f') : f'.modulePath = f.modulePath := by rw [modulePath, h.path, modulePath]

theorem moduleName_eq (h : f.Moved f') : f'.moduleName = f.moduleName := by
  rw [moduleName, h.modulePath_eq, moduleName]

theorem moduleId_eq (h : f.Moved f') : f'.moduleId = f.moduleId := by
  rw [moduleId, h.language, h.moduleName_eq, moduleId]

theorem moduleScope_eq (h : f.Moved f') : f'.moduleScope = f.moduleScope := by
  rw [moduleScope, h.language, h.moduleName_eq, h.moduleId_eq, moduleScope]

end AstFile.Moved

/-- What decides where an import leads. -/
def ImportReference.origin (r : ImportReference) : String × String := (r.path, r.statement.source)

theorem AstFile.Moved.origins {f f' : AstFile} (h : f.Moved f') :
    f'.importReferences.map ImportReference.origin = f.importReferences.map ImportReference.origin := by
  have horigins : ∀ g : AstFile, g.importReferences.map ImportReference.origin =
      (g.imports.map fun i => { i with line := 0 }).map fun i => (g.modulePath, i.source) := by
    intro g
    rw [importReferences, List.map_map, List.map_map]
    rfl
  rw [horigins, horigins, h.imports, h.modulePath_eq]

/-- Nodes of the same kind that differ in their hashes only if they are modules. -/
structure Entity.Alike (e e' : Entity) : Prop where
  kind : e'.kind = e.kind
  contentHash : e.kind ≠ .moduleFile → e'.contentHash = e.contentHash

namespace GraphDraft

variable {d d' : GraphDraft} {f f' : AstFile}

/-- Drafts that have given the same ids to nodes that are alike. -/
structure InStep (d d' : GraphDraft) : Prop where
  typed : d.Typed
  typed_moved : d'.Typed
  counts : d'.counts = d.counts
  modules : d'.modules = d.modules
  imports : d'.imports.map ImportReference.origin = d.imports.map ImportReference.origin
  nodes : ∀ id, Option.Rel Entity.Alike (d.nodes.get? id) (d'.nodes.get? id)

theorem InStep.get?_insert (h : InStep d d') {x x' : Entity} (hx : x.Alike x') (k id : String) :
    Option.Rel Entity.Alike ((d.nodes.insert k x).get? id) ((d'.nodes.insert k x').get? id) := by
  rw [Keyed.get?_insert h.typed.nodes, Keyed.get?_insert h.typed_moved.nodes]
  split
  · exact .some hx
  · exact h.nodes id

theorem InStep.addCall (h : InStep d d') (s : GraphScope) (callee : String) :
    InStep (d.addCall s callee) (d'.addCall s callee) :=
  { h with typed := { h.typed with }, typed_moved := { h.typed_moved with } }

/-- A declaration gets the same id, and its hash does not depend on where it stands. -/
theorem InStep.declare (h : InStep d d') (s : GraphScope) (kind : EntityKind) (name : String) {n n' : AstNode}
    (hn : n.Declares n') :
    (d'.declare s kind name n').1 = (d.declare s kind name n).1 ∧
      InStep (d.declare s kind name n).2 (d'.declare s kind name n').2 := by
  refine ⟨by rw [declare_fst, declare_fst, h.counts], ?_⟩
  refine ⟨h.typed.declare .., h.typed_moved.declare .., ?_, h.modules, h.imports, ?_⟩
  · rw [declare_snd, declare_snd, h.counts]
  · intro id
    have halike : ∀ k qualified, (Entity.ofNode k kind qualified s.language n).Alike
        (.ofNode k kind qualified s.language n') := by
      refine fun k qualified => ⟨rfl, fun _ => ?_⟩
      simp only [Entity.ofNode, hn.signatureParts]
    rw [declare_snd, declare_snd, h.counts]
    exact h.get?_insert (halike _ _) _ id

theorem InStep.enter (h : InStep d d') (s : GraphScope) {n n' : AstNode} (hn : n.Declares n') :
    (d'.enter s n').1 = (d.enter s n).1 ∧ InStep (d.enter s n).2 (d'.enter s n').2 := by
  have hcallee : n'.callee? = n.callee? := by
    rw [AstNode.callee?, AstNode.callee?, AstNode.text?, AstNode.text?, hn.meta?]
  simp only [GraphDraft.enter, hn.kind, hn.name, hcallee]
  split
  · split
    · exact ⟨rfl, h.addCall s _⟩
    · exact ⟨rfl, h⟩
  · split
    · exact h.declare s _ _ hn
    · exact ⟨rfl, h⟩

mutual

theorem InStep.walk {offset : Int} {d d' : GraphDraft} (h : InStep d d') (s : GraphScope) {n n' : AstNode}
    (hn : n.Moved offset n') : InStep (walk s d n) (walk s d' n') := by
  match n, n' with
  | ⟨id, kind, name, location, children, parent, metadata⟩, ⟨id', kind', name', location', children', parent', metadata'⟩ =>
    obtain ⟨hscope, hdrafts⟩ := h.enter s hn.declares
    simp only [GraphDraft.walk]
    rw [hscope]
    exact hdrafts.walkAll _ hn.children

theorem InStep.walkAll {offset : Int} {d d' : GraphDraft} (h : InStep d d') (s : GraphScope) {ns ns' : List AstNode}
    (hns : AstNode.MovedAll offset ns ns') : InStep (walkAll s d ns) (walkAll s d' ns') := by
  match ns with
  | [] =>
    obtain rfl : ns' = [] := hns
    exact h
  | n :: rest =>
    obtain ⟨n', rest', rfl, hn, hrest⟩ := hns
    simp only [GraphDraft.walkAll]
    exact (h.walk s hn).walkAll s hrest

end

theorem InStep.addModule (h : InStep d d') (hf : f.Moved f') : InStep (d.addModule f) (d'.addModule f') := by
  refine ⟨h.typed.addModule f, h.typed_moved.addModule f', ?_, ?_, ?_, ?_⟩
  · rw [GraphDraft.addModule, GraphDraft.addModule, h.counts, hf.moduleId_eq]
  · rw [GraphDraft.addModule, GraphDraft.addModule, h.modules, hf.moduleId_eq, hf.modulePath_eq]
  · rw [GraphDraft.addModule, GraphDraft.addModule, List.map_append, List.map_append, h.imports, hf.origins]
  · intro id
    have halike : f.moduleEntity.Alike f'.moduleEntity := ⟨rfl, fun hkind => absurd rfl hkind⟩
    rw [GraphDraft.addModule, GraphDraft.addModule, hf.moduleId_eq]
    exact h.get?_insert halike _ id

theorem InStep.addFile (h : InStep d d') (hf : f.Moved f') : InStep (d.addFile f) (d'.addFile f') := by
  obtain ⟨offset, hroot⟩ := hf.root
  rw [addFile_eq, addFile_eq, h.modules, hf.modulePath_eq, hf.moduleScope_eq]
  split
  · exact h
  · exact (h.addModule hf).walkAll _ hroot.children

theorem InStep.addFiles {files files' : List AstFile} (hfiles : List.Forall₂ AstFile.Moved files files')
    (h : InStep d d') : InStep (d.addFiles files) (d'.addFiles files') := by
  induction hfiles generalizing d d' with
  | nil => exact h
  | cons hf _ ih => exact ih (h.addFile hf)

theorem InStep.outsideSpecifiers_eq (h : InStep d d') : d'.outsideSpecifiers = d.outsideSpecifiers := by
  -- where an import leads is decided by its origin and the modules there are
  have horigins : ∀ e : GraphDraft, e.outsideSpecifiers =
      ((e.imports.map ImportReference.origin).filter fun o =>
        ((Path.resolveImport o.1 o.2 e.modules.keys).bind e.modules.get?).isNone).map (·.2) := by
    intro e
    rw [List.filter_map, List.map_map]
    rfl
  rw [horigins, horigins, h.imports, h.modules]

theorem InStep.addExternals (h : InStep d d') (id : String) :
    Option.Rel Entity.Alike (d.addExternals.nodes.get? id) (d'.addExternals.nodes.get? id) := by
  rw [get?_addExternals h.typed, get?_addExternals h.typed_moved, h.outsideSpecifiers_eq]
  have hnode := h.nodes id
  generalize d.nodes.get? id = x at hnode
  generalize d'.nodes.get? id = x' at hnode
  cases hnode with
  | some hx => exact .some hx
  | none =>
    rw [Option.none_or]
    cases d.outsideSpecifiers.find? fun s => Entity.externalId s = id with
    | none => exact .none
    | some s => exact .some ⟨rfl, fun _ => rfl⟩

end GraphDraft

namespace CodeGraph

variable {files files' : List AstFile}

/-- Files and the same files moved have alike nodes under the same ids. -/
theorem alike_of_moved (hmoved : List.Forall₂ AstFile.Moved files files') (id : String) :
    Option.Rel Entity.Alike ((ofFiles files).node? id) ((ofFiles files').node? id) := by
  have hempty : GraphDraft.InStep {} {} :=
    ⟨GraphDraft.addFiles_typed [], GraphDraft.addFiles_typed [], rfl, rfl, rfl, fun _ => .none⟩
  exact (hempty.addFiles hmoved).addExternals id

theorem missingFrom_eq_nil {g g' : CodeGraph} (h : g.Ordered)
    (hsome : ∀ id e, g.node? id = some e → (g'.node? id).isSome = true) : g.missingFrom g' = [] := by
  rw [List.eq_nil_iff_forall_not_mem]
  rintro ⟨id, e⟩ hmissing
  obtain ⟨he, hnone⟩ := (pair_mem_missingFrom_iff h.sorted).mp hmissing
  have hnode := hsome id e he
  rw [hnone] at hnode
  cases hnode

theorem mem_changedSince_iff {g older : CodeGraph} (h : g.Ordered) {id : String} :
    id ∈ (g.changedSince older).keys ↔
      ∃ old e, older.node? id = some old ∧ g.node? id = some e ∧ old.contentHash ≠ e.contentHash := by
  simp only [Keyed.mem_keys_iff, pair_mem_changedSince_iff h.sorted]
  constructor
  · rintro ⟨e, he, old, hold, hne⟩
    exact ⟨old, e, hold, he, hne⟩
  · rintro ⟨old, e, hold, he, hne⟩
    exact ⟨e, he, old, hold, hne⟩

/-- Moving code changes nothing that is declared: between the graphs of files and of the same files moved,
no node comes or goes, and those that count as modified are modules whose files have another hash. -/
theorem moved_code_is_unchanged (hmoved : List.Forall₂ AstFile.Moved files files') :
    let changes := (ofFiles files).difference (ofFiles files')
    changes.added = [] ∧ changes.removed = [] ∧
      ∀ id, id ∈ changes.modified ↔ ∃ e e', (ofFiles files).node? id = some e ∧ (ofFiles files').node? id = some e' ∧
        e.kind = .moduleFile ∧ e'.kind = .moduleFile ∧ e.contentHash ≠ e'.contentHash := by
  intro changes
  have halike := alike_of_moved hmoved
  have hsame : ∀ id, ((ofFiles files).node? id).isSome = ((ofFiles files').node? id).isSome := by
    intro id
    have hnode := halike id
    generalize (ofFiles files).node? id = x at hnode ⊢
    generalize (ofFiles files').node? id = x' at hnode ⊢
    cases hnode <;> rfl
  have hadded : (ofFiles files').missingFrom (ofFiles files) = [] := by
    refine missingFrom_eq_nil (ordered_ofFiles files') fun id e' he' => ?_
    rw [hsame, he']
    rfl
  have hremoved : (ofFiles files).missingFrom (ofFiles files') = [] := by
    refine missingFrom_eq_nil (ordered_ofFiles files) fun id e he => ?_
    rw [← hsame, he]
    rfl
  refine ⟨congrArg Keyed.keys hadded, congrArg Keyed.keys hremoved, fun id => ?_⟩
  have hmodified : id ∈ changes.modified ↔ _ := mem_changedSince_iff (ordered_ofFiles files')
  rw [hmodified]
  constructor
  · rintro ⟨e, e', he, he', hne⟩
    have hnode := halike id
    rw [he, he'] at hnode
    cases hnode with
    | some h =>
      have hkind : e.kind = .moduleFile := by
        by_contra hkind
        exact hne (h.contentHash hkind).symm
      exact ⟨e, e', he, he', hkind, h.kind.trans hkind, hne⟩
  · rintro ⟨e, e', he, he', -, -, hne⟩
    exact ⟨e, e', he, he', hne⟩

/-- A class with a method, below an import. -/
def counterFile : AstFile :=
  let place (first last : Nat) : Location := ⟨"src/counter.ts", first, 1, last, 2⟩
  { path := "src/counter.ts"
    language := .typescript
    root :=
      { kind := .moduleScope, location := place 1 5
        children :=
          [{ kind := .classType, name := some "Counter", location := place 2 5
             children := [{ kind := .function, name := some "next", location := place 3 4 }] }] }
    imports := [.new "lodash" 1]
    contentHash := "before"
    fidelity := .full }

/-- Three lines that are put in front of the class, and the hash of the file after that, leave the class, its
method and what is imported as they were. -/
theorem counterFile_moved :
    let files' := [counterFile.shift 3 "after"]
    List.Forall₂ AstFile.Moved [counterFile] files' ∧
      ((ofFiles [counterFile]).difference (ofFiles files')).added = [] ∧
      ((ofFiles [counterFile]).difference (ofFiles files')).removed = [] ∧
      "typescript:src/counter" ∈ ((ofFiles [counterFile]).difference (ofFiles files')).modified ∧
      "typescript:src/counter::Counter" ∉ ((ofFiles [counterFile]).difference (ofFiles files')).modified := by
  intro files'
  have hmoved : List.Forall₂ AstFile.Moved [counterFile] files' := .cons (counterFile.moved_shift 3 "after") .nil
  obtain ⟨hadded, hremoved, hmodified⟩ := moved_code_is_unchanged hmoved
  refine ⟨hmoved, hadded, hremoved, (hmodified _).mpr ?_, fun hclass => ?_⟩
  · exact ⟨counterFile.moduleEntity, (counterFile.shift 3 "after").moduleEntity, by decide +kernel, by decide +kernel,
      rfl, rfl, by decide⟩
  · have hkind : ((ofFiles [counterFile]).node? "typescript:src/counter::Counter").map (·.kind) = some .classType := by
      decide +kernel
    obtain ⟨e, _, he, -, hmodule, -⟩ := (hmodified _).mp hclass
    rw [he, Option.map_some, hmodule] at hkind
    cases hkind

end CodeGraph
end CodeAudit
