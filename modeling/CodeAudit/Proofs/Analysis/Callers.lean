import CodeAudit.Outline.File
import CodeAudit.Proofs.Analysis.Visits
import CodeAudit.Proofs.Ast.Members

/-! The two notions of a caller. The report on calls takes the function around a call for its caller, wherever types
stand in between; the call itself is told the function that holds it, and a type holds what is below it for the module.
The two agree where the innermost function or type around the call is a function with a name, or where there is no
function around it at all. -/
namespace CodeAudit.Calling

def opensScope (n : AstNode) : Bool := isFunction n || isType n

namespace Visit

/-- The name of the function around a node, `<module>` if there is none. -/
def caller (v : Visit) : String :=
  match v.file.root.innermost? Calling.isFunction v.way.tail with
  | some (_, f) => f.name.getD anonymousName
  | none => moduleCaller

/-- What a call is told: the name of the innermost function or type around it, if that is a function and has a name,
else `<module>`. The root counts where nothing else stands around. -/
def toldCaller (v : Visit) : String :=
  match v.file.root.innermost? opensScope v.way.tail with
  | some (_, n) => if Calling.isFunction n then n.name.getD moduleCaller else moduleCaller
  | none => if Calling.isFunction v.file.root then v.file.root.name.getD moduleCaller else moduleCaller

/-- The function around a node has a name and no type stands in between. A function called `<module>` does not show. -/
def HeldByFunction (v : Visit) (way : List Nat) (f : AstNode) : Prop :=
  f.name.isSome ∧ ((v.file.root.innermost? opensScope v.way.tail).map (·.1) = some way ∨ f.name = some moduleCaller)

/-- Nothing tells a node outside all functions of another one: a type stands around it or the root is no function. -/
def HeldByModule (v : Visit) : Prop :=
  (v.file.root.innermost? opensScope v.way.tail).isSome ∨ ¬ Calling.isFunction v.file.root ∨
    v.file.root.name.getD moduleCaller = moduleCaller

/-- Where the two notions agree. -/
def SeenAlike (v : Visit) : Prop :=
  match v.file.root.innermost? Calling.isFunction v.way.tail with
  | some (way, f) => v.HeldByFunction way f
  | none => v.HeldByModule

end Visit

/-- A tree as the readers of all languages finish it. -/
def Annotated (t : AstFile) : Prop :=
  ∃ path language root imports exports hash fidelity,
    t = AstFile.ofTree path language (AstNode.annotateMembers none none root) imports exports hash fidelity

theorem annotated_ofContent {parser : Syntax.SyntaxParser} {path content : String} {language : Language}
    {grammar : Syntax.GrammarName} {reading : Syntax.Reading} (hgrammar : language.grammar? path = some grammar)
    (hread : parser grammar (.ofText content) = .ok reading) : Annotated (.ofContent parser path content language) := by
  simp only [AstFile.ofContent, hgrammar, hread]
  exact ⟨_, _, _, _, _, _, _, rfl⟩

variable {trees : List AstFile} {v : Visit} {root n : AstNode} {up way : List Nat}

theorem scopeBelow_snd (n : AstNode) (owner function : Option String) :
    (AstNode.scopeBelow n owner function).2 = if opensScope n then (if isFunction n then n.name else none) else function := by
  unfold AstNode.scopeBelow opensScope isFunction isType
  cases n.kind <;> rfl

/-- The function that holds what lies below a way is the innermost function or type on it, if that is a function. -/
theorem scopeAt_snd (root : AstNode) (up : List Nat) : (root.scopeAt up).2 =
    match root.innermost? opensScope up with
    | some (_, n) => if isFunction n then n.name else none
    | none => if isFunction root then root.name else none := by
  induction up with
  | nil =>
    rw [AstNode.scopeAt, scopeBelow_snd, AstNode.innermost?]
    by_cases hroot : isFunction root = true <;> simp [opensScope, hroot]
  | cons i up ih =>
    rw [AstNode.scopeAt, AstNode.innermost?_cons_eq]
    cases hn : root.at? (i :: up) with
    | none => simpa using ih
    | some n =>
      simp only [scopeBelow_snd, ih, Option.any_some, Option.map_some]
      by_cases hopens : opensScope n = true <;> simp [hopens]

/-- What is written on a call of an annotated tree. -/
theorem caller?_eq_toldCaller (hfile : Annotated v.file) (hv : v ∈ visits trees) (hcall : v.node.kind = .call) :
    v.node.caller? = some v.toldCaller := by
  obtain ⟨-, hway, hnode⟩ := mem_visits_iff.mp hv
  obtain ⟨i, up, hup⟩ := List.exists_cons_of_ne_nil hway
  obtain ⟨path, language, root, imports, exports, hash, fidelity, hfile⟩ := hfile
  have hroot : v.file.root = ((root.annotateMembers none none).assignIds none []).1 := by
    rw [hfile]
    rfl
  rw [hup, hroot] at hnode
  rw [AstNode.caller?_finished root hnode hcall, ← hroot, scopeAt_snd, Visit.toldCaller, hup, List.tail_cons]
  congr 1
  cases v.file.root.innermost? opensScope up with
  | some inner => by_cases h : isFunction inner.2 = true <;> simp [h] <;> rfl
  | none => by_cases h : isFunction v.file.root = true <;> simp [h] <;> rfl

/-- A function has the number of its place among the functions. -/
theorem getElem?_functions_number (hv : v ∈ functionsIn trees) :
    ∃ id, (Harvest.ofTrees trees).functions[number trees v.site]? = some (v.record id) := by
  obtain ⟨i, hi⟩ := List.mem_iff_getElem?.mp hv
  have hsite : ((functionsIn trees).map Visit.site)[i]? = some v.site := by
    rw [List.getElem?_map, hi]
    rfl
  obtain ⟨hlt, hget⟩ := List.getElem?_eq_some_iff.mp hsite
  have hnumber : number trees v.site = i := by
    rw [number, ← hget]
    exact (nodup_functionsIn trees).idxOf_getElem i hlt
  have hid : i < (idsIn trees).length := by
    rw [length_idsIn]
    rwa [List.length_map] at hlt
  refine ⟨(idsIn trees)[i], ?_⟩
  rw [hnumber, getElem?_functions_iff]
  exact ⟨v, _, hi, List.getElem?_eq_getElem hid, rfl⟩

/-- What the report says of a call. -/
def Visit.ReportedAs (v : Visit) (c : CallRecord) : Prop :=
  c.file = v.file.path ∧ c.caller = v.caller ∧ calleeOf? v.node = some c.callee ∧ c.line = v.node.location.startLine

/-- The function around a call is found again under its number. -/
theorem callRecord_caller (hv : v ∈ visits trees) {c : Call} (hc : v.call? trees = some c) (targets : List Nat) :
    v.ReportedAs (callRecord (Harvest.ofTrees trees).functions ⟨c, targets⟩) := by
  obtain ⟨callee, hcallee, rfl⟩ := Option.map_eq_some_iff.mp hc
  refine ⟨rfl, ?_, hcallee, rfl⟩
  obtain ⟨htree, -, -⟩ := mem_visits_iff.mp hv
  unfold callRecord Visit.caller Visit.function? functionAround?
  cases hinner : v.file.root.innermost? isFunction v.way.tail with
  | none => rfl
  | some inner =>
    obtain ⟨way, f⟩ := inner
    obtain ⟨hway, -, hf, hfunction, -⟩ := AstNode.innermost?_eq_some hinner
    have hmem : (⟨v.tree, v.file, way, f⟩ : Visit) ∈ functionsIn trees :=
      List.mem_filter.mpr ⟨mem_visits_iff.mpr ⟨htree, hway, hf⟩, hfunction⟩
    obtain ⟨id, hget⟩ := getElem?_functions_number hmem
    simp only [Option.map_some, Option.bind_some, Visit.site] at hget ⊢
    rw [hget]
    rfl

theorem reportedAs_calls {vs : List Visit} (hvs : vs ⊆ visits trees) (functions : List FunctionRecord) :
    List.Forall₂ Visit.ReportedAs (vs.filter fun v => (calleeOf? v.node).isSome)
      ((vs.filterMap (Visit.call? trees)).map fun c =>
        callRecord (Harvest.ofTrees trees).functions ⟨c, resolve functions c.file c.callee⟩) := by
  induction vs with
  | nil => exact .nil
  | cons v vs ih =>
    obtain ⟨hv, hvs⟩ := List.cons_subset.mp hvs
    have hcall : v.call? trees = (calleeOf? v.node).map fun callee =>
      ⟨v.file.path, v.function?.map fun way => number trees (v.tree, way), callee, v.node.location.startLine⟩ := rfl
    cases hcallee : calleeOf? v.node with
    | none =>
      rw [hcallee] at hcall
      rw [List.filter_cons_of_neg (by simp [hcallee]), List.filterMap_cons_none hcall]
      exact ih hvs
    | some callee =>
      rw [hcallee] at hcall
      rw [List.filter_cons_of_pos (by simp [hcallee]), List.filterMap_cons_some hcall, List.map_cons]
      exact .cons (callRecord_caller hv hcall _) (ih hvs)

theorem moduleCaller_ne_anonymousName : moduleCaller ≠ anonymousName := by decide

/-- The innermost function or type is the innermost function, if it is a function at all. -/
theorem way_eq_of_isFunction {w : List Nat} {f : AstNode} (hscope : root.innermost? opensScope up = some (w, n))
    (hfunction : root.innermost? isFunction up = some (way, f)) : w = way ↔ isFunction n = true := by
  obtain ⟨hw, hwup, hn, -, hinner⟩ := AstNode.innermost?_eq_some hscope
  obtain ⟨hway, hwayup, hf, hisf, hinnerf⟩ := AstNode.innermost?_eq_some hfunction
  constructor
  · rintro rfl
    obtain rfl : n = f := Option.some.inj (hn.symm.trans hf)
    exact hisf
  · intro hisn
    have hopens : opensScope f = true := by simp [opensScope, hisf]
    have hle := hinnerf w n hw hwup hn hisn
    have hge := hinner way f hway hwayup hf hopens
    exact hle.eq_of_length (Nat.le_antisymm hle.length_le hge.length_le)

/-- Whether the two callers are one. -/
theorem toldCaller_eq_iff (v : Visit) : v.toldCaller = v.caller ↔ v.SeenAlike := by
  unfold Visit.toldCaller Visit.caller Visit.SeenAlike
  cases hfunction : v.file.root.innermost? isFunction v.way.tail with
  | none =>
    cases hscope : v.file.root.innermost? opensScope v.way.tail with
    | none => by_cases hroot : isFunction v.file.root = true <;> simp [Visit.HeldByModule, hscope, hroot]
    | some inner =>
      -- without a function around it the innermost scope is a type
      obtain ⟨w, n⟩ := inner
      obtain ⟨hw, hwup, hn, -, -⟩ := AstNode.innermost?_eq_some hscope
      have htype := AstNode.innermost?_eq_none hfunction w n hw hwup hn
      simp [Visit.HeldByModule, hscope, htype]
  | some around =>
    obtain ⟨way, f⟩ := around
    obtain ⟨hway, hwayup, hf, hisf, -⟩ := AstNode.innermost?_eq_some hfunction
    cases hscope : v.file.root.innermost? opensScope v.way.tail with
    | none =>
      have hnot := AstNode.innermost?_eq_none hscope way f hway hwayup hf
      simp [opensScope, hisf] at hnot
    | some inner =>
      obtain ⟨w, n⟩ := inner
      have hsame := way_eq_of_isFunction hscope hfunction
      by_cases hisn : isFunction n = true
      · obtain rfl := hsame.mpr hisn
        have hn := (AstNode.innermost?_eq_some hscope).2.2.1
        obtain rfl : n = f := Option.some.inj (hn.symm.trans hf)
        cases hname : n.name <;>
          simp [Visit.HeldByFunction, hisn, hscope, hname, moduleCaller_ne_anonymousName]
      · have hne : w ≠ way := fun heq => hisn (hsame.mp heq)
        cases hname : f.name with
        | none => simp [Visit.HeldByFunction, hisn, hname, moduleCaller_ne_anonymousName]
        | some name => simp [Visit.HeldByFunction, hisn, hscope, hname, hne.symm, eq_comm]

/-- For every call that can be named, the report on calls says in the order of the walk that its caller is the nearest
function around it, `<anonymous>` if that has no name and `<module>` if there is none. What is written on the call itself
in an annotated tree is the same exactly if the innermost function or type around it is a function with a name, or if
nothing around it is a function. A type between a call and its function makes the call one of the module, and so does a
function without a name. -/
theorem callers_seen_alike_iff (limit : Nat) (p : Project) :
    List.Forall₂ Visit.ReportedAs ((visits p.parsed).filter fun v => (calleeOf? v.node).isSome)
      (analyze limit p).report.calls ∧
    ∀ v ∈ visits p.parsed, v.node.kind = .call → Annotated v.file →
      v.node.caller? = some v.toldCaller ∧ (v.node.caller? = some v.caller ↔ v.SeenAlike) := by
  constructor
  · have hcalls := reportedAs_calls (List.Subset.refl (visits p.parsed)) (Harvest.ofTrees p.parsed).functions
    rw [← calls_ofTrees] at hcalls
    simpa [analyze, Harvest.resolved, Function.comp_def] using hcalls
  · intro v hv hcall hfile
    have htold := caller?_eq_toldCaller hfile hv hcall
    refine ⟨htold, ?_⟩
    rw [htold, Option.some_inj]
    exact toldCaller_eq_iff v

/-- A function with a class in it, whose field is set by a call; another call stands right in the function. -/
def localClass : Project where
  trees := [.ofTree file .typescript (AstNode.annotateMembers none none module) [] [] file .full]
where
  file : String := "src/panel.ts"
  call (line : Nat) : AstNode := { kind := .call, name := some "measure", location := .line file line }
  panel : AstNode := { kind := .classType, name := some "Panel", location := .line file 2, children := [call 3] }
  setup : AstNode :=
    { kind := .function, name := some "setup", location := .line file 1, children := [panel, call 5] }
  module : AstNode := { kind := .moduleScope, location := .fileStart file, children := [setup] }

/-- Kind, caller as told and caller as reported of the nodes in it. -/
theorem localClass_callers :
    ((visits localClass.parsed).map fun v => (v.node.kind, v.node.caller?, v.caller)) =
      [(.function, none, "<module>"), (.classType, none, "setup"), (.call, some "<module>", "setup"),
        (.call, some "setup", "setup")] := by
  decide +kernel

theorem annotated_localClass {v : Visit} (hv : v ∈ visits localClass.parsed) : Annotated v.file := by
  have hfile : v.file ∈ localClass.parsed := List.mem_of_getElem? (mem_visits_iff.mp hv).1
  exact ⟨_, _, localClass.module, _, _, _, _, List.mem_singleton.mp (List.mem_filter.mp hfile).1⟩

/-- The call right in the function is the function's. -/
theorem localClass_call_held : ∃ v ∈ visits localClass.parsed, v.node.kind = .call ∧ Annotated v.file ∧
    v.node.caller? = some "setup" ∧ v.node.caller? = some v.caller ∧ v.SeenAlike := by
  have hmem : (NodeKind.call, some "setup", "setup") ∈
      (visits localClass.parsed).map fun v => (v.node.kind, v.node.caller?, v.caller) := by
    simp [localClass_callers]
  obtain ⟨v, hv, heq⟩ := List.mem_map.mp hmem
  obtain ⟨hcall, htold, hcaller⟩ : v.node.kind = .call ∧ v.node.caller? = some "setup" ∧ v.caller = "setup" := by
    simpa using heq
  obtain ⟨-, halike⟩ := (callers_seen_alike_iff 10 localClass).2 v hv hcall (annotated_localClass hv)
  have hsame : v.node.caller? = some v.caller := by rw [htold, hcaller]
  exact ⟨v, hv, hcall, annotated_localClass hv, htold, hsame, halike.mp hsame⟩

/-- The class takes the call in it away from the function, which is reported as its caller. -/
theorem localClass_disowns_call : (∃ v ∈ visits localClass.parsed, v.node.kind = .call ∧ Annotated v.file ∧
      v.node.caller? = some "<module>" ∧ v.node.caller? ≠ some v.caller) ∧
    (analyze 10 localClass).report.calls.map (fun c => (c.line, c.caller)) = [(3, "setup"), (5, "setup")] := by
  have hmem : (NodeKind.call, some "<module>", "setup") ∈
      (visits localClass.parsed).map fun v => (v.node.kind, v.node.caller?, v.caller) := by
    simp [localClass_callers]
  obtain ⟨v, hv, heq⟩ := List.mem_map.mp hmem
  obtain ⟨hcall, htold, hcaller⟩ : v.node.kind = .call ∧ v.node.caller? = some "<module>" ∧ v.caller = "setup" := by
    simpa using heq
  refine ⟨⟨v, hv, hcall, annotated_localClass hv, htold, ?_⟩, by decide +kernel⟩
  rw [htold, hcaller]
  decide

end CodeAudit.Calling
