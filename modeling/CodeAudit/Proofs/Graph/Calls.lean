import CodeAudit.Proofs.Graph.Assembly
import CodeAudit.Proofs.Outline.Ways

/-! Calls of a graph. The draft notes the call sites of every file that it takes in, whatever is around them. A name is
looked for among all functions, those of the own module first; which module a function is of is read off its id, up to
the first double colon. That is the module's id unless the path in front of the colons is empty. -/
namespace CodeAudit

/-- The name that a call site calls. -/
def AstNode.call? (n : AstNode) : Option String := if n.kind = .call then n.callee? else none

def CallReference.site (c : CallReference) : String × String := (c.moduleId, c.callee)

namespace AstFile

variable {f h : AstFile} {files : List AstFile} {e : Entity}

/-- The files that are taken in: of several with one path the first. -/
def accepted (files : List AstFile) : List AstFile :=
  files.foldl (fun kept f => if f.modulePath ∈ kept.map modulePath then kept else kept ++ [f]) []

/-- The names that a file calls, in the order of the call sites. -/
def callees (f : AstFile) : List String := (AstNode.nodesOf f.root.children).filterMap AstNode.call?

/-- The entity is declared in the module of the file. -/
def Contains (f : AstFile) (e : Entity) : Prop := (f.moduleId ++ "::").toList <+: e.id.toList

instance (f : AstFile) (e : Entity) : Decidable (f.Contains e) :=
  inferInstanceAs (Decidable ((f.moduleId ++ "::").toList <+: e.id.toList))

theorem contains_iff : f.Contains e ↔ ∃ rest : String, e.id = f.moduleId ++ "::" ++ rest := by
  constructor
  · rintro ⟨rest, hrest⟩
    refine ⟨String.ofList rest, String.toList_injective ?_⟩
    simp [← hrest]
  · rintro ⟨rest, hrest⟩
    exact ⟨rest.toList, by simp [hrest]⟩

theorem accepted_concat (files : List AstFile) (f : AstFile) : accepted (files ++ [f]) =
    if f.modulePath ∈ (accepted files).map modulePath then accepted files else accepted files ++ [f] := List.foldl_append

theorem nodup_accepted (files : List AstFile) : ((accepted files).map modulePath).Nodup := by
  induction files using List.reverseRecOn with
  | nil => exact List.nodup_nil
  | append_singleton files f ih =>
    rw [accepted_concat]
    split
    · exact ih
    · exact nodup_map_concat.mpr ⟨ih, ‹_›⟩

theorem mem_of_mem_accepted (hf : f ∈ accepted files) : f ∈ files := by
  induction files using List.reverseRecOn with
  | nil => cases hf
  | append_singleton files g ih =>
    rw [accepted_concat] at hf
    split at hf
    · exact List.mem_append_left _ (ih hf)
    · rcases List.mem_append.mp hf with hf | hf
      · exact List.mem_append_left _ (ih hf)
      · exact List.mem_append_right _ hf

end AstFile

namespace GraphDraft

variable {d : GraphDraft} {s root : GraphScope} {f h : AstFile} {files : List AstFile} {e : Entity} {n : AstNode}
  {id moduleId name : String} {kinds : List EntityKind}

/-- Files that are not taken in leave nothing behind. -/
theorem addFiles_accepted (files : List AstFile) : addFiles {} (AstFile.accepted files) = addFiles {} files := by
  induction files using List.reverseRecOn with
  | nil => rfl
  | append_singleton files f ih =>
    have hmem : f.modulePath ∈ (addFiles {} files).modules.keys ↔ f.modulePath ∈ (AstFile.accepted files).map AstFile.modulePath := by
      rw [← ih]
      exact (addFiles_gathered (AstFile.nodup_accepted files)).mem_keys
    rw [AstFile.accepted_concat, addFiles_concat, addFile_eq]
    by_cases hpath : f.modulePath ∈ (AstFile.accepted files).map AstFile.modulePath
    · rw [if_pos hpath, if_pos (Keyed.contains_iff_mem_keys.mpr (hmem.mpr hpath)), ih]
    · rw [if_neg hpath, addFiles_concat, ih, addFile_eq]

/-- A call is noted, and whatever is inside is of the same module. -/
theorem enter_calls (d : GraphDraft) (s : GraphScope) (n : AstNode) :
    (d.enter s n).1.moduleId = s.moduleId ∧
      (d.enter s n).2.calls.map CallReference.site =
        d.calls.map CallReference.site ++ n.call?.toList.map (s.moduleId, ·) := by
  unfold enter AstNode.call?
  split
  · split
    · rename_i hcallee
      simp [hcallee, CallReference.site]
    · rename_i hcallee
      simp [hcallee]
  · split
    · simp only [declare_snd, List.append_nil, Option.toList_none, List.map_nil, and_true]
      exact (within_scopeInside (.refl s) _ _ _).moduleId
    · simp

mutual

theorem walk_calls (s : GraphScope) (d : GraphDraft) (n : AstNode) :
    (walk s d n).calls.map CallReference.site =
      d.calls.map CallReference.site ++ (n.nodes.filterMap AstNode.call?).map (s.moduleId, ·) := by
  match n with
  | ⟨id, kind, name, location, children, parent, metadata⟩ =>
    have henter := enter_calls d s ⟨id, kind, name, location, children, parent, metadata⟩
    rw [walk, AstNode.nodes]
    dsimp only
    rw [walkAll_calls, henter.1, henter.2, List.append_assoc, ← List.map_append]
    cases hcall : AstNode.call? ⟨id, kind, name, location, children, parent, metadata⟩ with
    | none => rw [List.filterMap_cons_none hcall]; rfl
    | some callee => rw [List.filterMap_cons_some hcall]; rfl

theorem walkAll_calls (s : GraphScope) (d : GraphDraft) (ns : List AstNode) :
    (walkAll s d ns).calls.map CallReference.site =
      d.calls.map CallReference.site ++ ((AstNode.nodesOf ns).filterMap AstNode.call?).map (s.moduleId, ·) := by
  match ns with
  | [] => simp [walkAll, AstNode.nodesOf]
  | n :: ns =>
    rw [walkAll, AstNode.nodesOf, walkAll_calls, walk_calls, List.append_assoc, ← List.map_append, List.filterMap_append]

end

theorem addFiles_calls (hpaths : (files.map AstFile.modulePath).Nodup) :
    (addFiles {} files).calls.map CallReference.site = files.flatMap fun f => f.callees.map (f.moduleId, ·) := by
  induction files using List.reverseRecOn with
  | nil => rfl
  | append_singleton files f ih =>
    obtain ⟨hpaths, hnew⟩ := AstFile.nodup_map_concat.mp hpaths
    have hnew' : f.modulePath ∉ (addFiles {} files).modules.keys := by rwa [(addFiles_gathered hpaths).mem_keys]
    rw [addFiles_concat, addFile_of_notMem hnew', walkAll_calls, List.flatMap_append, ← ih hpaths]
    simp [addModule, AstFile.callees, AstFile.moduleScope]

/-- Every function has an id that begins with the one of a module. -/
def FunctionsOf (files : List AstFile) (d : GraphDraft) : Prop :=
  ∀ id e, d.nodes.get? id = some e → e.kind = .function → ∃ f ∈ files, ∃ rest : String, id = f.moduleId ++ "::" ++ rest

theorem FunctionsOf.addFile (htyped : d.Typed) (hd : FunctionsOf files d) (f : AstFile) :
    FunctionsOf (files ++ [f]) (d.addFile f) := by
  have hbefore : FunctionsOf (files ++ [f]) d := by
    intro id e he hkind
    obtain ⟨g, hg, hid⟩ := hd id e he hkind
    exact ⟨g, List.mem_append_left _ hg, hid⟩
  rw [addFile_eq]
  split
  · exact hbefore
  · refine (walkAll_induction (P := fun d => d.Typed ∧ FunctionsOf (files ++ [f]) d)
      ?_ ?_ (.refl f.moduleScope) ⟨htyped.addModule f, ?_⟩ f.root.children).2
    · rintro s d callee - ⟨htyped, hd⟩
      exact ⟨{ htyped with }, hd⟩
    · rintro s d kind name n hs - ⟨htyped, hd⟩
      refine ⟨htyped.declare _ _ _ _, ?_⟩
      intro id e he hkind
      rw [declare_snd, Keyed.get?_insert htyped.nodes] at he
      split at he
      case isTrue hid =>
        obtain ⟨rest, hrest⟩ := allocate_within hs d.counts name
        exact ⟨f, List.mem_append_right _ (List.mem_singleton_self f), rest, hid.symm.trans hrest⟩
      case isFalse => exact hd id e he hkind
    · intro id e he hkind
      rw [addModule, Keyed.get?_insert htyped.nodes] at he
      split at he
      · cases he
        cases hkind
      · exact hbefore id e he hkind

theorem addFiles_functionsOf (files : List AstFile) : FunctionsOf files (addFiles {} files) := by
  induction files using List.reverseRecOn with
  | nil =>
    intro id e he
    cases he
  | append_singleton files f ih =>
    rw [addFiles_concat]
    exact ih.addFile (addFiles_typed files) f

/-- What lies outside is no function. -/
theorem FunctionsOf.addExternals (htyped : d.Typed) (hd : FunctionsOf files d) : FunctionsOf files d.addExternals := by
  intro id e he hkind
  rw [get?_addExternals htyped, Option.or_eq_some_iff] at he
  rcases he with he | ⟨-, he⟩
  · exact hd id e he hkind
  · obtain ⟨specifier, -, rfl⟩ := Option.map_eq_some_iff.mp he
    cases hkind

section Lookup

theorem cutColons_append {cs : Text.Chars} (hcs : ':' ∉ cs) (rest : Text.Chars) :
    Text.cutChars? [':', ':'] (cs ++ rest) = (Text.cutChars? [':', ':'] rest).map fun (a, b) => (cs ++ a, b) := by
  induction cs with
  | nil => simp
  | cons c cs ih =>
    rw [List.mem_cons, not_or] at hcs
    have hdrop : Text.dropHead? [':', ':'] (c :: (cs ++ rest)) = none := by simp [Text.dropHead?, hcs.1]
    rw [List.cons_append, Text.cutChars?, hdrop]
    simp [ih hcs.2, Function.comp_def]

theorem cutColons_pair (rest : Text.Chars) : Text.cutChars? [':', ':'] (':' :: ':' :: rest) = some ([], rest) := by
  simp [Text.cutChars?, Text.dropHead?]

theorem cutColons_single {cs : Text.Chars} (hne : cs ≠ []) (hcs : ':' ∉ cs) (rest : Text.Chars) :
    Text.cutChars? [':', ':'] (':' :: (cs ++ rest)) =
      (Text.cutChars? [':', ':'] rest).map fun (a, b) => (':' :: (cs ++ a), b) := by
  cases cs with
  | nil => exact absurd rfl hne
  | cons c cs =>
    have hc : ':' ≠ c := fun heq => hcs (heq ▸ List.mem_cons_self)
    have hdrop : Text.dropHead? [':', ':'] (':' :: (c :: cs ++ rest)) = none := by simp [Text.dropHead?, hc]
    rw [Text.cutChars?, hdrop, cutColons_append hcs]
    simp [Function.comp_def]

/-- The module that is read off an id is the one it begins with, unless there is nothing but colons after the language. -/
theorem moduleOf_append (hcolon : ':' ∉ f.path.toList) (rest : String) :
    moduleOf (f.moduleId ++ "::" ++ rest) = if f.modulePath = "" then f.language.name else f.moduleId := by
  have hlist : (f.moduleId ++ "::" ++ rest).toList =
      f.language.name.toList ++ ':' :: (f.moduleName.toList ++ ':' :: ':' :: rest.toList) := by
    simp [AstFile.moduleId]
  have hpart : "::".toList = [':', ':'] := rfl
  rw [moduleOf, Text.cut?, hlist, hpart, cutColons_append (AstFile.colon_notMem_language _)]
  by_cases hpath : f.modulePath = ""
  · have hname : f.moduleName.toList = [] := by
      rw [AstFile.moduleName, Path.withoutExtension_eq_empty.mpr hpath]
      rfl
    rw [if_pos hpath, hname, List.nil_append, cutColons_pair]
    simp
  · have hname : f.moduleName.toList ≠ [] := by
      intro hnil
      rw [String.toList_eq_nil_iff] at hnil
      exact hpath (Path.withoutExtension_eq_empty.mp hnil)
    rw [if_neg hpath, cutColons_single hname (AstFile.colon_notMem_moduleName hcolon), cutColons_pair]
    apply String.toList_injective
    simp [AstFile.moduleId]

/-- So functions are found in their own module, unless its path is empty. -/
theorem moduleOf_eq_iff (hf : ':' ∉ f.path.toList) (hh : ':' ∉ h.path.toList) (he : h.Contains e) :
    moduleOf e.id = f.moduleId ↔ f.modulePath ≠ "" ∧ f.Contains e := by
  have hpath : ∀ g : AstFile, g.modulePath = "" ↔ g.moduleName = "" := fun g => Path.withoutExtension_eq_empty.symm
  obtain ⟨rest, hrest⟩ := AstFile.contains_iff.mp he
  rw [hrest, moduleOf_append hh]
  constructor
  · intro heq
    split at heq
    · have hcolon := AstFile.colon_notMem_language h.language
      rw [heq] at hcolon
      simp [AstFile.moduleId] at hcolon
    · obtain ⟨-, hname⟩ := AstFile.names_eq_of_owns hf hh (.inl rfl) (.inl heq.symm)
      refine ⟨?_, AstFile.contains_iff.mpr ⟨rest, by rw [hrest, heq]⟩⟩
      rw [ne_eq, hpath, hname, ← hpath]
      assumption
  · rintro ⟨hne, hcontains⟩
    have hid := AstFile.contains_iff.mp hcontains
    obtain ⟨-, hname⟩ := AstFile.names_eq_of_owns hf hh (.inr hid) (.inr ⟨rest, hrest⟩)
    rw [ne_eq, hpath, hname, ← hpath] at hne
    rw [if_neg hne, AstFile.moduleId_eq_of_owns hf hh (.inr hid) (.inr ⟨rest, hrest⟩)]

/-- A name is resolved if it is one of the own module's, or if there is no other. -/
theorem resolveName?_isSome_iff :
    (d.resolveName? kinds moduleId name).isSome = true ↔
      (∃ e ∈ d.nodes.values.filter fun e => kinds.contains e.kind && e.name == name, moduleOf e.id = moduleId) ∨
        (d.nodes.values.filter fun e => kinds.contains e.kind && e.name == name).length = 1 := by
  unfold resolveName?
  dsimp only
  generalize d.nodes.values.filter _ = named
  cases hfind : named.find? fun e => moduleOf e.id == moduleId with
  | some e =>
    have hmem := List.mem_of_find?_eq_some hfind
    have hmodule := List.find?_some hfind
    simp only [Option.isSome_some, true_iff]
    exact .inl ⟨e, hmem, by simpa using hmodule⟩
  | none =>
    have hnone : ¬ ∃ e ∈ named, moduleOf e.id = moduleId := by
      rintro ⟨e, he, hmodule⟩
      exact List.find?_eq_none.mp hfind e he (by simpa using hmodule)
    rw [or_iff_right hnone]
    rcases named with _ | ⟨e, _ | ⟨e', rest⟩⟩ <;> simp

end Lookup
end GraphDraft
end CodeAudit
