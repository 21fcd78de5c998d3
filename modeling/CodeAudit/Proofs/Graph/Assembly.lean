import CodeAudit.Proofs.Graph.Imports

/-! Files do not get in each other's way. Each file writes under the id of its module and under ids that
begin with it, and what it writes there is what it writes into an empty draft; so a draft of several
files is put together from drafts of one file each. -/
namespace CodeAudit

/-- The ids of a module and of what is declared in it. -/
def Owns (moduleId id : String) : Prop := id = moduleId ∨ ∃ rest : String, id = moduleId ++ "::" ++ rest

namespace AstFile

variable {f h : AstFile} {id : String}

theorem colon_notMem_language (l : Language) : ':' ∉ l.name.toList := by
  cases l <;> decide

theorem colon_notMem_moduleName (hf : ':' ∉ f.path.toList) : ':' ∉ f.moduleName.toList :=
  Path.notMem_withoutExtension (by decide) (Path.notMem_normalize (by decide) hf)

theorem takeWhile_until_colon {cs tail : Text.Chars} (hcs : ':' ∉ cs) (htail : ∀ c ∈ tail.head?, c = ':') :
    (cs ++ tail).takeWhile (· ≠ ':') = cs := by
  rw [List.takeWhile_append_of_pos]
  · cases tail with
    | nil => simp
    | cons c rest => simp [htail c rfl]
  · intro c hc
    simpa using ne_of_mem_of_not_mem hc hcs

/-- Language and path of a file can be read off the ids that belong to it. -/
theorem toList_of_owns (hid : Owns f.moduleId id) :
    ∃ tail : Text.Chars, (∀ c ∈ tail.head?, c = ':') ∧
      id.toList = f.language.name.toList ++ ':' :: (f.moduleName.toList ++ tail) := by
  rcases hid with rfl | ⟨rest, rfl⟩
  · exact ⟨[], by simp, by simp [moduleId]⟩
  · exact ⟨':' :: ':' :: rest.toList, by simp, by simp [moduleId]⟩

theorem names_eq_of_owns (hf : ':' ∉ f.path.toList) (hh : ':' ∉ h.path.toList) (hfid : Owns f.moduleId id)
    (hhid : Owns h.moduleId id) : f.language.name = h.language.name ∧ f.moduleName = h.moduleName := by
  obtain ⟨tail, htail, hlist⟩ := toList_of_owns hfid
  obtain ⟨tail', htail', hlist'⟩ := toList_of_owns hhid
  have hsame := hlist.symm.trans hlist'
  have hhead : ∀ cs : Text.Chars, ∀ c ∈ (':' :: cs).head?, c = ':' := by simp
  have hlanguage : f.language.name.toList = h.language.name.toList := by
    rw [← takeWhile_until_colon (colon_notMem_language f.language) (hhead (f.moduleName.toList ++ tail)), hsame,
      takeWhile_until_colon (colon_notMem_language h.language) (hhead _)]
  rw [hlanguage, List.append_cancel_left_eq, List.cons.injEq] at hsame
  have hname : f.moduleName.toList = h.moduleName.toList := by
    rw [← takeWhile_until_colon (colon_notMem_moduleName hf) htail, hsame.2,
      takeWhile_until_colon (colon_notMem_moduleName hh) htail']
  exact ⟨String.toList_injective hlanguage, String.toList_injective hname⟩

theorem moduleId_eq_of_owns (hf : ':' ∉ f.path.toList) (hh : ':' ∉ h.path.toList) (hfid : Owns f.moduleId id)
    (hhid : Owns h.moduleId id) : f.moduleId = h.moduleId := by
  obtain ⟨hlanguage, hname⟩ := names_eq_of_owns hf hh hfid hhid
  rw [moduleId, moduleId, hlanguage, hname]

end AstFile

namespace GraphDraft

variable {d d₀ e : GraphDraft} {f : AstFile} {files : List AstFile}

/-- Next to what was there before, a draft holds exactly what the file writes into another draft. -/
structure Apart (f : AstFile) (d₀ d e : GraphDraft) : Prop where
  typed : d.Typed
  typed_alone : e.Typed
  counts : ∀ id, Owns f.moduleId id → d.counts.lookup id = e.counts.lookup id
  counts_before : ∀ id, ¬ Owns f.moduleId id → d.counts.lookup id = d₀.counts.lookup id
  nodes : ∀ id, Owns f.moduleId id → d.nodes.get? id = e.nodes.get? id
  nodes_before : ∀ id, ¬ Owns f.moduleId id → d.nodes.get? id = d₀.nodes.get? id ∧ e.nodes.get? id = none
  compositions : d.compositions = d₀.compositions ++ e.compositions
  heritage : d.heritage = d₀.heritage ++ e.heritage
  calls : d.calls = d₀.calls ++ e.calls

theorem Apart.addCall (h : Apart f d₀ d e) (s : GraphScope) (callee : String) :
    Apart f d₀ (d.addCall s callee) (e.addCall s callee) :=
  { h with
    typed := { h.typed with }
    typed_alone := { h.typed_alone with }
    calls := by
      simp only [GraphDraft.addCall]
      rw [h.calls, List.append_assoc] }

theorem Apart.declare (h : Apart f d₀ d e) {s : GraphScope} (hs : f.moduleScope.Within s) (kind : EntityKind)
    (name : String) (n : AstNode) :
    (d.declare s kind name n).1 = (e.declare s kind name n).1 ∧
      Apart f d₀ (d.declare s kind name n).2 (e.declare s kind name n).2 := by
  have hbase : Owns f.moduleId (s.baseId name) := .inr ⟨_, baseId_within hs name⟩
  have hlookup := h.counts _ hbase
  have hid := IdCounts.allocate_fst_congr hlookup
  have howns : Owns f.moduleId (e.counts.allocate (s.baseId name)).1 := .inr (allocate_within hs e.counts name)
  -- both drafts count the base alike and so give the same id, which belongs to the file
  refine ⟨by rw [declare_fst, declare_fst, hid], ?_⟩
  refine ⟨h.typed.declare _ _ _ _, h.typed_alone.declare _ _ _ _, ?_, ?_, ?_, ?_, ?_, ?_, ?_⟩
  · intro id hown
    simp only [declare_snd, IdCounts.allocate_snd, IdCounts.lookup_bump, hlookup, h.counts id hown]
  · intro id hown
    have hne : id ≠ s.baseId name := fun heq => hown (heq ▸ hbase)
    simp only [declare_snd, IdCounts.allocate_snd, IdCounts.lookup_bump, if_neg hne]
    exact h.counts_before id hown
  · intro id hown
    simp only [declare_snd, hid, Keyed.get?_insert h.typed.nodes, Keyed.get?_insert h.typed_alone.nodes,
      h.nodes id hown]
  · intro id hown
    have hne : (e.counts.allocate (s.baseId name)).1 ≠ id := fun heq => hown (heq ▸ howns)
    simp only [declare_snd, hid, Keyed.get?_insert h.typed.nodes, Keyed.get?_insert h.typed_alone.nodes, if_neg hne]
    exact h.nodes_before id hown
  · simp only [declare_snd, hid, h.compositions, List.append_assoc]
  · simp only [declare_snd, hid, h.heritage, List.append_assoc]
  · exact h.calls

theorem apart_stable (f : AstFile) (d₀ : GraphDraft) : Stable f.moduleScope (Apart f d₀) where
  call callee _ h := h.addCall _ callee
  declare name _ hs _ h := h.declare hs _ name _

/-- A file adds to a draft that holds nothing of its own what it adds to an empty one. -/
theorem addFile_apart (htyped : d.Typed) (hpath : f.modulePath ∉ d.modules.keys)
    (hcounts : ∀ id, Owns f.moduleId id → d.counts.lookup id = none)
    (hnodes : ∀ id, Owns f.moduleId id → d.nodes.get? id = none) : Apart f d (d.addFile f) (addFile {} f) := by
  have hempty : ({} : GraphDraft).Typed := addFiles_typed []
  rw [addFile_of_notMem hpath, addFile_of_notMem (d := {}) List.not_mem_nil]
  refine (apart_stable f d).walkAll (.refl _) ?_ f.root.children
  refine ⟨htyped.addModule f, hempty.addModule f, ?_, ?_, ?_, ?_, ?_, ?_, ?_⟩
  · intro id hown
    simp only [addModule, IdCounts.lookup_restart, hcounts id hown]
    rfl
  · intro id hown
    have hne : id ≠ f.moduleId := fun heq => hown (.inl heq)
    simp only [addModule, IdCounts.lookup_restart, if_neg hne]
  · intro id hown
    simp only [addModule, Keyed.get?_insert htyped.nodes, Keyed.get?_insert hempty.nodes, hnodes id hown, Keyed.get?_nil]
  · intro id hown
    have hne : f.moduleId ≠ id := fun heq => hown (.inl heq.symm)
    simp only [addModule, Keyed.get?_insert htyped.nodes, Keyed.get?_insert hempty.nodes, if_neg hne, Keyed.get?_nil,
      and_self]
  · simp [addModule]
  · simp [addModule]
  · simp [addModule]

theorem owns_of_alone {id : String} {x : Entity} (h : (addFile {} f).nodes.get? id = some x) : Owns f.moduleId id := by
  by_contra hown
  have hapart : Apart f {} (addFile {} f) (addFile {} f) :=
    addFile_apart (addFiles_typed []) List.not_mem_nil (fun _ _ => rfl) (fun _ _ => rfl)
  rw [(hapart.nodes_before id hown).2] at h
  cases h

/-- A draft that holds what each of the files alone gives. -/
structure Assembled (files : List AstFile) (d : GraphDraft) : Prop where
  counts : ∀ id n, d.counts.lookup id = some n → ∃ f ∈ files, Owns f.moduleId id
  nodes : ∀ id x, d.nodes.get? id = some x ↔ ∃ f ∈ files, (addFile {} f).nodes.get? id = some x
  compositions : d.compositions = files.flatMap fun f => (addFile {} f).compositions
  heritage : d.heritage = files.flatMap fun f => (addFile {} f).heritage
  calls : d.calls = files.flatMap fun f => (addFile {} f).calls

theorem addFiles_assembled (hpaths : (files.map AstFile.modulePath).Nodup) (hids : (files.map AstFile.moduleId).Nodup)
    (hcolon : ∀ f ∈ files, ':' ∉ f.path.toList) : Assembled files (addFiles {} files) := by
  induction files using List.reverseRecOn with
  | nil =>
    refine ⟨?_, by simp [addFiles], rfl, rfl, rfl⟩
    intro id n hn
    cases hn
  | append_singleton files f ih =>
    obtain ⟨hpaths, hpath⟩ := AstFile.nodup_map_concat.mp hpaths
    obtain ⟨hids, hid⟩ := AstFile.nodup_map_concat.mp hids
    have hd := ih hpaths hids fun g hg => hcolon g (List.mem_append_left _ hg)
    have hcolonf : ':' ∉ f.path.toList := hcolon f (List.mem_append_right _ (List.mem_singleton_self f))
    -- the draft so far knows nothing under the ids of this file, so that both walks give the same ids
    have hforeign : ∀ {id}, Owns f.moduleId id → ∀ g ∈ files, ¬ Owns g.moduleId id := by
      intro id hown g hg hown'
      have heq := AstFile.moduleId_eq_of_owns (hcolon g (List.mem_append_left _ hg)) hcolonf hown' hown
      exact hid (heq ▸ List.mem_map_of_mem hg)
    have hapart : Apart f (addFiles {} files) ((addFiles {} files).addFile f) (addFile {} f) := by
      apply addFile_apart (addFiles_typed files)
      · rwa [(addFiles_gathered hpaths).mem_keys]
      · intro id hown
        rw [Option.eq_none_iff_forall_ne_some]
        intro n hn
        obtain ⟨g, hg, hown'⟩ := hd.counts id n hn
        exact hforeign hown g hg hown'
      · intro id hown
        rw [Option.eq_none_iff_forall_ne_some]
        intro x hx
        obtain ⟨g, hg, halone⟩ := (hd.nodes id x).mp hx
        exact hforeign hown g hg (owns_of_alone halone)
    rw [addFiles_concat]
    refine ⟨?_, ?_, ?_, ?_, ?_⟩
    · intro id n hn
      by_cases hown : Owns f.moduleId id
      · exact ⟨f, List.mem_append_right _ (List.mem_singleton_self f), hown⟩
      · rw [hapart.counts_before id hown] at hn
        obtain ⟨g, hg, hown'⟩ := hd.counts id n hn
        exact ⟨g, List.mem_append_left _ hg, hown'⟩
    · intro id x
      simp only [List.mem_append, List.mem_singleton, or_and_right, exists_or, exists_eq_left, ← hd.nodes]
      by_cases hown : Owns f.moduleId id
      · rw [hapart.nodes id hown]
        refine ⟨.inr, ?_⟩
        rintro (hx | hx)
        · obtain ⟨g, hg, halone⟩ := (hd.nodes id x).mp hx
          exact absurd (owns_of_alone halone) (hforeign hown g hg)
        · exact hx
      · obtain ⟨hbefore, hnone⟩ := hapart.nodes_before id hown
        rw [hbefore, hnone]
        simp
    · rw [hapart.compositions, hd.compositions, List.flatMap_append, List.flatMap_singleton]
    · rw [hapart.heritage, hd.heritage, List.flatMap_append, List.flatMap_singleton]
    · rw [hapart.calls, hd.calls, List.flatMap_append, List.flatMap_singleton]

end GraphDraft
end CodeAudit
