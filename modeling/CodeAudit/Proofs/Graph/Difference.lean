import CodeAudit.Graph.Difference
import CodeAudit.Proofs.Sorting
import CodeAudit.Proofs.Graph.Index

/-! What the difference of two graphs tells, id by id. Both lists of a graph's own nodes that enter it, those
that the other graph lacks and those that it has with another hash, are read off the lookups of the two. -/
namespace CodeAudit

theorem Keyed.mem_keys_iff {κ β : Type} {m : Keyed κ β} {k : κ} : k ∈ m.keys ↔ ∃ v, (k, v) ∈ m := by
  simp [keys]

/-- The keys of a part of a sorted map are in strictly increasing order. -/
theorem Keyed.Sorted.pairwise_keys {κ β : Type} [LT κ] {m m' : Keyed κ β} (h : m.Sorted) (hpart : m'.Sublist m) :
    m'.keys.Pairwise (· < ·) := by
  rw [keys, List.pairwise_map]
  exact h.sublist hpart

/-- Lists in strictly increasing order are known by their members. -/
theorem eq_of_pairwise_lt {α : Type} [Preorder α] {xs ys : List α} (hxs : xs.Pairwise (· < ·))
    (hys : ys.Pairwise (· < ·)) (h : ∀ x, x ∈ xs ↔ x ∈ ys) : xs = ys := by
  have hperm : xs.Perm ys := (List.perm_ext_iff_of_nodup (hxs.imp ne_of_lt) (hys.imp ne_of_lt)).mpr h
  refine hperm.eq_of_pairwise ?_ hxs hys
  exact fun a b _ _ hab hba => absurd hba (lt_asymm hab)

namespace CodeGraph

variable {g other older newer : CodeGraph} {id : String} {e : Entity}

/-- The content hash that a graph has under an id. -/
def hash? (g : CodeGraph) (id : String) : Option String := (g.node? id).map (·.contentHash)

theorem pair_mem_missingFrom_iff (h : Keyed.Sorted g.nodes) :
    (id, e) ∈ g.missingFrom other ↔ g.node? id = some e ∧ other.node? id = none := by
  rw [missingFrom, List.mem_filter, Keyed.mem_iff_get? h, Bool.not_eq_true', ← Bool.not_eq_true,
    Keyed.contains_iff_mem_keys, ← Keyed.get?_eq_none_iff]
  rfl

theorem pair_mem_changedSince_iff (h : Keyed.Sorted g.nodes) :
    (id, e) ∈ g.changedSince older ↔
      g.node? id = some e ∧ ∃ old, older.node? id = some old ∧ old.contentHash ≠ e.contentHash := by
  rw [changedSince, List.mem_filter, Keyed.mem_iff_get? h]
  refine and_congr_right fun _ => ?_
  dsimp only
  cases older.node? id with
  | none => simp
  | some old => simp

/-- The ids that only one of two graphs has. -/
theorem mem_keys_missingFrom_iff (h : Keyed.Sorted g.nodes) :
    id ∈ (g.missingFrom other).keys ↔ (g.hash? id).isSome = true ∧ other.hash? id = none := by
  rw [Keyed.mem_keys_iff, hash?, hash?, Option.isSome_map, Option.isSome_iff_exists, Option.map_eq_none_iff]
  simp only [pair_mem_missingFrom_iff h, exists_and_right]

/-- The ids that two graphs have with different hashes. -/
theorem mem_keys_changedSince_iff (h : Keyed.Sorted g.nodes) :
    id ∈ (g.changedSince older).keys ↔
      ∃ new old, g.hash? id = some new ∧ older.hash? id = some old ∧ new ≠ old := by
  rw [Keyed.mem_keys_iff]
  simp only [pair_mem_changedSince_iff h, hash?, Option.map_eq_some_iff]
  constructor
  · rintro ⟨e, he, old, hold, hne⟩
    exact ⟨_, _, ⟨e, he, rfl⟩, ⟨old, hold, rfl⟩, hne.symm⟩
  · rintro ⟨_, _, ⟨e, he, rfl⟩, ⟨old, hold, rfl⟩, hne⟩
    exact ⟨e, he, old, hold, hne.symm⟩

theorem missingFrom_sublist (g other : CodeGraph) : (g.missingFrom other).Sublist g.nodes := List.filter_sublist

theorem changedSince_sublist (g older : CodeGraph) : (g.changedSince older).Sublist g.nodes := List.filter_sublist

/-- A node is a reason to look at its file again. -/
theorem mem_files_difference_iff (hold : Keyed.Sorted older.nodes) (hnew : Keyed.Sorted newer.nodes) {file : String} :
    let d := older.difference newer
    file ∈ d.files ↔ file ≠ "" ∧
      ((∃ id e, (id ∈ d.added ∨ id ∈ d.modified) ∧ newer.node? id = some e ∧ e.file = file) ∨
        ∃ id e, id ∈ d.removed ∧ older.node? id = some e ∧ e.file = file) := by
  intro d
  have hfiles : file ∈ d.files ↔ file ≠ "" ∧ ∃ id e, e.file = file ∧ (((id, e) ∈ newer.missingFrom older ∨
      (id, e) ∈ newer.changedSince older) ∨ (id, e) ∈ older.missingFrom newer) := by
    change file ∈ Text.sortedDistinct _ ↔ _
    rw [Text.mem_sortedDistinct, List.mem_filter, decide_eq_true_iff, and_comm, Keyed.values]
    simp only [List.map_map, List.mem_map, List.mem_append, Prod.exists, Function.comp_apply, and_comm]
  rw [hfiles]
  refine and_congr_right fun _ => ?_
  -- a key of a list of nodes is that of the node which the graph has under it
  have hkey : ∀ {g : CodeGraph} {part : Keyed String Entity}, Keyed.Sorted g.nodes → part.Sublist g.nodes →
      ∀ {id e}, (id, e) ∈ part ↔ id ∈ part.keys ∧ g.node? id = some e := by
    intro g part hg hpart id e
    rw [Keyed.mem_keys_iff]
    constructor
    · intro h
      exact ⟨⟨e, h⟩, Keyed.get?_of_mem hg (hpart.subset h)⟩
    · rintro ⟨⟨e', h⟩, hnode⟩
      have hnode' : g.node? id = some e' := Keyed.get?_of_mem hg (hpart.subset h)
      obtain rfl : e' = e := Option.some.inj (hnode'.symm.trans hnode)
      exact h
  simp only [hkey hnew (newer.missingFrom_sublist older), hkey hnew (newer.changedSince_sublist older),
    hkey hold (older.missingFrom_sublist newer)]
  constructor
  · rintro ⟨id, e, hfile, (⟨hid, he⟩ | ⟨hid, he⟩) | ⟨hid, he⟩⟩
    · exact .inl ⟨id, e, .inl hid, he, hfile⟩
    · exact .inl ⟨id, e, .inr hid, he, hfile⟩
    · exact .inr ⟨id, e, hid, he, hfile⟩
  · rintro (⟨id, e, hid | hid, he, hfile⟩ | ⟨id, e, hid, he, hfile⟩)
    · exact ⟨id, e, hfile, .inl (.inl ⟨hid, he⟩)⟩
    · exact ⟨id, e, hfile, .inl (.inr ⟨hid, he⟩)⟩
    · exact ⟨id, e, hfile, .inr ⟨hid, he⟩⟩

/-- No id is in two of the lists. -/
theorem disjoint_difference (hold : Keyed.Sorted older.nodes) (hnew : Keyed.Sorted newer.nodes) :
    let d := older.difference newer
    d.added.Disjoint d.removed ∧ d.added.Disjoint d.modified ∧ d.removed.Disjoint d.modified := by
  refine ⟨fun id hcame hwent => ?_, fun id hcame hchanged => ?_, fun id hwent hchanged => ?_⟩
  · have hhad := ((mem_keys_missingFrom_iff hold).mp hwent).1
    rw [((mem_keys_missingFrom_iff hnew).mp hcame).2] at hhad
    cases hhad
  · obtain ⟨_, _, -, hhad, -⟩ := (mem_keys_changedSince_iff hnew).mp hchanged
    rw [((mem_keys_missingFrom_iff hnew).mp hcame).2] at hhad
    cases hhad
  · obtain ⟨_, _, hhas, -, -⟩ := (mem_keys_changedSince_iff hnew).mp hchanged
    rw [((mem_keys_missingFrom_iff hold).mp hwent).2] at hhas
    cases hhas

/-- What changed one way changed the other way. -/
theorem modified_comm (hold : Keyed.Sorted older.nodes) (hnew : Keyed.Sorted newer.nodes) :
    (older.difference newer).modified = (newer.difference older).modified := by
  refine eq_of_pairwise_lt (hnew.pairwise_keys (newer.changedSince_sublist older))
    (hold.pairwise_keys (older.changedSince_sublist newer)) fun id => ?_
  change id ∈ (newer.changedSince older).keys ↔ id ∈ (older.changedSince newer).keys
  rw [mem_keys_changedSince_iff hnew, mem_keys_changedSince_iff hold]
  constructor
  · rintro ⟨x, y, hx, hy, hne⟩
    exact ⟨y, x, hy, hx, hne.symm⟩
  · rintro ⟨x, y, hx, hy, hne⟩
    exact ⟨y, x, hy, hx, hne.symm⟩

/-- An id that is in no list has the same hash in both graphs, or none. -/
theorem unlisted_iff (hold : Keyed.Sorted older.nodes) (hnew : Keyed.Sorted newer.nodes) :
    (id ∉ (older.difference newer).added ∧ id ∉ (older.difference newer).removed ∧
      id ∉ (older.difference newer).modified) ↔ older.hash? id = newer.hash? id := by
  have hadded : id ∈ (older.difference newer).added ↔ _ := mem_keys_missingFrom_iff hnew
  have hremoved : id ∈ (older.difference newer).removed ↔ _ := mem_keys_missingFrom_iff hold
  have hmodified : id ∈ (older.difference newer).modified ↔ _ := mem_keys_changedSince_iff hnew
  rw [hadded, hremoved, hmodified]
  cases older.hash? id <;> cases newer.hash? id <;> simp [eq_comm]

theorem isEmpty_difference_iff (hold : Keyed.Sorted older.nodes) (hnew : Keyed.Sorted newer.nodes) :
    (older.difference newer).isEmpty = true ↔ ∀ id, older.hash? id = newer.hash? id := by
  have hempty {d : GraphDifference} : d.isEmpty = true ↔ d.added = [] ∧ d.removed = [] ∧ d.modified = [] := by
    simp only [GraphDifference.isEmpty, Bool.and_eq_true, List.isEmpty_iff, and_assoc]
  rw [hempty]
  simp only [List.eq_nil_iff_forall_not_mem, ← forall_and, unlisted_iff hold hnew]

/-- The laws of differences, for all graphs whose nodes stand in the order of their ids. The three lists of ids
are strictly increasing and have no id in common; what has come one way has gone the other way; an id is in none
of them exactly if both graphs have the same hash under it or neither has a node; a difference is empty exactly if
this is so for all ids; and the files to look at again are those of the nodes that came, changed or went. -/
theorem difference_laws (hold : Keyed.Sorted older.nodes) (hnew : Keyed.Sorted newer.nodes) :
    let d := older.difference newer
    let back := newer.difference older
    (d.added.Pairwise (· < ·) ∧ d.removed.Pairwise (· < ·) ∧ d.modified.Pairwise (· < ·)) ∧
      (d.added.Disjoint d.removed ∧ d.added.Disjoint d.modified ∧ d.removed.Disjoint d.modified) ∧
      (d.added = back.removed ∧ d.removed = back.added ∧ d.modified = back.modified) ∧
      (∀ id, id ∈ d.added ↔ older.node? id = none ∧ newer.node? id ≠ none) ∧
      (∀ id, (id ∉ d.added ∧ id ∉ d.removed ∧ id ∉ d.modified) ↔
        (∃ e e', older.node? id = some e ∧ newer.node? id = some e' ∧ e.contentHash = e'.contentHash) ∨
          (older.node? id = none ∧ newer.node? id = none)) ∧
      (d.isEmpty = true ↔ ∀ id, older.hash? id = newer.hash? id) ∧
      d.files.Pairwise (· < ·) ∧
      ∀ file, file ∈ d.files ↔ file ≠ "" ∧
        ((∃ id e, (id ∈ d.added ∨ id ∈ d.modified) ∧ newer.node? id = some e ∧ e.file = file) ∨
          ∃ id e, id ∈ d.removed ∧ older.node? id = some e ∧ e.file = file) := by
  intro d back
  refine ⟨⟨hnew.pairwise_keys (newer.missingFrom_sublist older), hold.pairwise_keys (older.missingFrom_sublist newer),
    hnew.pairwise_keys (newer.changedSince_sublist older)⟩, disjoint_difference hold hnew,
    ⟨rfl, rfl, modified_comm hold hnew⟩, fun id => ?_, fun id => ?_, isEmpty_difference_iff hold hnew,
    Text.pairwise_sortedDistinct _, fun file => mem_files_difference_iff hold hnew⟩
  · have hadded : id ∈ d.added ↔ _ := mem_keys_missingFrom_iff hnew
    rw [hadded, hash?, hash?, Option.isSome_map, Option.map_eq_none_iff, ← Option.ne_none_iff_isSome, and_comm]
  · rw [unlisted_iff hold hnew, hash?, hash?]
    cases older.node? id <;> cases newer.node? id <;> simp

/-- A module that imports from outside the project, or what stands in its place. -/
def settingsFile (path hash : String) (imports : List ImportInfo) : AstFile where
  path := path
  language := .python
  root := { kind := .moduleScope, location := ⟨path, 1, 1, 2, 1⟩ }
  imports := imports
  contentHash := hash
  fidelity := .full

/-- A module gives way to a stub of the same name, and with it goes what it imported. Its id stays with another
hash and counts for the file of the stub, while what was imported has no file. -/
theorem module_gives_way_to_stub :
    let older := ofFiles [settingsFile "app/settings.py" "module" [.new "os" 1]]
    let newer := ofFiles [settingsFile "app/settings.pyi" "stub" []]
    let d := older.difference newer
    Keyed.Sorted older.nodes ∧ Keyed.Sorted newer.nodes ∧ d.removed = ["external:os"] ∧
      d.modified = ["python:app/settings"] ∧ "external:os" ∈ (newer.difference older).added ∧
      "external:os" ∉ d.added ∧ d.isEmpty = false ∧ "app/settings.pyi" ∈ d.files ∧ "" ∉ d.files := by
  intro older newer d
  have hold : Keyed.Sorted older.nodes := (ordered_ofFiles _).sorted
  have hnew : Keyed.Sorted newer.nodes := (ordered_ofFiles _).sorted
  have hremoved : d.removed = ["external:os"] := by decide +kernel
  have hmodified : d.modified = ["python:app/settings"] := by decide +kernel
  obtain ⟨-, hdisjoint, hback, -, -, hempty, -, hfiles⟩ := difference_laws hold hnew
  have hwent : "external:os" ∈ d.removed := by simp [hremoved]
  have hchanged : "python:app/settings" ∈ d.modified := by simp [hmodified]
  refine ⟨hold, hnew, hremoved, hmodified, ?_, fun h => hdisjoint.1 h hwent, ?_, ?_, ?_⟩
  · rwa [← hback.2.1]
  · cases hd : d.isEmpty with
    | false => rfl
    | true =>
      have hnode : older.hash? "external:os" = none := hempty.mp hd "external:os"
      exact absurd hnode (by decide +kernel)
  · refine (hfiles _).mpr ⟨by decide, .inl ⟨"python:app/settings", _, .inr hchanged, rfl, ?_⟩⟩
    decide +kernel
  · exact fun h => ((hfiles _).mp h).1 rfl

end CodeGraph
end CodeAudit
