import CodeAudit.Proofs.Audit.Mirror

/-! What the results of a run say: one record for every violation and every finding, in order, with what it reports,
the language of its file and its categories. -/
namespace CodeAudit

/-- The categories of a rule are those of the table of known rules. A rule that is not in it has the ones that are
inferred. -/
inductive CategoriesOf (rule : String) (inferred : MainCategory × SubCategory) : MainCategory → SubCategory → Prop
  | known {main : MainCategory} {sub : SubCategory} (h : (rule, main, sub) ∈ categoryTable) :
    CategoriesOf rule inferred main sub
  | unknown (h : ∀ line ∈ categoryTable, line.1 ≠ rule) : CategoriesOf rule inferred inferred.1 inferred.2

theorem categoriesOf_getD (rule : String) (inferred : MainCategory × SubCategory) :
    CategoriesOf rule inferred ((categoryTable.lookup rule).getD inferred).1
      ((categoryTable.lookup rule).getD inferred).2 := by
  cases hlookup : categoryTable.lookup rule with
  | none =>
    refine .unknown fun line hline heq => ?_
    exact absurd heq.symm (bne_iff_ne.mp (List.lookup_eq_none_iff.mp hlookup line hline))
  | some categories =>
    obtain ⟨before, after, hsplit, -⟩ := List.lookup_eq_some_iff.mp hlookup
    apply CategoriesOf.known
    rw [hsplit]
    exact List.mem_append_right before List.mem_cons_self

namespace RunContext

/-- The language of a path is that of the last mapping for it. A path without one has none. -/
inductive Speaks (c : RunContext) (path : String) : Language → Prop
  | mapped {before after : List LanguageMapping} {m : LanguageMapping} (hsplit : c.mappings = before ++ m :: after)
      (hpath : m.path = path) (hlast : ∀ later ∈ after, later.path ≠ path) : Speaks c path m.language
  | unmapped (h : ∀ m ∈ c.mappings, m.path ≠ path) : Speaks c path .unknown

theorem speaks_languageOf (c : RunContext) (path : String) : c.Speaks path (c.languageOf path) := by
  unfold languageOf
  cases hfind : c.mappings.reverse.find? fun m => m.path = path with
  | none =>
    refine .unmapped fun m hm => ?_
    simpa using List.find?_eq_none.mp hfind m (List.mem_reverse.mpr hm)
  | some m =>
    obtain ⟨hpath, behind, front, hsplit, hbehind⟩ := List.find?_eq_some_iff_append.mp hfind
    have hforward : c.mappings = front.reverse ++ m :: behind.reverse := by
      rw [← List.reverse_reverse c.mappings, hsplit]
      simp
    refine .mapped hforward (of_decide_eq_true hpath) fun later hlater => ?_
    simpa using hbehind later (List.mem_reverse.mp hlater)

/-- A result is the record of what a violation or a finding says, whatever an assistant adds to it. -/
inductive Records (c : RunContext) : FindingSource → NormalizedResult → Prop
  | violation {v : Violation} {language : Language} {main : MainCategory} {sub : SubCategory} (id : String)
      (assistance : Assistance) (hlanguage : c.Speaks v.file language)
      (hcategories : CategoriesOf v.rule
        (MainCategory.infer v.category, SubCategory.infer (v.ruleName ++ " " ++ v.rule)) main sub) :
    Records c (.violation v)
      { id := id
        project := c.project
        execution := c.execution
        file := v.file
        lineStart := v.location.startLine
        lineEnd := max v.location.endLine v.location.startLine
        language := language
        main := main
        sub := sub
        rule := v.rule
        severity := v.severity
        message := v.message
        suggestion := v.suggestion
        raw := (FindingSource.violation v).toRaw
        assistance := assistance
        deterministic := true }
  | finding {f : Finding} {language : Language} {main : MainCategory} {sub : SubCategory} (id : String)
      (assistance : Assistance) (hlanguage : c.Speaks f.location.file language)
      (hcategories : CategoriesOf f.kind.name (.quality, SubCategory.infer f.kind.name) main sub) :
    Records c (.static f)
      { id := id
        project := c.project
        execution := c.execution
        file := f.location.file
        lineStart := f.location.startLine
        lineEnd := max f.location.endLine f.location.startLine
        language := language
        main := main
        sub := sub
        rule := f.kind.name
        severity := f.severity
        message := f.message
        suggestion := none
        raw := (FindingSource.static f).toRaw
        assistance := assistance
        deterministic := true }

/-- The results of a run hold one record for each violation or finding, in order, under ids of their own. -/
structure RecordsAll (c : RunContext) (sources : List FindingSource) (results : List NormalizedResult) : Prop where
  records : List.Forall₂ c.Records sources results
  ids_nodup : (results.map (·.id)).Nodup

variable {c : RunContext} {source : FindingSource} {r : NormalizedResult} {sources : List FindingSource}
  {results : List NormalizedResult}

theorem records_violation (c : RunContext) (v : Violation) (place : Nat) :
    c.Records (.violation v) (c.normalize v.categorize place) :=
  .violation (c.resultId place) {} (c.speaks_languageOf v.file) (categoriesOf_getD v.rule _)

theorem records_finding (c : RunContext) (f : Finding) (place : Nat) :
    c.Records (.static f) (c.normalize f.categorize place) :=
  .finding (c.resultId place) {} (c.speaks_languageOf f.location.file) (categoriesOf_getD f.kind.name _)

/-- What an assistant writes makes no difference. -/
theorem Records.of_unassisted (h : c.Records source r.unassisted) : c.Records source r := by
  cases r with
  | mk id project execution file lineStart lineEnd language main sub rule severity message suggestion raw assistance
      deterministic =>
    cases h with
    | violation _ _ hlanguage hcategories => exact .violation id assistance hlanguage hcategories
    | finding _ _ hlanguage hcategories => exact .finding id assistance hlanguage hcategories

theorem forall₂_normalize {rs : List CategorizedResult} (h : ∀ r ∈ rs, ∀ place, c.Records r.source (c.normalize r place))
    (place : Nat) :
    List.Forall₂ c.Records (rs.map (·.source)) ((rs.zipIdx place).map fun r => c.normalize r.1 r.2) := by
  induction rs generalizing place with
  | nil => exact .nil
  | cons r rest ih =>
    rw [List.zipIdx_cons, List.map_cons, List.map_cons]
    exact .cons (h r List.mem_cons_self place) (ih (fun r' hr' => h r' (List.mem_cons_of_mem r hr')) (place + 1))

theorem recordsAll_normalizeAll {n : Nat} (hc : c.execution = s!"run-{n}") (violations : List Violation)
    (findings : List Finding) :
    c.RecordsAll (violations.map .violation ++ findings.map .static)
      (c.normalizeAll (categorizeAll violations findings)) := by
  have hsources : (categorizeAll violations findings).map (·.source) =
      violations.map .violation ++ findings.map .static := by
    rw [categorizeAll, List.map_append, List.map_map, List.map_map]
    rfl
  refine ⟨hsources ▸ forall₂_normalize ?_ 0, nodup_ids_normalizeAll hc _⟩
  intro r hr place
  rcases List.mem_append.mp hr with hr | hr
  · obtain ⟨v, -, rfl⟩ := List.mem_map.mp hr
    exact c.records_violation v place
  · obtain ⟨f, -, rfl⟩ := List.mem_map.mp hr
    exact c.records_finding f place

theorem RecordsAll.of_unassisted (h : c.RecordsAll sources (results.map NormalizedResult.unassisted)) :
    c.RecordsAll sources results where
  records := (List.forall₂_map_right_iff.mp h.records).imp fun _ _ => Records.of_unassisted
  ids_nodup := by
    have hids : (results.map NormalizedResult.unassisted).map (·.id) = results.map (·.id) := by
      rw [List.map_map]
      rfl
    exact hids ▸ h.ids_nodup

end RunContext
end CodeAudit
