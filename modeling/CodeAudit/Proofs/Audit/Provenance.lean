import CodeAudit.Proofs.Analysis.Places
import CodeAudit.Proofs.Audit.Recovered
import CodeAudit.Proofs.Cache.Transparency
import CodeAudit.Proofs.Path
import CodeAudit.Proofs.Rules.Reports

/-! Where the results of a run lie. Rules and analyses report files that the run has kept, also when
their trees come from the cache of earlier runs. The language of a result is looked up by the path that
was reported, and this is not always the path that the file was given. -/
namespace CodeAudit

open Syntax

namespace AstFile

theorem path_ofFile (parser : SyntaxParser) (f : SourceFile) (l : Language) : (ofFile parser f l).path = f.path := by
  unfold ofFile
  split
  · exact path_ofContent _ _ l
  · rfl

end AstFile

theorem LanguageMapping.path_ofFile (f : SourceFile) : (ofFile f).path = f.path := by
  unfold ofFile ofPath
  split
  · rfl
  · split <;> rfl

namespace AstCache

variable {parser : SyntaxParser} {c : AstCache AstFile}

/-- The cache holds nothing but trees that the parser has read. -/
def Genuine (parser : SyntaxParser) (c : AstCache AstFile) : Prop := ∃ calls, c.ReadFor parser calls

theorem Genuine.parse (h : c.Genuine parser) (f : SourceFile) (l : Language) :
    (c.parse parser f l).2.Genuine parser := by
  obtain ⟨calls, h⟩ := h
  exact ⟨calls ++ [(f, l)], h.parse f l⟩

/-- The tree that is given for a file is of this file, whoever asked for it first. -/
theorem Genuine.of_parse (h : c.Genuine parser) (f : SourceFile) (l : Language) :
    (c.parse parser f l).1.path = f.path ∧ (c.parse parser f l).1.Located := by
  rw [parse_fst]
  cases hheld : c.heldFor? f with
  | none => exact ⟨AstFile.path_ofFile parser f l, AstFile.located_ofFile parser f l⟩
  | some t =>
    obtain ⟨calls, hread⟩ := h
    obtain ⟨content, -, hget⟩ := Option.bind_eq_some_iff.mp hheld
    obtain ⟨g, m, stored, -, -, heq⟩ := hread _ (mem_entries_of_find? ((get_fst _ _ _).mp hget))
    simp only [Prod.mk.injEq] at heq
    obtain ⟨hpath, -, rfl⟩ := heq
    rw [Option.getD_some, AstFile.path_ofContent]
    exact ⟨hpath.symm, AstFile.located_ofContent parser _ _ m⟩

end AstCache

namespace Auditor

variable {a : Auditor} {st : AuditState} {project : String} {files : List SourceFile} {stage : Stage}
  {s : RunState} {parser : SyntaxParser} {c : AstCache AstFile}

theorem genuine_parseAll (h : c.Genuine parser) (caching : Bool) (calls : List (SourceFile × Language)) :
    (parseAll parser caching c calls).2.Genuine parser := by
  induction calls generalizing c with
  | nil => exact h
  | cons x rest ih =>
    cases caching with
    | false => exact ih h
    | true => exact ih (h.parse x.1 x.2)

theorem of_mem_parseAll {caching : Bool} {calls : List (SourceFile × Language)} {t : AstFile}
    (h : c.Genuine parser) (ht : t ∈ (parseAll parser caching c calls).1) : t.Located ∧ ∃ x ∈ calls, t.path = x.1.path := by
  induction calls generalizing c with
  | nil => cases ht
  | cons x rest ih =>
    have htail : ∀ {c : AstCache AstFile}, c.Genuine parser → t ∈ (parseAll parser caching c rest).1 →
        t.Located ∧ ∃ y ∈ x :: rest, t.path = y.1.path := by
      intro c h ht
      obtain ⟨hlocated, y, hy, hpath⟩ := ih h ht
      exact ⟨hlocated, y, List.mem_cons_of_mem x hy, hpath⟩
    cases caching with
    | false =>
      rcases List.mem_cons.mp ht with rfl | ht
      · exact ⟨AstFile.located_ofFile parser x.1 x.2, x, List.mem_cons_self, AstFile.path_ofFile parser x.1 x.2⟩
      · exact htail h ht
    | true =>
      rcases List.mem_cons.mp ht with rfl | ht
      · obtain ⟨hpath, hlocated⟩ := h.of_parse x.1 x.2
        exact ⟨hlocated, x, List.mem_cons_self, hpath⟩
      · exact htail (h.parse x.1 x.2) ht

/-- Only parsing works on the cache. -/
theorem genuine_work (h : s.cache.Genuine a.parser) (stage : Stage) : (a.work stage s).state.cache.Genuine a.parser := by
  cases stage with
  | languageDetection | staticAnalysis | categorization => exact h
  | astParsing =>
    simp only [work, parse]
    split
    · exact h
    · exact genuine_parseAll h _ _
  | graphConstruction | ruleExecution =>
    simp only [work, buildGraph, runRules]
    split <;> exact h
  | normalization =>
    obtain ⟨sink, hstate⟩ := normalize_state s
    rw [work, hstate]
    exact h
  | enhancement =>
    simp only [work]
    split
    · rename_i e _
      obtain ⟨sink, hstate⟩ := enhance_state (a := a) e s
      rw [hstate]
      exact h
    · exact h

theorem genuine_perform (h : s.cache.Genuine a.parser) (stage : Stage) : (a.perform stage s).2.cache.Genuine a.parser := by
  have hstopped : ∀ {f t t'}, RunState.Stopped stage f t t' → t.cache.Genuine a.parser → t'.cache.Genuine a.parser := by
    rintro f t t' ⟨⟨news, sink, faults, rfl, -⟩, -⟩ ht
    exact ht
  unfold perform
  split
  case h_1 reason _ =>
    obtain ⟨sink, hpublish⟩ | ⟨f, -, -, hpublish⟩ := s.publish_cases (.skipped s.execution stage reason) <;>
      rw [hpublish] <;> exact h
  case h_2 =>
    have hwork : ∀ news sink, (a.work stage (s.noted news sink [])).state.cache.Genuine a.parser := by
      intro news sink
      have hnoted : (s.noted news sink []).cache.Genuine a.parser := h
      exact genuine_work hnoted stage
    obtain ⟨news, news', sink, sink', d, -, hrun⟩ | ⟨f, s', hrun, hs | ⟨news, sink, hs⟩⟩ :=
      s.runStage_cases stage (a.work stage) <;> rw [hrun]
    · exact hwork news sink
    · exact hstopped hs h
    · exact hstopped hs (hwork news sink)

theorem genuine_performAll (h : s.cache.Genuine a.parser) (stages : List Stage) :
    (a.performAll stages s).2.cache.Genuine a.parser := by
  induction stages generalizing s with
  | nil => exact h
  | cons stage rest ih =>
    have hstage := genuine_perform (a := a) h stage
    unfold performAll
    split
    case h_1 f t hperform =>
      rw [hperform] at hstage
      exact hstage
    case h_2 t hperform =>
      rw [hperform] at hstage
      exact ih hstage

/-- The states that an auditor comes to, run after run. -/
inductive Reachable (a : Auditor) : AuditState → Prop where
  | initial (sink : Option Sink) : Reachable a (a.initialState sink)
  | run {st : AuditState} (h : Reachable a st) (project : String) (collected : Except String (List SourceFile)) :
      Reachable a (a.runCollected st project collected).2
  | listen {st : AuditState} (h : Reachable a st) : Reachable a st.listen

theorem Reachable.genuine (h : a.Reachable st) : st.cache.Genuine a.parser := by
  induction h with
  | initial sink => exact ⟨[], AstCache.readFor_empty _⟩
  | run _ project collected ih =>
    cases collected with
    | error why => exact ih
    | ok files => exact genuine_performAll ih Stage.all
  | listen _ ih => exact ih

/-- The files of a run and the trees that were read from them. -/
def projectOf (a : Auditor) (st : AuditState) (files : List SourceFile) : Project :=
  ⟨(a.readData st files).files, (a.readData st files).trees⟩

theorem grounded_projectOf (h : st.cache.Genuine a.parser) : (a.projectOf st files).Grounded := by
  constructor
  · intro t ht
    exact (of_mem_parseAll h ht).1
  · intro t ht
    obtain ⟨-, x, hx, hpath⟩ := of_mem_parseAll h ht
    exact ⟨x.1, (List.of_mem_zip (List.mem_filter.mp hx).1).1, hpath⟩

/-- An analysis returns its own findings or none. -/
theorem returned_subset (a : Auditor) (x : String × List Finding) : a.returned x ⊆ x.2 := by
  cases hrun : (a.analysisRun x).outcome with
  | ok found =>
    rw [(returned_of_ok hrun).1]
    exact List.Subset.refl _
  | error f =>
    rw [returned, hrun]
    exact List.nil_subset _

theorem places_of_mem_staticFindings (h : st.cache.Genuine a.parser) {x : Finding} (hx : x ∈ a.staticFindings st files) :
    (a.projectOf st files).Places x := by
  have hp : (a.projectOf st files).Grounded := grounded_projectOf h
  rw [staticFindings, runAnalyses_eq rfl, List.mem_mergeSort, List.mem_flatMap] at hx
  obtain ⟨analysis, hanalysis, hx⟩ := hx
  have hx := returned_subset a analysis hx
  simp only [analysesOf, analyses, List.mem_cons, List.not_mem_nil, or_false] at hanalysis
  rcases hanalysis with rfl | rfl | rfl | rfl
  · exact Complexity.places_of_mem_findings hp hx
  · exact Layering.places_of_mem_findings hp hx
  · exact Coupling.places_of_mem_findings hp hx
  · exact Calling.places_of_mem_findings hp hx

theorem file_of_mem_ruleViolations (h : st.cache.Genuine a.parser) (hsets : ∀ s ∈ a.ruleSets, s.ReportsOwnFiles)
    {vs : List Violation} (hvs : a.ruleViolations st files = .ok vs) {v : Violation} (hv : v ∈ vs) :
    ∃ f ∈ files.filter a.keeps, v.file = f.path := by
  obtain ⟨runs, hruns, rfl⟩ := exists_of_map_eq_ok hvs
  rw [Violation.mem_sortByFile, List.mem_append] at hv
  unfold ruleRuns at hruns
  simp only at hruns
  split at hruns
  · cases hruns
  · split at hruns
    · cases hruns
    · rename_i onText htext
      cases hruns
      rcases hv with hv | hv
      · obtain ⟨t, ht, hfile⟩ := RuleEngine.file_of_mem_execute hv
        obtain ⟨f, hf, hpath⟩ := (grounded_projectOf h).sources t ht
        exact ⟨f, hf, hfile.trans hpath⟩
      · obtain ⟨u, hu, hfile⟩ := TextRuleSet.file_of_mem_runAll hsets htext hv
        obtain ⟨x, hx, rfl⟩ := List.mem_map.mp hu
        exact ⟨x.1, (List.of_mem_zip hx).1, hfile⟩

/-- A result is made of a violation or of a finding, and its language is that of the path it reports. -/
theorem source_of_mem_results {r : NormalizedResult} (hr : r ∈ (a.run st project files).1.results) :
    ((∃ vs v, a.ruleViolations st files = .ok vs ∧ v ∈ vs ∧ r.file = v.file) ∨
      ∃ x ∈ a.staticFindings st files, r.file = x.location.file ∧ r.rule = x.kind.name) ∧
    r.language = (a.contextOf st project files).languageOf r.file := by
  obtain ⟨k, s, hs, -, hresults, -⟩ := a.run_kept st project files
  have hmem : r.unassisted ∈ s.salvage := by
    rw [← hresults]
    exact List.mem_map_of_mem hr
  rw [hs.salvage_eq, RunContext.normalizeAll] at hmem
  obtain ⟨⟨source, place⟩, hsource, heq⟩ := List.mem_map.mp hmem
  have hfile : r.file = source.source.file := (congrArg NormalizedResult.file heq).symm
  have hlanguage : r.language = s.context.languageOf r.file := by
    rw [hfile]
    exact (congrArg NormalizedResult.language heq).symm
  have hrule : r.rule = source.source.rule := (congrArg NormalizedResult.rule heq).symm
  have hsource := (List.mem_zipIdx_iff_getElem?.mp hsource)
  rcases List.mem_append.mp (List.mem_of_getElem? hsource) with hsource | hsource
  · obtain ⟨v, hv, rfl⟩ := List.mem_map.mp hsource
    have hproduced := hs.produced.violations
    split at hproduced
    case isTrue hk =>
      refine ⟨.inl ⟨_, v, hproduced, hv, hfile⟩, ?_⟩
      rw [hlanguage, hs.context_eq (Nat.le_trans (by decide) hk)]
    case isFalse =>
      rw [hproduced] at hv
      cases hv
  · obtain ⟨x, hx, rfl⟩ := List.mem_map.mp hsource
    have hproduced := hs.produced.findings
    split at hx
    case isTrue => cases hx
    case isFalse =>
      split at hproduced
      case isTrue hk =>
        rw [hproduced] at hx
        refine ⟨.inr ⟨x, hx, hfile, hrule⟩, ?_⟩
        rw [hlanguage, hs.context_eq (Nat.le_trans (by decide) hk)]
      case isFalse =>
        rw [hproduced] at hx
        cases hx

/-- Under the path of a kept file stands the language that was detected for it. -/
theorem languageOf_path {f : SourceFile} (hdistinct : (files.map fun f => Path.normalize f.path).Nodup)
    (hf : f ∈ files) (hkept : a.keeps f = true) :
    (a.contextOf st project files).languageOf f.path = (LanguageMapping.ofFile f).language := by
  unfold RunContext.languageOf
  cases hfind : (a.contextOf st project files).mappings.reverse.find? fun m => m.path = f.path with
  | none =>
    have hmem : LanguageMapping.ofFile f ∈ (a.contextOf st project files).mappings.reverse :=
      List.mem_reverse.mpr (List.mem_map_of_mem (List.mem_filter.mpr ⟨hf, hkept⟩))
    have hnone := List.find?_eq_none.mp hfind _ hmem
    rw [LanguageMapping.path_ofFile, decide_eq_true rfl] at hnone
    exact absurd rfl hnone
  | some m =>
    have hpath : m.path = f.path := by
      have hfound := List.find?_some hfind
      exact of_decide_eq_true hfound
    obtain ⟨g, hg, rfl⟩ := List.mem_map.mp (List.mem_reverse.mp (List.mem_of_find?_eq_some hfind))
    rw [LanguageMapping.path_ofFile] at hpath
    obtain rfl : g = f := List.inj_on_of_nodup_map hdistinct (List.mem_filter.mp hg).1 hf
      (congrArg Path.normalize hpath)
    rfl

/-- Under a path that no kept file has, no language is known. -/
theorem languageOf_other {path : String} (h : ∀ f ∈ files, a.keeps f = true → f.path ≠ path) :
    (a.contextOf st project files).languageOf path = .unknown := by
  have hfind : ((a.contextOf st project files).mappings.reverse.find? fun m => m.path = path) = none := by
    rw [List.find?_eq_none]
    intro m hm hpath
    obtain ⟨f, hf, rfl⟩ := List.mem_map.mp (List.mem_reverse.mp hm)
    obtain ⟨hf, hkept⟩ := List.mem_filter.mp hf
    refine h f hf hkept ?_
    rw [← LanguageMapping.path_ofFile]
    exact of_decide_eq_true hpath
  rw [RunContext.languageOf, hfind]
  rfl

/-- A result lies in a kept file, under its path or, for some findings, under the normal form of it. -/
theorem file_of_mem_results (h : st.cache.Genuine a.parser) (hsets : ∀ s ∈ a.ruleSets, s.ReportsOwnFiles)
    {r : NormalizedResult} (hr : r ∈ (a.run st project files).1.results) :
    ∃ f ∈ files, a.keeps f = true ∧ (r.file = f.path ∨ r.file = Path.normalize f.path ∧
      ∃ kind : FindingKind, kind.isProjectWide = true ∧ r.rule = kind.name) := by
  obtain ⟨⟨vs, v, hvs, hv, hfile⟩ | ⟨x, hx, hfile, hrule⟩, -⟩ := source_of_mem_results hr
  · obtain ⟨f, hf, hpath⟩ := file_of_mem_ruleViolations h hsets hvs hv
    obtain ⟨hf, hkept⟩ := List.mem_filter.mp hf
    exact ⟨f, hf, hkept, .inl (hfile.trans hpath)⟩
  · obtain ⟨f, hf, hpath⟩ := places_of_mem_staticFindings h hx
    obtain ⟨hf, hkept⟩ := List.mem_filter.mp hf
    refine ⟨f, hf, hkept, ?_⟩
    split at hpath
    case isTrue hkind => exact .inr ⟨hfile.trans hpath, x.kind, hkind, hrule⟩
    case isFalse => exact .inl (hfile.trans hpath)

end Auditor

/-- Every result of a run lies in a file that the run has kept, and never in one that it dropped. Its
path is the one that the file was given or, for a finding on directories or imports, its normal form.
Only the first of them tells the language that was detected; under the other one the language is
unknown, unless the two are the same. -/
theorem results_lie_in_kept_files {a : Auditor} {st : AuditState} (hst : a.Reachable st)
    (hsets : ∀ s ∈ a.ruleSets, s ∈ TextRuleSet.enabled {} ∨ s.ReportsOwnFiles) (project : String)
    (files : List SourceFile) (hdistinct : (files.map fun f => Path.normalize f.path).Nodup) :
    ∀ r ∈ (a.run st project files).1.results, ∃ f ∈ files, a.keeps f = true ∧
      Path.normalize r.file = Path.normalize f.path ∧
      (∀ g ∈ files, a.keeps g = false → Path.normalize r.file ≠ Path.normalize g.path) ∧
      (r.file = f.path ∨ r.file = Path.normalize f.path ∧
        ∃ kind : FindingKind, kind.isProjectWide = true ∧ r.rule = kind.name) ∧
      r.language = (if r.file = f.path then (LanguageMapping.ofFile f).language else .unknown) ∧
      (Path.normalize f.path = f.path → r.language = (LanguageMapping.ofFile f).language) := by
  intro r hr
  have hreport : ∀ s ∈ a.ruleSets, s.ReportsOwnFiles := by
    intro s hs
    rcases hsets s hs with hbuiltin | hown
    · exact TextRuleSet.reportsOwnFiles_of_mem_enabled hbuiltin
    · exact hown
  obtain ⟨f, hf, hkept, hfile⟩ := Auditor.file_of_mem_results hst.genuine hreport hr
  have hnormal : Path.normalize r.file = Path.normalize f.path := by
    rcases hfile with hfile | ⟨hfile, -⟩
    · rw [hfile]
    · rw [hfile, Path.normalize_normalize]
  have hunique : ∀ g ∈ files, Path.normalize g.path = Path.normalize r.file → g = f := by
    intro g hg hsame
    exact List.inj_on_of_nodup_map hdistinct hg hf (hsame.trans hnormal)
  have hlanguage : r.language = if r.file = f.path then (LanguageMapping.ofFile f).language else .unknown := by
    rw [(Auditor.source_of_mem_results hr).2]
    split
    case isTrue hpath => rw [hpath, Auditor.languageOf_path hdistinct hf hkept]
    case isFalse hpath =>
      -- a file of this path would have the same normal form, and so be the file itself
      refine Auditor.languageOf_other fun g hg _ hgpath => hpath ?_
      rw [← hgpath, hunique g hg (by rw [hgpath])]
  refine ⟨f, hf, hkept, hnormal, ?_, hfile, hlanguage, ?_⟩
  · intro g hg hdropped hsame
    rw [hunique g hg hsame.symm, hkept] at hdropped
    cases hdropped
  · intro hpath
    have hraw : r.file = f.path := by
      rcases hfile with hfile | ⟨hfile, -⟩
      · exact hfile
      · exact hfile.trans hpath
    rw [hlanguage, if_pos hraw]

/-- A set of rules that reports the first line of every file. -/
def firstLines : TextRuleSet where
  id := "first-lines"
  category := .style
  rules := []
  check := TextRuleSet.onContent fun u _ => [Readability.longLine.violation u.path 1 1 "First line" none]

/-- An auditor that looks for directories that lie deeper than one level. -/
def depthAuditor (ruleSets : List TextRuleSet) : Auditor where
  config := { maxNestingDepth := 1 }
  exclude := ⟨[]⟩
  engine := {}
  ruleSets := ruleSets

/-- A report on the file itself and one on its directory, under the two spellings of one path. -/
theorem nested_script_lies_in_kept_file :
    let a := depthAuditor [ImportHygiene.ruleSet, firstLines]
    let st := a.initialState none
    let files : List SourceFile := [.loaded "./a/b/x.rb" "puts 1\n"]
    let results := (a.run st "demo" files).1.results
    a.Reachable st ∧ (∀ s ∈ a.ruleSets, s ∈ TextRuleSet.enabled {} ∨ s.ReportsOwnFiles) ∧
      (files.map fun f => Path.normalize f.path).Nodup ∧
      results.map (fun r => (r.file, r.language)) = [("./a/b/x.rb", .ruby), ("a/b/x.rb", .unknown)] ∧
      ∀ r ∈ results, ∃ f ∈ files, a.keeps f = true ∧ Path.normalize r.file = Path.normalize f.path ∧
        r.language = (if r.file = f.path then (LanguageMapping.ofFile f).language else .unknown) := by
  intro a st files results
  have hst : a.Reachable st := .initial none
  have hdistinct : (files.map fun f => Path.normalize f.path).Nodup := List.nodup_singleton _
  have hfirst : firstLines.ReportsOwnFiles := by
    refine TextRuleSet.reportsOwnFiles_of rfl (fun u content => ?_) fun units vs v hv => .inl hv
    exact List.forall_mem_singleton.mpr rfl
  have hsets : ∀ s ∈ a.ruleSets, s ∈ TextRuleSet.enabled {} ∨ s.ReportsOwnFiles := by
    intro s hs
    rcases List.mem_cons.mp hs with rfl | hs
    · exact .inl (List.mem_append_right _ (List.mem_singleton_self _))
    · rw [List.mem_singleton.mp hs]
      exact .inr hfirst
  refine ⟨hst, hsets, hdistinct, by decide +kernel, ?_⟩
  intro r hr
  obtain ⟨f, hf, hkept, hnormal, -, -, hlanguage, -⟩ :=
    results_lie_in_kept_files hst hsets "demo" files hdistinct r hr
  exact ⟨f, hf, hkept, hnormal, hlanguage⟩

/-- A kept file whose language is known, and a result on it without one. -/
theorem nested_script_loses_language :
    let a := depthAuditor []
    let file : SourceFile := .loaded "./a/b/x.rb" "puts 1\n"
    let report := (a.run (a.initialState none) "demo" [file]).1
    a.keeps file = true ∧ (LanguageMapping.ofFile file).language = .ruby ∧
      report.results.map (fun r => (r.file, r.language)) = [("a/b/x.rb", .unknown)] := by
  decide +kernel

end CodeAudit
