import CodeAudit.Audit.Run
import CodeAudit.Proofs.Cache.Recency

/-! What a cache of trees answers, whatever the parser. A tree is held under path and content, and it was read in the
language of the call that first asked for it; so an answer is the tree that a fresh reading gives, though maybe in another
language. -/
namespace CodeAudit

open Syntax

variable {parser : SyntaxParser}

theorem AstFile.path_ofContent (path content : String) (l : Language) :
    (ofContent parser path content l).path = path := by
  unfold ofContent
  split
  · rfl
  · simp only
    split <;> rfl

theorem AstFile.language_ofContent (path content : String) (l : Language) :
    (ofContent parser path content l).language = l := by
  unfold ofContent
  split
  · rfl
  · simp only
    split <;> rfl

theorem AstFile.language_ofFile (f : SourceFile) (l : Language) : (ofFile parser f l).language = l := by
  unfold ofFile
  cases f.content with
  | none => rfl
  | some content => exact language_ofContent f.path content l

theorem AstFile.ofFile_inj {f : SourceFile} {l l' : Language} : ofFile parser f l = ofFile parser f l' ↔ l = l' := by
  constructor
  · intro h
    have hlanguage := congrArg AstFile.language h
    rwa [language_ofFile, language_ofFile] at hlanguage
  · rintro rfl
    rfl

/-- No two contents of files that are read have one digest. -/
def DigestsDistinct (calls : List (SourceFile × Language)) : Prop :=
  ∀ x ∈ calls, ∀ y ∈ calls, ∀ a ∈ x.1.content, ∀ b ∈ y.1.content, Digest.ofContent a = Digest.ofContent b → a = b

theorem DigestsDistinct.sublist {calls fewer : List (SourceFile × Language)} (h : DigestsDistinct calls)
    (hsub : fewer.Sublist calls) : DigestsDistinct fewer :=
  fun x hx y hy => h x (hsub.subset hx) y (hsub.subset hy)

namespace AstCache

variable {c : AstCache AstFile} {calls more : List (SourceFile × Language)} {f : SourceFile} {l : Language}

/-- The tree that is held for a file as it is. -/
def heldFor? (c : AstCache AstFile) (f : SourceFile) : Option AstFile :=
  f.content.bind fun content => (c.get f.path (Digest.ofContent content)).1

theorem parse_fst (c : AstCache AstFile) (f : SourceFile) (l : Language) :
    (c.parse parser f l).1 = (c.heldFor? f).getD (AstFile.ofFile parser f l) := by
  unfold parse heldFor? AstFile.ofFile
  cases f.content with
  | none => rfl
  | some content =>
    simp only [Option.bind_some]
    cases hget : c.get f.path (Digest.ofContent content) with
    | mk found c' => cases found <;> rfl

/-- A call leaves the entries as a look-up does, or adds the tree that it has read. -/
theorem mem_entries_parse {e : String × String × AstFile} (he : e ∈ (c.parse parser f l).2.entries) :
    e ∈ c.entries ∨ ∃ content, f.content = some content ∧
      e = (f.path, Digest.ofContent content, AstFile.ofContent parser f.path content l) := by
  have htouch : ∀ path hash, e ∈ (c.get path hash).2.entries → e ∈ c.entries := by
    intro path hash he
    rw [(c.get_snd path hash).1, touch] at he
    split at he
    · exact he
    · rename_i entry hfind
      rcases List.mem_cons.mp he with rfl | he
      · exact mem_entries_of_find? hfind
      · exact (mem_without.mp he).1
  unfold parse at he
  split at he
  · exact .inl he
  · rename_i content hcontent
    simp only at he
    split at he
    · rename_i found c' hget
      refine .inl (htouch f.path (Digest.ofContent content) ?_)
      rw [hget]
      exact he
    · rename_i c' hget
      rcases List.mem_cons.mp (List.mem_of_mem_take he) with rfl | he
      · exact .inr ⟨content, hcontent, rfl⟩
      · refine .inl (htouch f.path (Digest.ofContent content) ?_)
        rw [hget]
        exact (mem_without.mp he).1

/-- Every tree that is held was read for one of the calls. -/
def ReadFor (parser : SyntaxParser) (calls : List (SourceFile × Language)) (c : AstCache AstFile) : Prop :=
  ∀ e ∈ c.entries, ∃ f l content, (f, l) ∈ calls ∧ f.content = some content ∧
    e = (f.path, Digest.ofContent content, AstFile.ofContent parser f.path content l)

theorem readFor_empty (capacity : Nat) : ReadFor parser [] (empty capacity) := by
  intro e he
  cases he

theorem ReadFor.parse (h : ReadFor parser calls c) (f : SourceFile) (l : Language) :
    ReadFor parser (calls ++ [(f, l)]) (c.parse parser f l).2 := by
  intro e he
  rcases mem_entries_parse he with he | ⟨content, hcontent, rfl⟩
  · obtain ⟨g, m, content, hmem, hcontent, rfl⟩ := h e he
    exact ⟨g, m, content, List.mem_append_left _ hmem, hcontent, rfl⟩
  · exact ⟨f, l, content, by simp, hcontent, rfl⟩

theorem ReadFor.parseAll (h : ReadFor parser calls c) (more : List (SourceFile × Language)) :
    ReadFor parser (calls ++ more) (Auditor.parseAll parser true c more).2 := by
  induction more generalizing calls c with
  | nil =>
    rw [List.append_nil]
    exact h
  | cons x rest ih =>
    have hrest := ih (h.parse x.1 x.2)
    rw [List.append_assoc] at hrest
    exact hrest

/-- What is held for a file is its tree, in the language of a call that read the same text before. -/
theorem ReadFor.heldFor? (h : ReadFor parser calls c) (hdigest : DigestsDistinct (calls ++ [(f, l)])) {t : AstFile}
    (ht : c.heldFor? f = some t) :
    ∃ g, (g, t.language) ∈ calls ∧ g.path = f.path ∧ g.content = f.content ∧ t = AstFile.ofFile parser f t.language := by
  obtain ⟨content, hcontent, hget⟩ := Option.bind_eq_some_iff.mp ht
  have hmem := mem_entries_of_find? ((get_fst _ _ _).mp hget)
  obtain ⟨g, m, stored, hcall, hstored, heq⟩ := h _ hmem
  simp only [Prod.mk.injEq] at heq
  obtain ⟨hpath, hhash, rfl⟩ := heq
  have hsame : content = stored := by
    refine hdigest (f, l) (by simp) (g, m) (List.mem_append_left _ hcall) content ?_ stored ?_ hhash
    · exact Option.mem_def.mpr hcontent
    · exact Option.mem_def.mpr hstored
  subst hsame
  rw [AstFile.language_ofContent]
  refine ⟨g, hcall, hpath.symm, hstored.trans hcontent.symm, ?_⟩
  rw [AstFile.ofFile, hcontent, hpath]

end AstCache

namespace Auditor

theorem parseAll_append (caching : Bool) (c : AstCache AstFile) (xs ys : List (SourceFile × Language)) :
    parseAll parser caching c (xs ++ ys) =
      ((parseAll parser caching c xs).1 ++ (parseAll parser caching (parseAll parser caching c xs).2 ys).1,
       (parseAll parser caching (parseAll parser caching c xs).2 ys).2) := by
  induction xs generalizing c with
  | nil => rfl
  | cons x rest ih => simp only [List.cons_append, parseAll, ih]

theorem length_parseAll (caching : Bool) (c : AstCache AstFile) (calls : List (SourceFile × Language)) :
    (parseAll parser caching c calls).1.length = calls.length := by
  induction calls generalizing c with
  | nil => rfl
  | cons x rest ih => simp only [parseAll, List.length_cons, ih]

theorem parseAll_uncached (c : AstCache AstFile) (calls : List (SourceFile × Language)) :
    (parseAll parser false c calls).1 = calls.map fun x => AstFile.ofFile parser x.1 x.2 := by
  induction calls with
  | nil => rfl
  | cons x rest ih =>
    rw [List.map_cons, ← ih]
    rfl

/-- The answer to a call in the middle of others. -/
theorem parseAll_getElem? (c : AstCache AstFile) (before after : List (SourceFile × Language)) (f : SourceFile)
    (l : Language) :
    (parseAll parser true c (before ++ (f, l) :: after)).1[before.length]? =
      some ((parseAll parser true c before).2.parse parser f l).1 := by
  rw [parseAll_append, List.getElem?_append_right (Nat.le_of_eq (length_parseAll ..)), length_parseAll, Nat.sub_self]
  rfl

theorem parseAll_uncached_getElem? (c : AstCache AstFile) (before after : List (SourceFile × Language))
    (f : SourceFile) (l : Language) :
    (parseAll parser false c (before ++ (f, l) :: after)).1[before.length]? = some (AstFile.ofFile parser f l) := by
  rw [parseAll_uncached]
  simp

/-- What a call is answered after others: its own tree, in the language of an earlier call for the same text. -/
theorem parse_after (capacity : Nat) {before : List (SourceFile × Language)} {f : SourceFile} {l : Language}
    (hdigest : DigestsDistinct (before ++ [(f, l)])) :
    let c := (parseAll parser true (.empty capacity) before).2
    (c.parse parser f l).1 = AstFile.ofFile parser f (((c.heldFor? f).map (·.language)).getD l) ∧
      ∀ t ∈ c.heldFor? f, ∃ g, (g, t.language) ∈ before ∧ g.path = f.path ∧ g.content = f.content := by
  intro c
  have hread : AstCache.ReadFor parser before c := (AstCache.readFor_empty capacity).parseAll before
  constructor
  · rw [AstCache.parse_fst]
    cases hheld : c.heldFor? f with
    | none => rfl
    | some t =>
      obtain ⟨g, -, -, -, ht⟩ := hread.heldFor? hdigest hheld
      exact ht
  · intro t ht
    obtain ⟨g, hg, hpath, hcontent, -⟩ := hread.heldFor? hdigest ht
    exact ⟨g, hg, hpath, hcontent⟩

end Auditor

/-- The language that is detected depends on nothing but path and content. -/
theorem LanguageMapping.ofFile_congr {f g : SourceFile} (hpath : f.path = g.path) (hcontent : f.content = g.content) :
    ofFile f = ofFile g := by
  rw [ofFile, ofFile, hpath, hcontent]

/-- With a cache every call gives the tree of its file, but in the language of the call that read the
same text first, if the cache still holds that tree. So the answer is that of a fresh reading exactly
if the language is the same, and always if calls for one text agree on it, as they do when it is detected. -/
theorem cached_trees_keep_first_language (parser : SyntaxParser) (capacity : Nat)
    (calls : List (SourceFile × Language)) (hdigest : DigestsDistinct calls) :
    let answers := (Auditor.parseAll parser true (.empty capacity) calls).1
    let fresh := (Auditor.parseAll parser false (.empty capacity) calls).1
    (∀ before f l after, calls = before ++ (f, l) :: after →
      let held := (Auditor.parseAll parser true (.empty capacity) before).2.heldFor? f
      fresh[before.length]? = some (AstFile.ofFile parser f l) ∧
      answers[before.length]? = some (AstFile.ofFile parser f ((held.map (·.language)).getD l)) ∧
      (answers[before.length]? = fresh[before.length]? ↔ ∀ t ∈ held, t.language = l) ∧
      ∀ t ∈ held, ∃ g, (g, t.language) ∈ before ∧ g.path = f.path ∧ g.content = f.content) ∧
    ((∀ x ∈ calls, ∀ y ∈ calls, x.1.path = y.1.path → x.1.content = y.1.content → x.2 = y.2) →
      answers = fresh) ∧
    ((∀ x ∈ calls, x.2 = (LanguageMapping.ofFile x.1).language) → answers = fresh) := by
  intro answers fresh
  have hcall : ∀ before f l after, calls = before ++ (f, l) :: after →
      let held := (Auditor.parseAll parser true (.empty capacity) before).2.heldFor? f
      fresh[before.length]? = some (AstFile.ofFile parser f l) ∧
      answers[before.length]? = some (AstFile.ofFile parser f ((held.map (·.language)).getD l)) ∧
      ∀ t ∈ held, ∃ g, (g, t.language) ∈ before ∧ g.path = f.path ∧ g.content = f.content := by
    rintro before f l after rfl held
    have hdistinct : DigestsDistinct (before ++ [(f, l)]) := hdigest.sublist (by simp)
    obtain ⟨hanswer, hheld⟩ := Auditor.parse_after capacity hdistinct
    refine ⟨Auditor.parseAll_uncached_getElem? .., ?_, hheld⟩
    rw [← hanswer]
    exact Auditor.parseAll_getElem? ..
  have hsame : (∀ x ∈ calls, ∀ y ∈ calls, x.1.path = y.1.path → x.1.content = y.1.content → x.2 = y.2) →
      answers = fresh := by
    intro hlanguages
    refine List.ext_getElem? fun i => ?_
    rcases Nat.lt_or_ge i calls.length with hi | hi
    · have hsplit : calls = calls.take i ++ calls[i] :: calls.drop (i + 1) := by
        rw [← List.drop_eq_getElem_cons hi, List.take_append_drop]
      obtain ⟨hfresh, hanswer, hheld⟩ := hcall (calls.take i) calls[i].1 calls[i].2 (calls.drop (i + 1)) hsplit
      rw [List.length_take_of_le (Nat.le_of_lt hi)] at hfresh hanswer
      rw [hfresh, hanswer]
      refine congrArg (fun l => some (AstFile.ofFile parser calls[i].1 l)) ?_
      generalize (Auditor.parseAll parser true (.empty capacity) (calls.take i)).2.heldFor? calls[i].1 = held at hheld ⊢
      cases held with
      | none => rfl
      | some t =>
        obtain ⟨g, hg, hpath, hcontent⟩ := hheld t rfl
        exact hlanguages (g, t.language) (List.mem_of_mem_take hg) calls[i] (List.getElem_mem hi) hpath hcontent
    · rw [List.getElem?_eq_none, List.getElem?_eq_none] <;> rw [Auditor.length_parseAll] <;> exact hi
  refine ⟨?_, hsame, ?_⟩
  · intro before f l after heq held
    obtain ⟨hfresh, hanswer, hheld⟩ := hcall before f l after heq
    refine ⟨hfresh, hanswer, ?_, hheld⟩
    rw [hfresh, hanswer, Option.some.injEq, AstFile.ofFile_inj]
    change (held.map (·.language)).getD l = l ↔ _
    cases held <;> simp
  · intro hdetected
    refine hsame fun x hx y hy hpath hcontent => ?_
    rw [hdetected x hx, hdetected y hy, LanguageMapping.ofFile_congr hpath hcontent]

/-- A script and a later version of it. -/
def script : SourceFile := .loaded "bin/tool" "run()\n"

def scriptRevised : SourceFile := .loaded "bin/tool" "stop()\n"

/-- With room for one path, the second version drives out the first, which is then read anew. -/
theorem script_read_after_revision :
    let calls := [(script, Language.python), (scriptRevised, .python), (script, .python)]
    DigestsDistinct calls ∧
      (∀ x ∈ calls, ∀ y ∈ calls, x.1.path = y.1.path → x.1.content = y.1.content → x.2 = y.2) ∧
      (Auditor.parseAll Grammar.parser true (.empty 1) calls).1 = (Auditor.parseAll Grammar.parser false (.empty 1) calls).1 := by
  intro calls
  have hdistinct : DigestsDistinct calls := by
    have hne : Digest.ofContent "run()\n" ≠ Digest.ofContent "stop()\n" := by decide +kernel
    have htext : ∀ x ∈ calls, ∀ a ∈ x.1.content, a = "run()\n" ∨ a = "stop()\n" := by
      intro x hx a ha
      simp only [calls, List.mem_cons, List.not_mem_nil, or_false] at hx
      rcases hx with rfl | rfl | rfl <;> simp_all [script, scriptRevised, SourceFile.loaded]
    intro x hx y hy a ha b hb heq
    rcases htext x hx a ha with rfl | rfl
    · rcases htext y hy b hb with rfl | rfl
      · rfl
      · exact absurd heq hne
    · rcases htext y hy b hb with rfl | rfl
      · exact absurd heq.symm hne
      · rfl
  have hlanguages : ∀ x ∈ calls, ∀ y ∈ calls, x.1.path = y.1.path → x.1.content = y.1.content → x.2 = y.2 := by
    intro x hx y hy _ _
    simp only [calls, List.mem_cons, List.not_mem_nil, or_false] at hx hy
    rcases hx with rfl | rfl | rfl <;> rcases hy with rfl | rfl | rfl <;> rfl
  exact ⟨hdistinct, hlanguages, (cached_trees_keep_first_language Grammar.parser 1 calls hdistinct).2.1 hlanguages⟩

/-- The same text read again in another language: the answer is the tree of the first reading. -/
theorem script_read_in_other_language :
    let calls := [(script, Language.python), (script, .javascript)]
    ((Auditor.parseAll Grammar.parser true (.empty 500) calls).1.map (·.language) = [.python, .python]) ∧
      ((Auditor.parseAll Grammar.parser false (.empty 500) calls).1.map (·.language) = [.python, .javascript]) := by
  decide +kernel

end CodeAudit
