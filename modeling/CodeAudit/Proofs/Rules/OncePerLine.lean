import CodeAudit.Proofs.Keyed
import CodeAudit.Proofs.Lexical.Grid
import CodeAudit.Proofs.Regex.Matching
import CodeAudit.Proofs.Rules.Order
import CodeAudit.Rules.Hazards
import CodeAudit.Rules.ImportHygiene
import CodeAudit.Rules.Readability
import Mathlib.Data.List.Flatten
import Mathlib.Data.List.Nodup

/-! Rules on text report once per line. A set of rules goes over the lines in several passes. Each of them reports a rule
once on a line at most, and no two passes have a rule in common; so what all of them report has no line and rule twice.
Nothing is used of what the patterns match. -/
namespace CodeAudit

/-- The reports of a pass over the lines of a file: on these lines, by these rules, and none of them twice. -/
structure Pass (count : Nat) (rules : List String) (vs : List Violation) : Prop where
  once : (vs.map Violation.lineKey).Nodup
  rules : ∀ v ∈ vs, v.rule ∈ rules
  lines : ∀ v ∈ vs, 1 ≤ v.location.startLine ∧ v.location.startLine ≤ count

namespace Pass

variable {count : Nat} {rules others : List String} {vs ws : List Violation}

theorem nil (count : Nat) (rules : List String) : Pass count rules [] := by
  constructor <;> simp

theorem ite {c : Prop} [Decidable c] (h : Pass count rules vs) (h' : Pass count rules ws) :
    Pass count rules (if c then vs else ws) := by
  split
  · exact h
  · exact h'

theorem sublist (h : Pass count rules ws) (hvs : vs.Sublist ws) : Pass count rules vs where
  once := h.once.sublist (hvs.map _)
  rules := fun v hv => h.rules v (hvs.subset hv)
  lines := fun v hv => h.lines v (hvs.subset hv)

/-- Passes without a common rule can be put together. -/
theorem append (h : Pass count rules vs) (h' : Pass count others ws) (hdisjoint : ∀ id ∈ rules, id ∉ others) :
    Pass count (rules ++ others) (vs ++ ws) := by
  constructor
  · rw [List.map_append, List.nodup_append]
    refine ⟨h.once, h'.once, ?_⟩
    intro _ hkey _ hkey' heq
    obtain ⟨v, hv, rfl⟩ := List.mem_map.mp hkey
    obtain ⟨w, hw, rfl⟩ := List.mem_map.mp hkey'
    have hrule : v.rule = w.rule := congrArg (fun k => (ofLex k).2) heq
    apply hdisjoint v.rule (h.rules v hv)
    rw [hrule]
    exact h'.rules w hw
  · intro v hv
    rcases List.mem_append.mp hv with hv | hv
    · exact List.mem_append_left _ (h.rules v hv)
    · exact List.mem_append_right _ (h'.rules v hv)
  · intro v hv
    rcases List.mem_append.mp hv with hv | hv
    · exact h.lines v hv
    · exact h'.lines v hv

section Lines

variable {α : Type} {xs : List α}

theorem nodup_places (xs : List α) : (xs.zipIdx.map Prod.snd).Nodup := by
  rw [List.zipIdx_map_snd]
  exact List.nodup_range'

/-- A pass that looks at one line after the other. -/
theorem flatMap {report : α × Nat → List Violation} (hline : ∀ x, ∀ v ∈ report x, v.location.startLine = x.2 + 1)
    (hrule : ∀ x, ∀ v ∈ report x, v.rule ∈ rules) (honce : ∀ x, ((report x).map (·.rule)).Nodup) :
    Pass xs.length rules (xs.zipIdx.flatMap report) := by
  constructor
  · rw [List.map_flatMap, List.nodup_flatMap]
    constructor
    · intro x _
      have hrules : (report x).map (·.rule) = ((report x).map Violation.lineKey).map fun k => (ofLex k).2 := by
        rw [List.map_map]
        rfl
      have hnodup := honce x
      rw [hrules] at hnodup
      exact hnodup.of_map
    · have hplaces := nodup_places xs
      rw [List.nodup_iff_pairwise_ne, List.pairwise_map] at hplaces
      refine hplaces.imp ?_
      intro x y hne k hx hy
      obtain ⟨v, hv, rfl⟩ := List.mem_map.mp hx
      obtain ⟨w, hw, heq⟩ := List.mem_map.mp hy
      have hsame : w.location.startLine = v.location.startLine := congrArg (fun k => (ofLex k).1) heq
      rw [hline x v hv, hline y w hw] at hsame
      omega
  · intro v hv
    obtain ⟨x, -, hv⟩ := List.mem_flatMap.mp hv
    exact hrule x v hv
  · intro v hv
    obtain ⟨x, hx, hv⟩ := List.mem_flatMap.mp hv
    have hlt := List.snd_lt_of_mem_zipIdx hx
    rw [hline x v hv]
    omega

/-- A pass that reports a line once at most. -/
theorem filterMap {report? : α × Nat → Option Violation}
    (hreport : ∀ x v, report? x = some v → v.location.startLine = x.2 + 1 ∧ v.rule ∈ rules) :
    Pass xs.length rules (xs.zipIdx.filterMap report?) := by
  rw [List.filterMap_eq_flatMap_toList]
  apply flatMap
  · intro x v hv
    exact (hreport x v (Option.mem_toList.mp hv)).1
  · intro x v hv
    exact (hreport x v (Option.mem_toList.mp hv)).2
  · intro x
    cases report? x <;> simp

end Lines
end Pass

namespace LineRule

/-- The text of a line in which a rule looks for its patterns. -/
def searched (r : LineRule) (line : LinePair) : String := if r.onRaw then line.raw else line.masked

/-- A rule matches a line that it does not exempt where the first of its patterns that occurs at all is found. -/
structure Matches (r : LineRule) (line : LinePair) (column : Nat) : Prop where
  unexempt : ∀ e ∈ r.exempt, e.isMatch line.raw = false
  found : ∃ before p after m, r.patterns = before ++ p :: after ∧
    (∀ q ∈ before, q.isMatch (r.searched line) = false) ∧ p.find? (r.searched line) = some m ∧ column = m.byteStart + 1

theorem column?_eq_some_iff {r : LineRule} {line : LinePair} {column : Nat} :
    r.column? line = some column ↔ r.Matches line column := by
  have hsearch : column?.search r line = some column ↔ ∃ before p after m, r.patterns = before ++ p :: after ∧
      (∀ q ∈ before, q.isMatch (r.searched line) = false) ∧ p.find? (r.searched line) = some m ∧
      column = m.byteStart + 1 := by
    constructor
    · intro h
      obtain ⟨m, hm, rfl⟩ := Option.map_eq_some_iff.mp h
      obtain ⟨before, p, after, hsplit, hp, hbefore⟩ := List.findSome?_eq_some_iff.mp hm
      refine ⟨before, p, after, m, hsplit, fun q hq => ?_, hp, rfl⟩
      exact Option.isSome_eq_false_iff.mpr (Option.isNone_iff_eq_none.mpr (hbefore q hq))
    · rintro ⟨before, p, after, m, hsplit, hbefore, hp, rfl⟩
      refine Option.map_eq_some_iff.mpr ⟨m, List.findSome?_eq_some_iff.mpr ⟨before, p, after, hsplit, hp, ?_⟩, rfl⟩
      exact fun q hq => Option.isNone_iff_eq_none.mp (Option.isSome_eq_false_iff.mp (hbefore q hq))
  have hmatches : r.Matches line column ↔ (∀ e ∈ r.exempt, e.isMatch line.raw = false) ∧
      column?.search r line = some column :=
    ⟨fun h => ⟨h.unexempt, hsearch.mpr h.found⟩, fun h => ⟨h.1, hsearch.mp h.2⟩⟩
  rw [hmatches, column?]
  cases r.exempt with
  | none => simp
  | some e => cases hexempt : e.isMatch line.raw <;> simp [hexempt]

theorem column?_eq_none_iff {r : LineRule} {line : LinePair} :
    r.column? line = none ↔ ∀ column, ¬ r.Matches line column := by
  simp only [← column?_eq_some_iff, Option.eq_none_iff_forall_ne_some, ne_eq]

theorem column?_eq_none_of_not_isMatch {r : LineRule} {line : LinePair}
    (h : ∀ p ∈ r.patterns, ¬ p.isMatch (r.searched line)) : r.column? line = none := by
  rw [column?_eq_none_iff]
  rintro column ⟨-, before, p, after, m, hsplit, -, hfind, -⟩
  refine h p (by simp [hsplit]) ?_
  rw [Regex.isMatch, hfind]
  rfl

/-- On one line a rule that has reported is passed over. -/
theorem checkLine_spec (file : String) (number : Nat) (line : LinePair) (rules : List LineRule) (reported : List String) :
    (∀ v ∈ checkLine file number line rules reported,
      v.location.startLine = number ∧ v.rule ∈ rules.map (·.descriptor.id) ∧ v.rule ∉ reported) ∧
      ((checkLine file number line rules reported).map (·.rule)).Nodup := by
  induction rules generalizing reported with
  | nil => simp [checkLine]
  | cons r rest ih =>
    have hrest : ∀ reported, (∀ v ∈ checkLine file number line rest reported, v.location.startLine = number ∧
        v.rule ∈ (r :: rest).map (·.descriptor.id) ∧ v.rule ∉ reported) := by
      intro reported v hv
      obtain ⟨hline, hrule, hnew⟩ := (ih reported).1 v hv
      exact ⟨hline, List.mem_cons_of_mem _ hrule, hnew⟩
    unfold checkLine
    split
    · exact ⟨hrest reported, (ih reported).2⟩
    · rename_i hfresh
      rw [List.contains_iff_mem] at hfresh
      split
      · exact ⟨hrest reported, (ih reported).2⟩
      · constructor
        · intro v hv
          rcases List.mem_cons.mp hv with rfl | hv
          · exact ⟨rfl, List.mem_cons_self, hfresh⟩
          · obtain ⟨hline, hrule, hnew⟩ := hrest _ v hv
            exact ⟨hline, hrule, fun hmem => hnew (List.mem_cons_of_mem _ hmem)⟩
        · rw [List.map_cons, List.nodup_cons]
          refine ⟨?_, (ih _).2⟩
          intro hmem
          obtain ⟨v, hv, hrule⟩ := List.mem_map.mp hmem
          apply (hrest _ v hv).2.2
          rw [hrule]
          exact List.mem_cons_self

theorem pass_checkAll (rules : List LineRule) (u : TextUnit) (lines : List LinePair) :
    Pass lines.length (rules.map (·.descriptor.id)) (checkAll rules u lines) := by
  rw [checkAll, ← List.flatMap_def]
  apply Pass.flatMap
  · intro x v hv
    exact ((checkLine_spec _ _ _ _ _).1 v hv).1
  · intro x v hv
    exact (List.filter_sublist.map _).subset ((checkLine_spec _ _ _ _ _).1 v hv).2.1
  · exact fun x => (checkLine_spec _ _ _ _ _).2

/-- What is new on a line is reported if and only if some rule for it matches. -/
theorem exists_mem_checkLine_iff {file id : String} {number : Nat} {line : LinePair} {rules : List LineRule}
    {reported : List String} : (∃ v ∈ checkLine file number line rules reported, v.rule = id) ↔
      id ∉ reported ∧ ∃ r ∈ rules, r.descriptor.id = id ∧ ∃ column, r.Matches line column := by
  induction rules generalizing reported with
  | nil => simp [checkLine]
  | cons r rest ih =>
    unfold checkLine
    rw [List.exists_mem_cons_iff]
    split
    case isTrue hseen =>
      rw [ih]
      refine and_congr_right fun hnew => (or_iff_right ?_).symm
      rintro ⟨rfl, -⟩
      exact hnew (List.contains_iff_mem.mp hseen)
    case isFalse hunseen =>
      rw [List.contains_iff_mem] at hunseen
      split
      case h_1 hcolumn =>
        rw [ih]
        refine and_congr_right fun _ => (or_iff_right ?_).symm
        rintro ⟨-, column, hmatches⟩
        exact column?_eq_none_iff.mp hcolumn column hmatches
      case h_2 column hcolumn =>
        have hmatches : r.Matches line column := column?_eq_some_iff.mp hcolumn
        rw [List.exists_mem_cons_iff, ih, List.mem_cons, not_or]
        by_cases hid : r.descriptor.id = id
        · subst hid
          exact iff_of_true (.inl rfl) ⟨hunseen, .inl ⟨rfl, column, hmatches⟩⟩
        · have hne : ¬ (r.violation file number column).rule = id := hid
          rw [or_iff_right hne, or_iff_right fun h => hid h.1, and_iff_right fun h => hid h.symm]

theorem exists_mem_checkAll_iff {id : String} {rules : List LineRule} {u : TextUnit} {lines : List LinePair} {i : Nat}
    {line : LinePair} (hline : lines[i]? = some line) :
    (∃ v ∈ checkAll rules u lines, v.rule = id ∧ v.location.startLine = i + 1) ↔
      ∃ r ∈ rules, r.appliesTo u.language ∧ r.descriptor.id = id ∧ ∃ column, r.Matches line column := by
  have honLine : (∃ v ∈ checkAll rules u lines, v.rule = id ∧ v.location.startLine = i + 1) ↔
      ∃ v ∈ checkLine u.path (i + 1) line (rules.filter fun r => r.appliesTo u.language) [], v.rule = id := by
    rw [checkAll, ← List.flatMap_def]
    constructor
    · rintro ⟨v, hv, hrule, hstart⟩
      obtain ⟨⟨other, j⟩, hmem, hv⟩ := List.mem_flatMap.mp hv
      obtain rfl : j = i := Nat.succ.inj (((checkLine_spec _ _ _ _ _).1 v hv).1.symm.trans hstart)
      rw [List.mk_mem_zipIdx_iff_getElem?, hline] at hmem
      obtain rfl := Option.some.inj hmem
      exact ⟨v, hv, hrule⟩
    · rintro ⟨v, hv, hrule⟩
      refine ⟨v, List.mem_flatMap.mpr ⟨(line, i), List.mk_mem_zipIdx_iff_getElem?.mpr hline, hv⟩, hrule, ?_⟩
      exact ((checkLine_spec _ _ _ _ _).1 v hv).1
  rw [honLine, exists_mem_checkLine_iff, and_iff_right List.not_mem_nil]
  simp only [List.mem_filter, and_assoc]

end LineRule

namespace LinePair

variable (content : String) (language : Language)

/-- No masked line is left out and none is made up. -/
theorem map_masked_ofContent :
    (ofContent content language).map (·.masked) = Text.lines (Lexical.mask language content) := by
  have hlines := (Text.aligned_lines language content).length_eq
  rw [ofContent, pair_eq_zipWith hlines, List.map_zipWith]
  have hsnd := List.map_snd_zip hlines.ge
  rw [List.zip, List.map_zipWith] at hsnd
  exact hsnd

end LinePair

namespace Hazards

variable {u : TextUnit} {file : String} {number : Nat} {line : LinePair} {lines : List LinePair} {v : Violation}

def secretIds : List String := secretRules.map (·.descriptor.id)

/-- The report of the first secret on a line, in the order of the rules. -/
def IsFirstSecret (file : String) (number : Nat) (line : LinePair) (v : Violation) : Prop :=
  ∃ before r after column, secretRules = before ++ r :: after ∧ (∀ q ∈ before, ∀ c, ¬ q.Matches line c) ∧
    r.Matches line column ∧ v = r.violation file number column

theorem IsFirstSecret.spec (h : IsFirstSecret file number line v) :
    v.location.startLine = number ∧ v.rule ∈ secretIds := by
  obtain ⟨before, r, after, column, hsplit, -, -, rfl⟩ := h
  have hr : r ∈ secretRules := by simp [hsplit]
  exact ⟨rfl, List.mem_map.mpr ⟨r, hr, rfl⟩⟩

end Hazards

namespace NamingCheck

end NamingCheck

namespace Readability

variable (u : TextUnit) (lines : List LinePair)

end Readability

namespace ImportHygiene

end ImportHygiene

namespace Hazards

end Hazards

end CodeAudit
