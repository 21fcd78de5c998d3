import CodeAudit.Proofs.Sorting
import CodeAudit.Rules.Line
import Mathlib.Data.Prod.Lex

/-! The order of reports: by file, then by line, then by rule, or for one file by line and then by rule. Reports that
are left out change nothing in the order of the others. -/
namespace CodeAudit

namespace Violation

variable {a b : Violation} {vs ws : List Violation}

/-- File, line and rule, to be compared in this order. -/
def key (v : Violation) : String ×ₗ ℕ ×ₗ String := toLex (v.file, toLex (v.location.startLine, v.rule))

theorem fileLe_iff : fileLe a b = true ↔ a.key ≤ b.key := by
  simp only [key, Prod.Lex.toLex_le_toLex, fileLe, lineLe, bne_iff_ne, ne_eq, ite_not]
  by_cases hfile : a.file = b.file
  · by_cases hline : a.location.startLine = b.location.startLine
    · simp [hfile, hline, Text.leBool_iff]
    · simp [hfile, hline]
  · simp [hfile, Text.leBool_iff, le_iff_lt_or_eq]

theorem fileLe_trans (a b c : Violation) (hab : fileLe a b) (hbc : fileLe b c) : fileLe a c := by
  rw [fileLe_iff] at hab hbc ⊢
  exact hab.trans hbc

theorem fileLe_total (a b : Violation) : fileLe a b || fileLe b a := by
  rw [Bool.or_eq_true, fileLe_iff, fileLe_iff]
  exact le_total a.key b.key

theorem sortByFile_perm (vs : List Violation) : (sortByFile vs).Perm vs := List.mergeSort_perm vs fileLe

theorem pairwise_sortByFile (vs : List Violation) : (sortByFile vs).Pairwise fun a b => a.key ≤ b.key :=
  (List.pairwise_mergeSort fileLe_trans fileLe_total vs).imp fileLe_iff.mp

theorem sortByFile_sublist (h : vs.Sublist ws) : (sortByFile vs).Sublist (sortByFile ws) :=
  mergeSort_sublist fileLe_trans fileLe_total h

/-- Line and rule, to be compared in this order. -/
def lineKey (v : Violation) : ℕ ×ₗ String := toLex (v.location.startLine, v.rule)

end Violation
end CodeAudit
