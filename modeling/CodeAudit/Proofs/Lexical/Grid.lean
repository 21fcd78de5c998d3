import CodeAudit.Rules.Line
import Mathlib.Data.List.Forall2

/-! Masking keeps the grid of a text. Every character is written as itself or as a blank and line feeds
stay where they are, so a masked text has the lines of the raw one, each at the columns it had. Only a
carriage return before a line feed is no part of a line while its blank is: a masked line may be longer
than the raw one by that blank. -/
namespace CodeAudit

open List (Forall₂)

namespace Lexical

/-- What masking may write in the place of a character. -/
structure CoveredBy (c d : Char) : Prop where
  feed : d = '\n' ↔ c = '\n'
  kept : d = c ∨ d = ' '

theorem coveredBy_self (c : Char) : CoveredBy c c := ⟨Iff.rfl, .inl rfl⟩

theorem coveredBy_blankOf (c : Char) : CoveredBy c (blankOf c) := by
  unfold blankOf
  split
  case isTrue h => exact h ▸ coveredBy_self _
  case isFalse h => exact ⟨by simp [h], .inr rfl⟩

/-- Whatever a text is read as, its characters are covered one by one. -/
theorem coveredBy_maskFrom (s : Style) (m : Mode) (cs : List Char) : Forall₂ CoveredBy cs (maskFrom s m cs) := by
  fun_induction maskFrom s m cs
  -- where a block comment ends, two blanks are written for its last two characters
  case case14 c d rest hend ih =>
    obtain ⟨rfl, rfl⟩ : c = '*' ∧ d = '/' := by simpa using hend
    exact .cons (coveredBy_blankOf '*') (.cons (coveredBy_blankOf '/') ih)
  -- else each character that is read is written as itself or as its blank
  all_goals simp [coveredBy_self, coveredBy_blankOf, *]

theorem coveredBy_mask (l : Language) (content : String) :
    Forall₂ CoveredBy content.toList (mask l content).toList := by
  rw [mask, String.toList_ofList]
  exact coveredBy_maskFrom (Style.of l) .code content.toList

/-- A masked line against the raw one: the same columns, and at most one blank behind them. -/
def Aligned (raw masked : List Char) : Prop :=
  ∃ covered behind, masked = covered ++ behind ∧ Forall₂ CoveredBy raw covered ∧ (behind = [] ∨ behind = [' '])

theorem aligned_of_forall₂ {raw masked : List Char} (h : Forall₂ CoveredBy raw masked) : Aligned raw masked :=
  ⟨masked, [], by simp, h, .inl rfl⟩

end Lexical

namespace Text

open Lexical (CoveredBy Aligned)

/-- Texts that have their separators at the same places fall into pieces at the same places. -/
theorem forall₂_splitChars {R : Char → Char → Prop} {sep : Char} (hsep : ∀ c d, R c d → (d = sep ↔ c = sep))
    {cs ds : Chars} (h : Forall₂ R cs ds) : Forall₂ (Forall₂ R) (splitChars sep cs) (splitChars sep ds) := by
  induction h with
  | nil => exact .cons .nil .nil
  | @cons c d cs ds hcd _ ih =>
    unfold splitChars
    by_cases hc : c = sep
    · rw [if_pos hc, if_pos ((hsep c d hcd).mpr hc)]
      exact .cons .nil ih
    · rw [if_neg hc, if_neg (fun hd => hc ((hsep c d hcd).mp hd))]
      -- the character joins the first of the pieces that follow
      generalize splitChars sep cs = ps, splitChars sep ds = qs at ih
      cases ih with
      | nil => exact .cons (.cons hcd .nil) .nil
      | cons hpiece hpieces => exact .cons (.cons hcd hpiece) hpieces

theorem forall₂_concat_left {α β : Type} {R : α → β → Prop} {xs : List α} {x : α} {ys : List β}
    (h : Forall₂ R (xs ++ [x]) ys) : ∃ zs z, ys = zs ++ [z] ∧ Forall₂ R xs zs ∧ R x z := by
  rw [← List.forall₂_reverse_iff, List.reverse_concat, List.forall₂_cons_left_iff] at h
  obtain ⟨z, zs, hz, hzs, hys⟩ := h
  refine ⟨zs.reverse, z, ?_, ?_, hz⟩
  · rw [← List.reverse_cons, ← hys, List.reverse_reverse]
  · rw [← List.forall₂_reverse_iff, List.reverse_reverse]
    exact hzs

theorem dropReturn_concat (line : Chars) (c : Char) :
    dropReturn (line ++ [c]) = if c = '\r' then line else line ++ [c] := by
  simp [dropReturn]

/-- A piece loses its carriage return; the masked piece loses it as well or keeps its blank. -/
theorem aligned_dropReturn {p q : Chars} (h : Forall₂ CoveredBy p q) : Aligned (dropReturn p) (dropReturn q) := by
  rcases List.eq_nil_or_concat' p with rfl | ⟨line, c, rfl⟩
  · cases h
    exact Lexical.aligned_of_forall₂ .nil
  · obtain ⟨masked, d, rfl, hline, hcd⟩ := forall₂_concat_left h
    rw [dropReturn_concat, dropReturn_concat]
    rcases hcd.kept with rfl | rfl
    · split
      · exact Lexical.aligned_of_forall₂ hline
      · exact Lexical.aligned_of_forall₂ h
    · have hblank : ¬ ' ' = '\r' := by decide
      rw [if_neg hblank]
      split
      · exact ⟨masked, [' '], rfl, hline, .inr rfl⟩
      · exact Lexical.aligned_of_forall₂ h

theorem aligned_finishLines {ps qs : List Chars} (h : Forall₂ (Forall₂ CoveredBy) ps qs) :
    Forall₂ Aligned (finishLines ps) (finishLines qs) := by
  induction h with
  | nil => exact .nil
  | cons hpiece hrest ih =>
    cases hrest with
    | cons _ _ => exact .cons (aligned_dropReturn hpiece) ih
    | nil =>
      -- the last piece is a line unless it is empty, which both are or neither is
      cases hpiece with
      | nil => exact .nil
      | cons hc hcs => exact .cons (Lexical.aligned_of_forall₂ (.cons hc hcs)) .nil

theorem aligned_lines (l : Language) (content : String) :
    Forall₂ (fun raw masked => Aligned raw.toList masked.toList) (lines content)
      (lines (Lexical.mask l content)) := by
  have hpieces := forall₂_splitChars (fun c d hcd => hcd.feed) (Lexical.coveredBy_mask l content)
  rw [lines, lines, List.forall₂_map_left_iff, List.forall₂_map_right_iff]
  simp only [String.toList_ofList]
  exact aligned_finishLines hpieces

end Text

theorem LinePair.pair_eq_zipWith {raw masked : List String} (h : raw.length = masked.length) :
    pair raw masked = List.zipWith LinePair.mk raw masked := by
  induction raw generalizing masked with
  | nil => rfl
  | cons line rest ih =>
    cases masked with
    | nil => cases h
    | cons other more => rw [pair, List.zipWith_cons_cons, ih (Nat.succ.inj h)]

/-- A masked text has the characters of the raw one at the same positions, each as it was or as a blank
and line feeds as line feeds. So it has as many lines, each line is paired with its own masked form, and
the columns of the two agree. -/
theorem masking_keeps_grid (l : Language) (content : String) :
    let masked := Lexical.mask l content
    masked.length = content.length ∧
      Forall₂ Lexical.CoveredBy content.toList masked.toList ∧
      (Text.lines masked).length = (Text.lines content).length ∧
      LinePair.ofContent content l = List.zipWith LinePair.mk (Text.lines content) (Text.lines masked) ∧
      Forall₂ (fun raw masked => Lexical.Aligned raw.toList masked.toList) (Text.lines content)
        (Text.lines masked) := by
  have hcovered := Lexical.coveredBy_mask l content
  have hlines := Text.aligned_lines l content
  refine ⟨?_, hcovered, hlines.length_eq.symm, LinePair.pair_eq_zipWith hlines.length_eq, hlines⟩
  rw [← String.length_toList, ← String.length_toList]
  exact hcovered.length_eq.symm

/-- A carriage return in a comment leaves a blank at the end of its masked line. -/
example : LinePair.ofContent "x // y\r\nz" .go = [⟨"x // y", "x      "⟩, ⟨"z", "z"⟩] := by cbv

end CodeAudit
