import CodeAudit.Count
import CodeAudit.Lexical.Block
import Mathlib.Data.List.Basic
import Mathlib.Data.List.Infix

/-! Where a brace block ends, by counts of braces. The program goes line by line with a depth in 32 bits; here the
lines are one text whose characters know their lines, and a block is told by its first opening brace and by the first
part from there on with as many closing braces as opening ones. The depth is exact below 2³¹ opening braces. -/
namespace CodeAudit.Lexical

/-- The characters of some lines, each with the number of its line; the first line has number `i`. -/
def numbered (i : Nat) : List String → List (Char × Nat)
  | [] => []
  | line :: rest => line.toList.map (·, i) ++ numbered (i + 1) rest

def openings (text : List (Char × Nat)) : Nat := text.countP fun x => x.1 = '\x7b'

def closings (text : List (Char × Nat)) : Nat := text.countP fun x => x.1 = '\x7d'

/-- As many closing braces as opening ones. -/
def Balanced (text : List (Char × Nat)) : Prop := closings text = openings text

/-- The first opening brace of a text stands on a line, between what is before and what is behind. -/
structure OpensAt (text before : List (Char × Nat)) (line : Nat) (behind : List (Char × Nat)) : Prop where
  split : text = before ++ ('\x7b', line) :: behind
  first : ∀ x ∈ before, x.1 ≠ '\x7b'

/-- No part from the beginning on is balanced. -/
def Unbalanced (text : List (Char × Nat)) : Prop := ∀ part, part <+: text → part ≠ [] → ¬ Balanced part

/-- The first part from the beginning on that is balanced ends on a line. -/
def BalancesOn (text : List (Char × Nat)) (e : Nat) : Prop :=
  ∃ inner c rest, text = inner ++ (c, e) :: rest ∧ Balanced (inner ++ [(c, e)]) ∧ Unbalanced inner

variable {start last i line e : Nat} {c : Char} {x : Char × Nat} {lines : List String}
  {text before behind inner tail part : List (Char × Nat)}

section Numbered

theorem bounds_of_mem_numbered (h : x ∈ numbered i lines) : i ≤ x.2 ∧ x.2 < i + lines.length := by
  induction lines generalizing i with
  | nil => cases h
  | cons line rest ih =>
    rw [List.length_cons]
    rcases List.mem_append.mp h with h | h
    · obtain ⟨c, -, rfl⟩ := List.mem_map.mp h
      exact ⟨Nat.le_refl i, by simp⟩
    · obtain ⟨hle, hlt⟩ := ih h
      omega

theorem pairwise_numbered (i : Nat) (lines : List String) : (numbered i lines).Pairwise fun x y => x.2 ≤ y.2 := by
  induction lines generalizing i with
  | nil => exact .nil
  | cons line rest ih =>
    refine List.pairwise_append.mpr ⟨?_, ih (i + 1), ?_⟩
    · exact List.pairwise_map.mpr (List.pairwise_of_forall fun _ _ => Nat.le_refl i)
    · intro x hx y hy
      obtain ⟨c, -, rfl⟩ := List.mem_map.mp hx
      exact Nat.le_of_succ_le (bounds_of_mem_numbered hy).1

end Numbered

section Scan

variable {d : Int32}

theorem step_before (hopen : c ≠ '\x7b') (hend : c ≠ ';') : BraceScan.before.step c = .before := by
  unfold BraceScan.step
  split <;> simp_all

theorem step_inside (d : Int32) (hopen : c ≠ '\x7b') (hclose : c ≠ '\x7d') :
    (BraceScan.inside d).step c = .inside d := by
  unfold BraceScan.step
  split <;> simp_all

theorem step_close_last (hd : d - 1 ≤ 0) : (BraceScan.inside d).step '\x7d' = .closed := if_pos hd

theorem step_close (hd : ¬ d - 1 ≤ 0) : (BraceScan.inside d).step '\x7d' = .inside (d - 1) := if_neg hd

theorem foldl_step_closed (cs : List Char) : cs.foldl BraceScan.step .closed = .closed := by
  induction cs with
  | nil => rfl
  | cons c rest ih => exact ih

theorem foldl_step_ended (cs : List Char) : cs.foldl BraceScan.step .ended = .ended := by
  induction cs with
  | nil => rfl
  | cons c rest ih => exact ih

/-- Inside of braces a line ends inside as well, or the block is closed on it. -/
theorem foldl_step_inside (d : Int32) (cs : List Char) :
    cs.foldl BraceScan.step (.inside d) = .closed ∨ ∃ d', cs.foldl BraceScan.step (.inside d) = .inside d' := by
  induction cs generalizing d with
  | nil => exact .inr ⟨d, rfl⟩
  | cons c cs ih =>
    rw [List.foldl_cons]
    by_cases hopen : c = '\x7b'
    · subst hopen
      exact ih (d + 1)
    by_cases hclose : c = '\x7d'
    · subst hclose
      by_cases hd : d - 1 ≤ 0
      · rw [step_close_last hd, foldl_step_closed]
        exact .inl rfl
      · rw [step_close hd]
        exact ih (d - 1)
    · rw [step_inside d hopen hclose]
      exact ih d

/-- The line on which a text inside `d` braces leaves them. -/
def leavesOn (last : Nat) : (d : Int32) → List (Char × Nat) → Nat
  | _, [] => last
  | d, (c, i) :: rest =>
    if c = '\x7b' then leavesOn last (d + 1) rest
    else if c = '\x7d' then if d - 1 ≤ 0 then i else leavesOn last (d - 1) rest
    else leavesOn last d rest

/-- The line on which the first block of a text ends; the search for it stays within the lines of a signature. -/
def blockEnd? (start last : Nat) : List (Char × Nat) → Option Nat
  | [] => none
  | (c, i) :: rest =>
    if start + maxSignatureLines < i then none
    else if c = '\x7b' then some (leavesOn last 1 rest)
    else if c = ';' then none
    else blockEnd? start last rest

theorem leavesOn_line (last i : Nat) (d : Int32) (cs : List Char) (rest : List (Char × Nat)) :
    leavesOn last d (cs.map (·, i) ++ rest) =
      match cs.foldl BraceScan.step (.inside d) with
      | .inside d' => leavesOn last d' rest
      | _ => i := by
  induction cs generalizing d with
  | nil => rfl
  | cons c cs ih =>
    rw [List.map_cons, List.cons_append, leavesOn, List.foldl_cons]
    by_cases hopen : c = '\x7b'
    · subst hopen
      rw [if_pos rfl, ih]
      rfl
    rw [if_neg hopen]
    by_cases hclose : c = '\x7d'
    · subst hclose
      rw [if_pos rfl]
      by_cases hd : d - 1 ≤ 0
      · rw [if_pos hd, step_close_last hd, foldl_step_closed]
      · rw [if_neg hd, step_close hd, ih]
    · rw [if_neg hclose, step_inside d hopen hclose, ih]

theorem blockEnd?_line (last : Nat) (hi : i ≤ start + maxSignatureLines) (cs : List Char) (rest : List (Char × Nat)) :
    blockEnd? start last (cs.map (·, i) ++ rest) =
      match cs.foldl BraceScan.step .before with
      | .before => blockEnd? start last rest
      | .inside d => some (leavesOn last d rest)
      | .closed => some i
      | .ended => none := by
  induction cs with
  | nil => rfl
  | cons c cs ih =>
    rw [List.map_cons, List.cons_append, blockEnd?, if_neg (Nat.not_lt.mpr hi), List.foldl_cons]
    by_cases hopen : c = '\x7b'
    · subst hopen
      have hstep : BraceScan.before.step '\x7b' = .inside 1 := rfl
      rw [if_pos rfl, hstep, leavesOn_line]
      rcases foldl_step_inside 1 cs with hfold | ⟨d, hfold⟩ <;> rw [hfold]
    rw [if_neg hopen]
    by_cases hend : c = ';'
    · subst hend
      have hstep : BraceScan.before.step ';' = .ended := rfl
      rw [if_pos rfl, hstep, foldl_step_ended]
    · rw [if_neg hend, step_before hopen hend, ih]

/-- From a brace on the lines are one text. -/
theorem braceEndFrom_inside (start last i : Nat) (d : Int32) (lines : List String) :
    braceEndFrom start last i (.inside d) lines = some (leavesOn last d (numbered i lines)) := by
  induction lines generalizing i d with
  | nil => rfl
  | cons line rest ih =>
    rw [braceEndFrom, numbered, leavesOn_line, BraceScan.line]
    rcases foldl_step_inside d line.toList with hfold | ⟨d', hfold⟩
    · rw [hfold]
    · rw [hfold]
      exact ih (i + 1) d'

theorem blockEnd?_of_late (h : ∀ x ∈ text, start + maxSignatureLines < x.2) : blockEnd? start last text = none := by
  cases text with
  | nil => rfl
  | cons x rest => exact if_pos (h x List.mem_cons_self)

/-- Before a brace the lines are one text up to the last line of a signature. -/
theorem braceEndFrom_before (last : Nat) (hi : i ≤ start + maxSignatureLines) (lines : List String) :
    braceEndFrom start last i .before lines = blockEnd? start last (numbered i lines) := by
  induction lines generalizing i with
  | nil => rfl
  | cons line rest ih =>
    rw [braceEndFrom, numbered, blockEnd?_line last hi, BraceScan.line]
    cases line.toList.foldl BraceScan.step .before with
    | before =>
      dsimp only
      by_cases hlast : start + maxSignatureLines ≤ i
      · have hlate : ∀ x ∈ numbered (i + 1) rest, start + maxSignatureLines < x.2 :=
          fun x hx => Nat.lt_of_le_of_lt hlast (bounds_of_mem_numbered hx).1
        rw [if_pos hlast, blockEnd?_of_late hlate]
      · rw [if_neg hlast]
        exact ih (by omega)
    | inside d => exact braceEndFrom_inside start last (i + 1) d rest
    | closed => rfl
    | ended => rfl

theorem braceBlockEnd?_eq (lines : List String) (start : Nat) :
    braceBlockEnd? lines start = blockEnd? start (lines.length - 1) (numbered start (lines.drop start)) :=
  braceEndFrom_before (lines.length - 1) (Nat.le_add_right start maxSignatureLines) (lines.drop start)

end Scan

section Braces

@[simp]
theorem openings_nil : openings [] = 0 := rfl

@[simp]
theorem closings_nil : closings [] = 0 := rfl

theorem openings_append (xs ys : List (Char × Nat)) : openings (xs ++ ys) = openings xs + openings ys :=
  List.countP_append

theorem closings_append (xs ys : List (Char × Nat)) : closings (xs ++ ys) = closings xs + closings ys :=
  List.countP_append

theorem openings_open (i : Nat) (text : List (Char × Nat)) : openings (('\x7b', i) :: text) = openings text + 1 :=
  List.countP_cons_of_pos rfl

theorem closings_close (i : Nat) (text : List (Char × Nat)) : closings (('\x7d', i) :: text) = closings text + 1 :=
  List.countP_cons_of_pos rfl

theorem openings_cons_of_ne (hopen : c ≠ '\x7b') (i : Nat) (text : List (Char × Nat)) :
    openings ((c, i) :: text) = openings text :=
  List.countP_cons_of_neg (by simpa using hopen)

theorem closings_cons_of_ne (hclose : c ≠ '\x7d') (i : Nat) (text : List (Char × Nat)) :
    closings ((c, i) :: text) = closings text :=
  List.countP_cons_of_neg (by simpa using hclose)

theorem closings_open (i : Nat) (text : List (Char × Nat)) : closings (('\x7b', i) :: text) = closings text :=
  closings_cons_of_ne (by decide) i text

theorem openings_close (i : Nat) (text : List (Char × Nat)) : openings (('\x7d', i) :: text) = openings text :=
  openings_cons_of_ne (by decide) i text

/-- A text that starts with an opening brace and has no balanced part never has as many closing braces as opening
ones. -/
theorem Unbalanced.closings_lt (h : Unbalanced (('\x7b', line) :: text)) (hpart : part <+: text) :
    closings part < 1 + openings part := by
  induction part using List.reverseRecOn with
  | nil => exact Nat.one_pos
  | append_singleton part x ih =>
    have hfewer := ih ((List.prefix_append part [x]).trans hpart)
    have hone : closings [x] ≤ 1 := List.countP_le_length
    have hne := h (('\x7b', line) :: (part ++ [x])) (List.cons_prefix_cons.mpr ⟨rfl, hpart⟩) (List.cons_ne_nil _ _)
    rw [Balanced, closings_open, openings_open, closings_append, openings_append] at hne
    rw [closings_append, openings_append]
    omega

theorem openings_le_of_prefix (h : part <+: text) : openings part ≤ openings text := by
  obtain ⟨rest, rfl⟩ := h
  rw [openings_append]
  exact Nat.le_add_right _ _

variable {d : Nat}

/-- Below 2³¹ the word for a depth tells whether a closing brace closes the last one. -/
theorem ofNat_sub_one_le_zero_iff (hpos : 0 < d) (hsmall : d < bound31) : Int32.ofNat d - 1 ≤ 0 ↔ d ≤ 1 := by
  rw [bound31] at hsmall
  have hless : Int32.ofNat d - 1 = Int32.ofNat (d - 1) := (Int32.ofNat_sub d 1 hpos).symm
  have hle : Int32.ofNat (d - 1) ≤ 0 ↔ d - 1 ≤ 0 := Int32.ofNat_le_iff_le (by omega) (by decide)
  rw [hless, hle]
  omega

/-- A text that never closes all braces around it is followed from one end to the other. -/
theorem leavesOn_append (last : Nat) (tail : List (Char × Nat)) (hfew : d + openings inner < bound31)
    (h : ∀ part, part <+: inner → closings part < d + openings part) :
    leavesOn last (.ofNat d) (inner ++ tail) =
      leavesOn last (.ofNat (d + openings inner - closings inner)) tail := by
  induction inner generalizing d with
  | nil => rfl
  | cons x inner ih =>
    obtain ⟨c, i⟩ := x
    have hrest : ∀ part, part <+: inner → closings ((c, i) :: part) < d + openings ((c, i) :: part) :=
      fun part hpart => h _ (List.cons_prefix_cons.mpr ⟨rfl, hpart⟩)
    rw [List.cons_append, leavesOn]
    by_cases hopen : c = '\x7b'
    · subst hopen
      have hdeeper : ∀ part, part <+: inner → closings part < d + 1 + openings part := by
        intro part hpart
        have := hrest part hpart
        rw [closings_open, openings_open] at this
        omega
      have hword : Int32.ofNat d + 1 = Int32.ofNat (d + 1) := (Int32.ofNat_add d 1).symm
      rw [openings_open] at hfew
      rw [if_pos rfl, hword, ih (by omega) hdeeper, openings_open, closings_open]
      congr 2
      omega
    rw [openings_cons_of_ne hopen] at hfew
    rw [if_neg hopen, openings_cons_of_ne hopen]
    by_cases hclose : c = '\x7d'
    · subst hclose
      have hd : 1 < d := by
        have := hrest [] List.nil_prefix
        rw [closings_close, openings_close] at this
        exact this
      have hless : ∀ part, part <+: inner → closings part < d - 1 + openings part := by
        intro part hpart
        have := hrest part hpart
        rw [closings_close, openings_close] at this
        omega
      have hword : Int32.ofNat d - 1 = Int32.ofNat (d - 1) := (Int32.ofNat_sub d 1 (by omega)).symm
      have hinside : ¬ Int32.ofNat d - 1 ≤ 0 := by
        rw [ofNat_sub_one_le_zero_iff (by omega) (by omega)]
        omega
      rw [if_pos rfl, if_neg hinside, hword, ih (by omega) hless, closings_close]
      congr 2
      omega
    · have hsame : ∀ part, part <+: inner → closings part < d + openings part := by
        intro part hpart
        have := hrest part hpart
        rwa [closings_cons_of_ne hclose, openings_cons_of_ne hopen] at this
      rw [if_neg hclose, ih hfew hsame, closings_cons_of_ne hclose]

theorem leavesOn_of_unbalanced (last : Nat) (hfew : openings (('\x7b', line) :: text) < bound31)
    (h : Unbalanced (('\x7b', line) :: text)) : leavesOn last 1 text = last := by
  rw [openings_open] at hfew
  have hall := leavesOn_append (d := 1) last [] (by omega) fun part hpart => h.closings_lt hpart
  rwa [List.append_nil, leavesOn] at hall

theorem leavesOn_of_balancesOn (last : Nat) (hfew : openings (('\x7b', line) :: text) < bound31)
    (h : BalancesOn (('\x7b', line) :: text) e) : leavesOn last 1 text = e := by
  rw [openings_open] at hfew
  obtain ⟨inner, c, rest, hsplit, hbalanced, hinner⟩ := h
  cases inner with
  | nil =>
    -- the first brace alone is not balanced
    obtain ⟨hbrace, -⟩ := List.cons_eq_cons.mp hsplit
    rw [List.nil_append, ← hbrace, Balanced, closings_open, openings_open] at hbalanced
    cases hbalanced
  | cons x inner =>
    rw [List.cons_append] at hsplit
    obtain ⟨rfl, rfl⟩ := List.cons_eq_cons.mp hsplit
    have hpart : openings inner ≤ openings (inner ++ (c, e) :: rest) := openings_le_of_prefix (List.prefix_append _ _)
    have hstart : leavesOn last 1 (inner ++ (c, e) :: rest) = _ :=
      leavesOn_append (d := 1) last _ (by omega) fun part hpart => hinner.closings_lt hpart
    rw [hstart]
    have hfewer := hinner.closings_lt (List.prefix_refl inner)
    rw [List.cons_append, Balanced, closings_open, openings_open, closings_append, openings_append] at hbalanced
    -- so the last character closes the one brace that is still open
    obtain rfl : c = '\x7d' := by
      by_contra hclose
      rw [closings_cons_of_ne hclose, closings_nil] at hbalanced
      omega
    rw [closings_close, openings_close, closings_nil, openings_nil] at hbalanced
    have hdepth : 1 + openings inner - closings inner = 1 := by omega
    rw [hdepth, leavesOn]
    rfl

/-- Some first part of a text is balanced, or none is. -/
theorem balancesOn_or_unbalanced (text : List (Char × Nat)) : (∃ e, BalancesOn text e) ∨ Unbalanced text := by
  induction text using List.reverseRecOn with
  | nil => exact .inr fun part hpart hne => absurd (List.prefix_nil.mp hpart) hne
  | append_singleton text x ih =>
    obtain ⟨c, i⟩ := x
    rcases ih with ⟨e, inner, b, rest, rfl, hbalanced, hinner⟩ | hnone
    · exact .inl ⟨e, inner, b, rest ++ [(c, i)], by simp, hbalanced, hinner⟩
    by_cases hall : Balanced (text ++ [(c, i)])
    · exact .inl ⟨i, text, c, [], rfl, hall, hnone⟩
    · refine .inr fun part hpart hne => ?_
      rcases List.prefix_concat_iff.mp hpart with rfl | hpart
      · exact hall
      · exact hnone part hpart hne

end Braces

section Opening

/-- A text has a first opening brace, or none. -/
theorem opensAt_or_none (text : List (Char × Nat)) :
    (∃ before line behind, OpensAt text before line behind) ∨ ∀ x ∈ text, x.1 ≠ '\x7b' := by
  cases hfind : text.find? fun x => x.1 = '\x7b' with
  | none => exact .inr fun x hx => by simpa using List.find?_eq_none.mp hfind x hx
  | some x =>
    obtain ⟨hbrace, before, behind, hsplit, hfirst⟩ := List.find?_eq_some_iff_append.mp hfind
    obtain ⟨c, line⟩ := x
    obtain rfl : c = '\x7b' := by simpa using hbrace
    exact .inl ⟨before, line, behind, hsplit, fun x hx => by simpa using hfirst x hx⟩

theorem blockEnd?_eq_none (h : ∀ x ∈ text, x.1 ≠ '\x7b') : blockEnd? start last text = none := by
  induction text with
  | nil => rfl
  | cons x rest ih =>
    obtain ⟨c, i⟩ := x
    obtain ⟨hc, hrest⟩ := List.forall_mem_cons.mp h
    rw [blockEnd?, if_neg hc, ih hrest]
    split
    · rfl
    · exact ite_self none

/-- The search passes over all that neither opens a block nor ends it. -/
theorem blockEnd?_append (h : ∀ x ∈ before, x.1 ≠ '\x7b' ∧ x.1 ≠ ';' ∧ x.2 ≤ start + maxSignatureLines) :
    blockEnd? start last (before ++ tail) = blockEnd? start last tail := by
  induction before with
  | nil => rfl
  | cons x rest ih =>
    obtain ⟨c, i⟩ := x
    obtain ⟨⟨hopen, hend, hi⟩, hrest⟩ := List.forall_mem_cons.mp h
    rw [List.cons_append, blockEnd?, if_neg (Nat.not_lt.mpr hi), if_neg hopen, if_neg hend, ih hrest]

theorem OpensAt.blockEnd?_eq (h : OpensAt text before line behind) (hsorted : text.Pairwise fun x y => x.2 ≤ y.2)
    (hend : ∀ x ∈ before, x.1 ≠ ';') (hline : line ≤ start + maxSignatureLines) :
    blockEnd? start last text = some (leavesOn last 1 behind) := by
  have hbefore : ∀ x ∈ before, x.2 ≤ line := by
    rw [h.split, List.pairwise_append] at hsorted
    exact fun x hx => hsorted.2.2 x hx _ List.mem_cons_self
  rw [h.split, blockEnd?_append fun x hx => ⟨h.first x hx, hend x hx, Nat.le_trans (hbefore x hx) hline⟩, blockEnd?,
    if_neg (Nat.not_lt.mpr hline), if_pos rfl]

/-- A semicolon ends the search, and so does the last line of a signature. -/
theorem OpensAt.blockEnd?_eq_none (h : OpensAt text before line behind)
    (hstop : (∃ x ∈ before, x.1 = ';') ∨ start + maxSignatureLines < line) : blockEnd? start last text = none := by
  rw [h.split]
  have hfirst := h.first
  clear h
  induction before with
  | nil =>
    rcases hstop with ⟨x, hx, -⟩ | hlate
    · cases hx
    · exact if_pos hlate
  | cons x rest ih =>
    obtain ⟨c, i⟩ := x
    obtain ⟨hopen, hrest⟩ := List.forall_mem_cons.mp hfirst
    rw [List.cons_append, blockEnd?, if_neg hopen]
    by_cases hend : c = ';'
    · rw [if_pos hend, ite_self]
    have hstop' : (∃ x ∈ rest, x.1 = ';') ∨ start + maxSignatureLines < line := by
      refine hstop.imp_left ?_
      rintro ⟨x, hx, hsemicolon⟩
      rcases List.mem_cons.mp hx with rfl | hx
      · exact absurd hsemicolon hend
      · exact ⟨x, hx, hsemicolon⟩
    rw [if_neg hend, ih hstop' hrest, ite_self]

end Opening

section Extent

/-- What keeps a text from opening a block: it has no opening brace, or a semicolon stands before it, or it comes too
late. -/
def OpensNone (start : Nat) (text : List (Char × Nat)) : Prop :=
  (∀ x ∈ text, x.1 ≠ '\x7b') ∨
    ∃ before line behind, OpensAt text before line behind ∧ ((∃ x ∈ before, x.1 = ';') ∨ start + 12 < line)

/-- The block that the first opening brace of a text opens ends on a line: where its braces are first balanced, or on
the last line of all. -/
def EndsOn (start last : Nat) (text : List (Char × Nat)) (e : Nat) : Prop :=
  ∃ before line behind, OpensAt text before line behind ∧ (∀ x ∈ before, x.1 ≠ ';') ∧ line ≤ start + 12 ∧
    (BalancesOn (('\x7b', line) :: behind) e ∨ Unbalanced (('\x7b', line) :: behind) ∧ e = last)

theorem OpensNone.blockEnd?_eq_none (h : OpensNone start text) : blockEnd? start last text = none := by
  rcases h with hnone | ⟨before, line, behind, hopen, hstop⟩
  · exact Lexical.blockEnd?_eq_none hnone
  · exact hopen.blockEnd?_eq_none hstop

/-- Where a block is opened, it ends on the line on which the text leaves its braces. -/
theorem EndsOn.exists_leavesOn (h : EndsOn start last text e) (hsorted : text.Pairwise fun x y => x.2 ≤ y.2) :
    ∃ before line behind, OpensAt text before line behind ∧
      blockEnd? start last text = some (leavesOn last 1 behind) := by
  obtain ⟨before, line, behind, hopen, hend, hline, -⟩ := h
  exact ⟨before, line, behind, hopen, hopen.blockEnd?_eq hsorted hend hline⟩

theorem EndsOn.blockEnd?_eq (h : EndsOn start last text e) (hsorted : text.Pairwise fun x y => x.2 ≤ y.2)
    (hfew : openings text < bound31) : blockEnd? start last text = some e := by
  obtain ⟨before, line, behind, hopen, hend, hline, hextent⟩ := h
  rw [hopen.split, openings_append] at hfew
  rw [hopen.blockEnd?_eq hsorted hend hline]
  rcases hextent with hbalanced | ⟨hunbalanced, rfl⟩
  · rw [leavesOn_of_balancesOn last (by omega) hbalanced]
  · rw [leavesOn_of_unbalanced e (by omega) hunbalanced]

theorem opensNone_or_endsOn (start last : Nat) (text : List (Char × Nat)) :
    OpensNone start text ∨ ∃ e, EndsOn start last text e := by
  rcases opensAt_or_none text with ⟨before, line, behind, hopen⟩ | hnone
  · by_cases hstop : (∃ x ∈ before, x.1 = ';') ∨ start + 12 < line
    · exact .inl (.inr ⟨before, line, behind, hopen, hstop⟩)
    · obtain ⟨hend, hline⟩ := not_or.mp hstop
      have hend : ∀ x ∈ before, x.1 ≠ ';' := fun x hx hsemicolon => hend ⟨x, hx, hsemicolon⟩
      have hline := Nat.le_of_not_lt hline
      rcases balancesOn_or_unbalanced (('\x7b', line) :: behind) with ⟨e, hbalanced⟩ | hunbalanced
      · exact .inr ⟨e, before, line, behind, hopen, hend, hline, .inl hbalanced⟩
      · exact .inr ⟨last, before, line, behind, hopen, hend, hline, .inr ⟨hunbalanced, rfl⟩⟩
  · exact .inl (.inl hnone)

theorem blockEnd?_eq_none_iff (last : Nat) (hsorted : text.Pairwise fun x y => x.2 ≤ y.2) :
    blockEnd? start last text = none ↔ OpensNone start text := by
  refine ⟨fun hresult => ?_, OpensNone.blockEnd?_eq_none⟩
  rcases opensNone_or_endsOn start last text with hnone | ⟨e, hend⟩
  · exact hnone
  · obtain ⟨_, _, _, _, hsome⟩ := hend.exists_leavesOn hsorted
    rw [hsome] at hresult
    cases hresult

theorem blockEnd?_eq_some_iff (last : Nat) (hsorted : text.Pairwise fun x y => x.2 ≤ y.2)
    (hfew : openings text < bound31) : blockEnd? start last text = some e ↔ EndsOn start last text e := by
  refine ⟨fun hresult => ?_, fun hend => hend.blockEnd?_eq hsorted hfew⟩
  rcases opensNone_or_endsOn start last text with hnone | ⟨e', hend⟩
  · rw [hnone.blockEnd?_eq_none] at hresult
    cases hresult
  · rw [hend.blockEnd?_eq hsorted hfew] at hresult
    cases hresult
    exact hend

/-- A text leaves its braces on one of its lines or on the last line of all, whatever the depth counts. -/
theorem leavesOn_eq_last_or_mem (last : Nat) (depth : Int32) (text : List (Char × Nat)) :
    leavesOn last depth text = last ∨ ∃ x ∈ text, x.2 = leavesOn last depth text := by
  induction text generalizing depth with
  | nil => exact .inl rfl
  | cons x rest ih =>
    obtain ⟨c, i⟩ := x
    have hlater : ∀ d, leavesOn last d rest = last ∨ ∃ x ∈ (c, i) :: rest, x.2 = leavesOn last d rest :=
      fun d => (ih d).imp_right fun ⟨x, hx, heq⟩ => ⟨x, List.mem_cons_of_mem _ hx, heq⟩
    rw [leavesOn]
    split
    · exact hlater (depth + 1)
    · split
      · split
        · exact .inr ⟨(c, i), List.mem_cons_self, rfl⟩
        · exact hlater (depth - 1)
      · exact hlater depth

theorem braceBlockEnd?_bounds (hresult : braceBlockEnd? lines start = some e) : start ≤ e ∧ e < lines.length := by
  have hbounds : ∀ x ∈ numbered start (lines.drop start), start ≤ x.2 ∧ x.2 < lines.length := by
    intro x hx
    have hx := bounds_of_mem_numbered hx
    rw [List.length_drop] at hx
    omega
  have hsorted := pairwise_numbered start (lines.drop start)
  rw [braceBlockEnd?_eq] at hresult
  rcases opensNone_or_endsOn start (lines.length - 1) (numbered start (lines.drop start)) with hnone | ⟨e', hend⟩
  · rw [hnone.blockEnd?_eq_none] at hresult
    cases hresult
  · obtain ⟨before, line, behind, hopen, hsome⟩ := hend.exists_leavesOn hsorted
    obtain rfl : leavesOn (lines.length - 1) 1 behind = e := Option.some.inj (hsome.symm.trans hresult)
    rw [hopen.split] at hbounds
    have hline := hbounds ('\x7b', line) (by simp)
    rcases leavesOn_eq_last_or_mem (lines.length - 1) 1 behind with hlast | ⟨x, hx, hmem⟩
    · omega
    · rw [← hmem]
      exact hbounds x (by simp [hx])

/-- A brace block has an end unless the lines from `start` on hold no opening brace, or a semicolon comes before the
first one, or the first one comes more than twelve lines later. The end is the line on which, counted from the first
opening brace on, there are first as many closing braces as opening ones, and the last line if that never is; so it is
as long as a word of 32 bits can count the opening braces. In any case it is a line from `start` on, and the length of
a block is not negative. -/
theorem braceBlockEnd?_extent (lines : List String) (start : Nat) :
    let text := numbered start (lines.drop start)
    (braceBlockEnd? lines start = none ↔ OpensNone start text) ∧
      (openings text < bound31 →
        ∀ e, braceBlockEnd? lines start = some e ↔ EndsOn start (lines.length - 1) text e) ∧
      ∀ e, braceBlockEnd? lines start = some e → start ≤ e ∧ e < lines.length := by
  intro text
  have hsorted := pairwise_numbered start (lines.drop start)
  refine ⟨?_, fun hfew e => ?_, fun e => braceBlockEnd?_bounds⟩
  · rw [braceBlockEnd?_eq]
    exact blockEnd?_eq_none_iff _ hsorted
  · rw [braceBlockEnd?_eq]
    exact blockEnd?_eq_some_iff _ hsorted hfew

/-- A block with a closing brace before it, and a semicolon and braces in it. -/
def nestedBlock : List String := ["\x7d fn f()", "\x7b", "  if a \x7b b; \x7d", "\x7d", "next"]

theorem nestedBlock_extent :
    openings (numbered 0 nestedBlock) < bound31 ∧ braceBlockEnd? nestedBlock 0 = some 3 ∧
      EndsOn 0 4 (numbered 0 nestedBlock) 3 ∧ 3 < nestedBlock.length := by
  have hfew : openings (numbered 0 nestedBlock) < bound31 := by decide
  have hresult : braceBlockEnd? nestedBlock 0 = some 3 := by decide
  obtain ⟨-, hextent, hbounds⟩ := braceBlockEnd?_extent nestedBlock 0
  exact ⟨hfew, hresult, (hextent hfew 3).mp hresult, (hbounds 3 hresult).2⟩

end Extent

end CodeAudit.Lexical
