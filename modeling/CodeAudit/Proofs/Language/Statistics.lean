import CodeAudit.Language.Statistics
import CodeAudit.Proofs.Language.Percentage
import Mathlib.Data.List.Nodup
import Mathlib.Data.List.Perm.Basic

/-! The statistics of languages are accounts of the files: each file is counted once, under its language
or as unknown. They do not depend on the order of files or mappings, since sums do not and since no two
languages stand alike in the order of the list. -/
namespace CodeAudit

theorem total_perm {xs ys : List Nat} (h : xs.Perm ys) : total xs = total ys := by
  induction h with
  | nil => rfl
  | cons x _ ih => rw [total_cons, total_cons, ih]
  | swap x y l =>
    simp only [total_cons]
    omega
  | trans _ _ ihxy ihyz => exact ihxy.trans ihyz

theorem total_map_one {α : Type} (l : List α) : total (l.map fun _ => 1) = l.length := by
  induction l with
  | nil => rfl
  | cons a rest ih =>
    rw [List.map_cons, total_cons, ih, List.length_cons]
    omega

/-- What is counted under one key and under all others is everything. -/
theorem total_filter_add {α : Type} (f : α → Nat) (p : α → Bool) (l : List α) :
    total ((l.filter p).map f) + total ((l.filter fun a => !p a).map f) = total (l.map f) := by
  induction l with
  | nil => rfl
  | cons a rest ih =>
    by_cases h : p a <;> simp [h] <;> omega

/-- Sums by key add up to the whole sum if every key is listed once. -/
theorem total_by_key {α κ : Type} [DecidableEq κ] (key : α → κ) (f : α → Nat) {keys : List κ} (hn : keys.Nodup)
    {l : List α} (h : ∀ a ∈ l, key a ∈ keys) :
    total (keys.map fun k => total ((l.filter fun a => key a = k).map f)) = total (l.map f) := by
  induction keys generalizing l with
  | nil =>
    cases l with
    | nil => rfl
    | cons a rest => exact absurd (h a List.mem_cons_self) List.not_mem_nil
  | cons k rest ih =>
    obtain ⟨hk, hrest⟩ := List.nodup_cons.mp hn
    -- The induction is on the keys: what the first one does not count is left to the others.
    have hothers : ∀ a ∈ l.filter fun a => !decide (key a = k), key a ∈ rest := by
      intro a ha
      obtain ⟨ha, hne⟩ := List.mem_filter.mp ha
      exact (List.mem_cons.mp (h a ha)).resolve_left (by simpa using hne)
    have hsame : ∀ k' ∈ rest, ((l.filter fun a => !decide (key a = k)).filter fun a => key a = k') =
        l.filter fun a => key a = k' := by
      intro k' hk'
      rw [List.filter_filter]
      refine List.filter_congr fun a _ => ?_
      by_cases ha : key a = k'
      · have hne : k' ≠ k := fun he => hk (he ▸ hk')
        simp [ha, hne]
      · simp [ha]
    have hmap : (rest.map fun k' => total ((l.filter fun a => key a = k').map f)) =
        rest.map fun k' => total (((l.filter fun a => !decide (key a = k)).filter fun a => key a = k').map f) :=
      List.map_congr_left fun k' hk' => by rw [hsame k' hk']
    rw [List.map_cons, total_cons, hmap, ih hrest hothers]
    exact total_filter_add f (fun a => decide (key a = k)) l

/-- Two members under different keys pass a test if more than one member does. -/
theorem one_lt_countP_iff {α κ : Type} {f : α → κ} {p : α → Bool} {l : List α} (hn : (l.map f).Nodup) :
    1 < l.countP p ↔ ∃ a ∈ l, ∃ b ∈ l, f a ≠ f b ∧ p a = true ∧ p b = true := by
  rw [List.countP_eq_length_filter]
  have hmem : ∀ a, a ∈ l.filter p ↔ a ∈ l ∧ p a = true := fun a => List.mem_filter
  have hfiltered : ((l.filter p).map f).Nodup := hn.sublist (List.filter_sublist.map f)
  generalize l.filter p = passed at hmem hfiltered
  constructor
  · intro hlength
    match passed, hlength with
    | a :: b :: rest, _ =>
      rw [List.map_cons, List.map_cons, List.nodup_cons, List.mem_cons, not_or] at hfiltered
      obtain ⟨ha, hpa⟩ := (hmem a).mp (by simp)
      obtain ⟨hb, hpb⟩ := (hmem b).mp (by simp)
      exact ⟨a, ha, b, hb, hfiltered.1.1, hpa, hpb⟩
  · rintro ⟨a, ha, b, hb, hne, hpa, hpb⟩
    have ha' := (hmem a).mpr ⟨ha, hpa⟩
    have hb' := (hmem b).mpr ⟨hb, hpb⟩
    match passed with
    | [] => cases ha'
    | [c] =>
      rw [List.mem_singleton] at ha' hb'
      exact absurd (by rw [ha', hb']) hne
    | c :: d :: rest => simp

namespace Language

theorem mem_all (l : Language) : l ∈ all := by cases l <;> decide

theorem nodup_all : all.Nodup := by decide

theorem rank_injective {a b : Language} (h : a.rank = b.rank) : a = b :=
  (List.idxOf_inj (mem_all a)).mp h

end Language

/-- Stands before another one in the list: more files, or as many and more lines, or as many of both and
an earlier language. -/
def LanguageShare.Ahead (a b : LanguageShare) : Prop :=
  b.files < a.files ∨ a.files = b.files ∧
    (b.lines < a.lines ∨ a.lines = b.lines ∧ a.language.rank < b.language.rank)

namespace LanguageStatistics

section Order

variable {a b : LanguageShare} {shares shares' : List LanguageShare}

theorem precedes_iff : precedes a b = true ↔ b.files < a.files ∨ a.files = b.files ∧
    (b.lines < a.lines ∨ a.lines = b.lines ∧ a.language.rank ≤ b.language.rank) := by
  unfold precedes
  split
  case isTrue hfiles =>
    have hne : a.files ≠ b.files := by simpa using hfiles
    simp [hne]
  case isFalse hfiles =>
    have hfiles : a.files = b.files := by simpa using hfiles
    split
    case isTrue hlines =>
      have hne : a.lines ≠ b.lines := by simpa using hlines
      simp [hfiles, hne]
    case isFalse hlines =>
      have hlines : a.lines = b.lines := by simpa using hlines
      simp [hfiles, hlines]

theorem precedes_trans (a b c : LanguageShare) (hab : precedes a b = true) (hbc : precedes b c = true) :
    precedes a c = true := by
  rw [precedes_iff] at hab hbc ⊢
  omega

theorem precedes_total (a b : LanguageShare) : (precedes a b || precedes b a) = true := by
  rw [Bool.or_eq_true, precedes_iff, precedes_iff]
  omega

/-- Only a share of the same language can stand both before and behind a share. -/
theorem language_eq_of_precedes (hab : precedes a b = true) (hba : precedes b a = true) :
    a.language = b.language := by
  rw [precedes_iff] at hab hba
  exact Language.rank_injective (by omega)

theorem ahead_of_precedes (hab : precedes a b = true) (hne : a.language ≠ b.language) : a.Ahead b := by
  have hrank : a.language.rank ≠ b.language.rank := fun h => hne (Language.rank_injective h)
  rw [precedes_iff] at hab
  unfold LanguageShare.Ahead
  omega

theorem pairwise_mergeSort_precedes (shares : List LanguageShare) :
    (shares.mergeSort precedes).Pairwise fun a b => precedes a b = true :=
  List.pairwise_mergeSort precedes_trans precedes_total shares

theorem pairwise_ahead_mergeSort (hn : (shares.map (·.language)).Nodup) :
    (shares.mergeSort precedes).Pairwise LanguageShare.Ahead := by
  have hdistinct : ((shares.mergeSort precedes).map (·.language)).Nodup :=
    ((List.mergeSort_perm shares precedes).map _).nodup_iff.mpr hn
  rw [List.nodup_iff_pairwise_ne, List.pairwise_map] at hdistinct
  exact ((pairwise_mergeSort_precedes shares).and hdistinct).imp fun h => ahead_of_precedes h.1 h.2

/-- Shares of different languages have one order, in whatever order they come. -/
theorem mergeSort_precedes_perm (hn : (shares.map (·.language)).Nodup) (h : shares'.Perm shares) :
    shares'.mergeSort precedes = shares.mergeSort precedes := by
  have hperm : (shares'.mergeSort precedes).Perm (shares.mergeSort precedes) :=
    (List.mergeSort_perm _ _).trans (h.trans (List.mergeSort_perm _ _).symm)
  refine hperm.eq_of_pairwise ?_ (pairwise_mergeSort_precedes shares') (pairwise_mergeSort_precedes shares)
  intro a b ha hb hab hba
  rw [List.mem_mergeSort] at ha hb
  exact List.inj_on_of_nodup_map hn (h.mem_iff.mp ha) hb (language_eq_of_precedes hab hba)

end Order

/-- The language and the lines of each mapped file. -/
def counted (mappings : List LanguageMapping) (files : List SourceFile) : List (Language × Nat) :=
  mappings.map fun m => (m.language, linesOf files m.path)

/-- The entries of a known language. -/
def known (entries : List (Language × Nat)) : List (Language × Nat) := entries.filter fun e => e.1.isKnown

/-- The known languages among some entries, in the order of languages. -/
def present (entries : List (Language × Nat)) : List Language :=
  Language.all.filter fun l => (known entries).any fun e => e.1 == l

/-- The share of a language in some entries. -/
def shareIn (entries : List (Language × Nat)) (l : Language) : LanguageShare where
  language := l
  files := ((known entries).filter fun e => e.1 == l).length
  lines := total (((known entries).filter fun e => e.1 == l).map (·.2))
  percentage := percentageOf ((known entries).filter fun e => e.1 == l).length (known entries).length

/-- The statistics, once the lines of each mapped file are counted. -/
def ofCounted (entries : List (Language × Nat)) : LanguageStatistics :=
  let languages := ((present entries).map (shareIn entries)).mergeSort precedes
  { languages := languages
    totalFiles := entries.length
    totalLines := total (entries.map (·.2))
    unknownFiles := entries.length - (known entries).length
    primary := languages.head?.map (·.language)
    multiLanguage := 1 < languages.countP isSignificant }

theorem ofMappings_eq (mappings : List LanguageMapping) (files : List SourceFile) :
    ofMappings mappings files = ofCounted (counted mappings files) := by
  have hlength : mappings.length = (counted mappings files).length := by simp [counted]
  rw [ofMappings, hlength]
  rfl

section Lines

variable {files files' : List SourceFile} {path : String}

theorem linesOf_eq_zero (h : path ∉ files.map (·.path)) : linesOf files path = 0 := by
  have hnone : (files.reverse.find? fun f => f.path == path) = none := by
    rw [List.find?_eq_none]
    intro f hf hpath
    exact h (List.mem_map.mpr ⟨f, List.mem_reverse.mp hf, by simpa using hpath⟩)
  rw [linesOf, hnone]

/-- The lines of a file, if no other file has its path. -/
theorem linesOf_path (hn : (files.map (·.path)).Nodup) {f : SourceFile} (hf : f ∈ files) :
    linesOf files f.path = f.lineCount := by
  obtain ⟨g, hfind⟩ : ∃ g, (files.reverse.find? fun g => g.path == f.path) = some g := by
    rw [← Option.isSome_iff_exists, List.find?_isSome]
    exact ⟨f, List.mem_reverse.mpr hf, by simp⟩
  have hpath : g.path = f.path := by simpa using List.find?_some hfind
  have hg : g ∈ files := List.mem_reverse.mp (List.mem_of_find?_eq_some hfind)
  rw [linesOf, hfind, List.inj_on_of_nodup_map hn hg hf hpath]

theorem linesOf_perm (hn : (files.map (·.path)).Nodup) (h : files'.Perm files) (path : String) :
    linesOf files' path = linesOf files path := by
  have hpaths := h.map SourceFile.path
  by_cases hmem : path ∈ files.map (·.path)
  · obtain ⟨f, hf, rfl⟩ := List.mem_map.mp hmem
    rw [linesOf_path hn hf, linesOf_path (hpaths.nodup_iff.mpr hn) (h.mem_iff.mpr hf)]
  · rw [linesOf_eq_zero hmem, linesOf_eq_zero (mt hpaths.mem_iff.mp hmem)]

end Lines

section Entries

variable {entries entries' : List (Language × Nat)} {l : Language}

theorem mem_present : l ∈ present entries ↔ l.isKnown = true ∧ ∃ e ∈ entries, e.1 = l := by
  simp only [present, known, List.mem_filter, Language.mem_all, true_and, List.any_eq_true, beq_iff_eq]
  constructor
  · rintro ⟨e, ⟨he, hknown⟩, rfl⟩
    exact ⟨hknown, e, he, rfl⟩
  · rintro ⟨hknown, e, he, rfl⟩
    exact ⟨e, ⟨he, hknown⟩, rfl⟩

theorem nodup_present (entries : List (Language × Nat)) : (present entries).Nodup :=
  Language.nodup_all.filter _

theorem map_language_shareIn (entries : List (Language × Nat)) :
    ((present entries).map (shareIn entries)).map (·.language) = present entries := by
  rw [List.map_map]
  exact List.map_id' _

theorem mem_languages {s : LanguageShare} :
    s ∈ (ofCounted entries).languages ↔ ∃ l ∈ present entries, shareIn entries l = s := by
  rw [ofCounted, List.mem_mergeSort, List.mem_map]

theorem perm_languages (entries : List (Language × Nat)) :
    ((ofCounted entries).languages.map (·.language)).Perm (present entries) := by
  have h := (List.mergeSort_perm ((present entries).map (shareIn entries)) precedes).map (·.language)
  rwa [map_language_shareIn] at h

theorem filter_known (hl : l.isKnown = true) :
    ((known entries).filter fun e => e.1 == l) = entries.filter fun e => e.1 = l := by
  rw [known, List.filter_filter]
  refine List.filter_congr fun e _ => ?_
  by_cases he : e.1 = l <;> simp [he, hl]

/-- The entries count, not their order. -/
theorem ofCounted_perm (h : entries'.Perm entries) : ofCounted entries' = ofCounted entries := by
  have hknown : (known entries').Perm (known entries) := h.filter _
  have hpresent : present entries' = present entries := by
    refine List.filter_congr fun l _ => ?_
    rw [Bool.eq_iff_iff, List.any_eq_true, List.any_eq_true]
    simp only [hknown.mem_iff]
  have hshare : shareIn entries' = shareIn entries := by
    funext l
    have hown := hknown.filter fun e => e.1 == l
    rw [shareIn, shareIn, hown.length_eq, hknown.length_eq, total_perm (hown.map _)]
  rw [ofCounted, ofCounted, hpresent, hshare, h.length_eq, hknown.length_eq, total_perm (h.map _)]

/-- Each entry of a known language counts for one of the shares. -/
theorem total_shares (f : Language × Nat → Nat) :
    total ((present entries).map fun l => total (((known entries).filter fun e => e.1 == l).map f)) =
      total ((known entries).map f) := by
  have hown : ∀ l, ((known entries).filter fun e => e.1 == l) = (known entries).filter fun e => e.1 = l :=
    fun l => List.filter_congr fun e _ => by rw [Bool.eq_iff_iff, beq_iff_eq, decide_eq_true_eq]
  simp only [hown]
  refine total_by_key (fun e : Language × Nat => e.1) f (nodup_present entries) fun e he => ?_
  obtain ⟨he, hknown⟩ := List.mem_filter.mp he
  exact mem_present.mpr ⟨hknown, e, he, rfl⟩

end Entries

/-- The accounts that statistics give of the mapped files. -/
structure AccountFor (s : LanguageStatistics) (mappings : List LanguageMapping) (files : List SourceFile) : Prop where
  languages_nodup : (s.languages.map (·.language)).Nodup
  mem_languages_iff : ∀ l, l ∈ s.languages.map (·.language) ↔ l.isKnown = true ∧ ∃ m ∈ mappings, m.language = l
  files_eq : ∀ share ∈ s.languages, share.files = (mappings.filter fun m => m.language = share.language).length
  lines_eq : ∀ share ∈ s.languages, share.lines =
    total ((mappings.filter fun m => m.language = share.language).map fun m => linesOf files m.path)
  ordered : s.languages.Pairwise LanguageShare.Ahead
  totalFiles_eq : s.totalFiles = mappings.length
  unknownFiles_eq : s.unknownFiles = (mappings.filter fun m => m.language = .unknown).length
  files_add_up : total (s.languages.map (·.files)) = s.totalFiles - s.unknownFiles
  lines_add_up : total (s.languages.map (·.lines)) +
    total ((mappings.filter fun m => m.language = .unknown).map fun m => linesOf files m.path) = s.totalLines
  primary_eq : s.primary = s.languages.head?.map (·.language)
  percentage_eq : ∀ share ∈ s.languages,
    share.percentage = Float.ofNat share.files * 100.0 / Float.ofNat (s.totalFiles - s.unknownFiles)
  multiLanguage_iff_percentage : s.multiLanguage = true ↔
    ∃ a ∈ s.languages, ∃ b ∈ s.languages, a.language ≠ b.language ∧ 10.0 ≤ a.percentage ∧ 10.0 ≤ b.percentage
  multiLanguage_iff : mappings.length < 2 ^ 45 → (s.multiLanguage = true ↔
    ∃ a ∈ s.languages, ∃ b ∈ s.languages, a.language ≠ b.language ∧
      s.totalFiles - s.unknownFiles ≤ a.files * 10 ∧ s.totalFiles - s.unknownFiles ≤ b.files * 10)

section Accounts

variable {entries : List (Language × Nat)}

theorem unknown_eq (entries : List (Language × Nat)) :
    (entries.filter fun e => !e.1.isKnown) = entries.filter fun e => e.1 = .unknown := by
  refine List.filter_congr fun e _ => ?_
  cases e.1 <;> rfl

theorem length_known_add (entries : List (Language × Nat)) :
    (known entries).length + (entries.filter fun e => e.1 = .unknown).length = entries.length := by
  rw [← unknown_eq, ← total_map_one, ← total_map_one, ← total_map_one]
  exact total_filter_add (fun _ => 1) (fun e => e.1.isKnown) entries

theorem total_map_languages (g : LanguageShare → Nat) (entries : List (Language × Nat)) :
    total ((ofCounted entries).languages.map g) = total ((present entries).map fun l => g (shareIn entries l)) := by
  have h := (List.mergeSort_perm ((present entries).map (shareIn entries)) precedes).map g
  rw [ofCounted, total_perm h, List.map_map]
  rfl

theorem total_files (entries : List (Language × Nat)) :
    total ((ofCounted entries).languages.map (·.files)) = (known entries).length := by
  rw [total_map_languages, ← total_map_one (known entries), ← total_shares fun _ => 1]
  refine congrArg total (List.map_congr_left fun l _ => ?_)
  rw [total_map_one, shareIn]

theorem total_lines (entries : List (Language × Nat)) :
    total ((ofCounted entries).languages.map (·.lines)) +
      total ((entries.filter fun e => e.1 = .unknown).map (·.2)) = total (entries.map (·.2)) := by
  have hknown : total ((ofCounted entries).languages.map (·.lines)) = total ((known entries).map (·.2)) := by
    rw [total_map_languages, ← total_shares]
    rfl
  rw [hknown, ← unknown_eq]
  exact total_filter_add (·.2) (fun e => e.1.isKnown) entries

/-- The entries under a language are those of the mappings to it. -/
theorem filter_counted (mappings : List LanguageMapping) (files : List SourceFile) (l : Language) :
    ((counted mappings files).filter fun e => e.1 = l) =
      (mappings.filter fun m => m.language = l).map fun m => (m.language, linesOf files m.path) := by
  rw [counted, List.filter_map]
  rfl

/-- A language that is there has files. -/
theorem files_shareIn {l : Language} (hl : l ∈ present entries) :
    0 < (shareIn entries l).files ∧ (shareIn entries l).files ≤ (known entries).length := by
  obtain ⟨hknown, e, he, rfl⟩ := mem_present.mp hl
  have hown : e ∈ (known entries).filter fun e' => e'.1 == e.1 :=
    List.mem_filter.mpr ⟨List.mem_filter.mpr ⟨he, hknown⟩, beq_self_eq_true _⟩
  exact ⟨List.length_pos_of_mem hown, List.length_filter_le _ _⟩

theorem percentage_shareIn {l : Language} (hl : l ∈ present entries) :
    (shareIn entries l).percentage =
      Float.ofNat (shareIn entries l).files * 100.0 / Float.ofNat (known entries).length := by
  obtain ⟨hpos, hle⟩ := files_shareIn hl
  exact if_neg (by omega)

/-- As floating-point numbers the percentages draw the line at a tenth of the files, whichever language. -/
theorem ten_le_percentage_shareIn {l : Language} (hl : l ∈ present entries) (hsmall : entries.length < 2 ^ 45) :
    10.0 ≤ (shareIn entries l).percentage ↔ (known entries).length ≤ (shareIn entries l).files * 10 := by
  obtain ⟨hpos, hle⟩ := files_shareIn hl
  have hfew : (known entries).length ≤ entries.length := List.length_filter_le _ _
  rw [percentage_shareIn hl]
  exact Percentage.ten_le_percentage hpos hle (by omega)

theorem isSignificant_iff (s : LanguageShare) : isSignificant s = true ↔ 10.0 ≤ s.percentage := decide_eq_true_iff

theorem multiLanguage_ofCounted (entries : List (Language × Nat)) :
    (ofCounted entries).multiLanguage = true ↔ ∃ a ∈ (ofCounted entries).languages,
      ∃ b ∈ (ofCounted entries).languages, a.language ≠ b.language ∧ 10.0 ≤ a.percentage ∧ 10.0 ≤ b.percentage := by
  have hnodup : ((ofCounted entries).languages.map (·.language)).Nodup :=
    (perm_languages entries).nodup_iff.mpr (nodup_present entries)
  have hmulti : (ofCounted entries).multiLanguage = true ↔
      1 < (ofCounted entries).languages.countP isSignificant := by
    simp [ofCounted]
  rw [hmulti, one_lt_countP_iff hnodup]
  simp only [isSignificant_iff]

theorem accountFor_ofMappings (mappings : List LanguageMapping) (files : List SourceFile) :
    (ofMappings mappings files).AccountFor mappings files := by
  rw [ofMappings_eq]
  generalize hentries : counted mappings files = entries
  have hfilter : ∀ l, (entries.filter fun e => e.1 = l) =
      (mappings.filter fun m => m.language = l).map fun m => (m.language, linesOf files m.path) := by
    intro l
    rw [← hentries, filter_counted]
  have hlines : ∀ l, total ((entries.filter fun e => e.1 = l).map (·.2)) =
      total ((mappings.filter fun m => m.language = l).map fun m => linesOf files m.path) := by
    intro l
    rw [hfilter, List.map_map]
    rfl
  have hunknown : (ofCounted entries).unknownFiles = (entries.filter fun e => e.1 = .unknown).length := by
    have := length_known_add entries
    simp only [ofCounted]
    omega
  have hknown : (ofCounted entries).totalFiles - (ofCounted entries).unknownFiles = (known entries).length := by
    have := length_known_add entries
    rw [hunknown]
    simp only [ofCounted]
    omega
  have hnodup : ((ofCounted entries).languages.map (·.language)).Nodup :=
    (perm_languages entries).nodup_iff.mpr (nodup_present entries)
  -- One part for each account, in the order in which they stand in the structure.
  refine ⟨hnodup, fun l => ?_, fun s hs => ?_, fun s hs => ?_, ?_, ?_, ?_, ?_, ?_, rfl, fun s hs => ?_,
    multiLanguage_ofCounted entries, fun hsmall => ?_⟩
  · rw [(perm_languages entries).mem_iff, mem_present, ← hentries]
    simp [counted]
  · obtain ⟨l, hl, rfl⟩ := mem_languages.mp hs
    rw [shareIn, filter_known (mem_present.mp hl).1, hfilter, List.length_map]
  · obtain ⟨l, hl, rfl⟩ := mem_languages.mp hs
    rw [shareIn, filter_known (mem_present.mp hl).1]
    exact hlines l
  · refine pairwise_ahead_mergeSort ?_
    rw [map_language_shareIn]
    exact nodup_present entries
  · rw [← hentries]
    simp [ofCounted, counted]
  · rw [hunknown, hfilter, List.length_map]
  · rw [hknown, total_files]
  · rw [← hlines, total_lines]
    rfl
  · obtain ⟨l, hl, rfl⟩ := mem_languages.mp hs
    rw [hknown, percentage_shareIn hl]
  · have hfew : entries.length < 2 ^ 45 := by
      rw [← hentries, counted, List.length_map]
      exact hsmall
    have hten : ∀ s ∈ (ofCounted entries).languages, 10.0 ≤ s.percentage ↔ (known entries).length ≤ s.files * 10 := by
      intro s hs
      obtain ⟨l, hl, rfl⟩ := mem_languages.mp hs
      exact ten_le_percentage_shareIn hl hfew
    rw [hknown, multiLanguage_ofCounted]
    constructor
    · rintro ⟨a, ha, b, hb, hne, hpa, hpb⟩
      exact ⟨a, ha, b, hb, hne, (hten a ha).mp hpa, (hten b hb).mp hpb⟩
    · rintro ⟨a, ha, b, hb, hne, hpa, hpb⟩
      exact ⟨a, ha, b, hb, hne, (hten a ha).mpr hpa, (hten b hb).mpr hpb⟩

end Accounts

section Results

variable {mappings mappings' : List LanguageMapping} {files files' : List SourceFile}

theorem ofMappings_perm (hn : (files.map (·.path)).Nodup) (hm : mappings'.Perm mappings) (hf : files'.Perm files) :
    ofMappings mappings' files' = ofMappings mappings files := by
  have hcounted : (counted mappings' files').Perm (counted mappings files) := by
    simp only [counted, linesOf_perm hn hf]
    exact hm.map _
  rw [ofMappings_eq, ofMappings_eq, ofCounted_perm hcounted]

/-- The lines of all files, if each file has its mapping. -/
theorem totalLines_of_paths (hn : (files.map (·.path)).Nodup)
    (hpaths : (mappings.map (·.path)).Perm (files.map (·.path))) :
    (ofMappings mappings files).totalLines = total (files.map (·.lineCount)) := by
  have hjoin : mappings.map (fun m => linesOf files m.path) = (mappings.map (·.path)).map (linesOf files) := by
    rw [List.map_map]
    rfl
  have hlines : (files.map (·.path)).map (linesOf files) = files.map (·.lineCount) := by
    rw [List.map_map]
    exact List.map_congr_left fun f hf => linesOf_path hn hf
  calc (ofMappings mappings files).totalLines
      = total (mappings.map fun m => linesOf files m.path) := by
        rw [ofMappings_eq, ofCounted, counted, List.map_map]
        rfl
    _ = total (files.map (·.lineCount)) := by rw [hjoin, total_perm (hpaths.map _), hlines]

theorem mergeSort_languages {shares : List LanguageShare} (h : shares.Perm (ofMappings mappings files).languages) :
    shares.mergeSort precedes = (ofMappings mappings files).languages := by
  have hunsorted : shares.Perm ((present (counted mappings files)).map (shareIn (counted mappings files))) := by
    rw [ofMappings_eq] at h
    exact h.trans (List.mergeSort_perm _ _)
  rw [mergeSort_precedes_perm _ hunsorted, ofMappings_eq]
  · rfl
  · rw [map_language_shareIn]
    exact nodup_present _

theorem ten_le_percentage_iff (hsmall : mappings.length < 2 ^ 45) {share : LanguageShare}
    (hs : share ∈ (ofMappings mappings files).languages) :
    10.0 ≤ share.percentage ↔ (ofMappings mappings files).totalFiles - (ofMappings mappings files).unknownFiles ≤
      share.files * 10 := by
  rw [← (accountFor_ofMappings mappings files).files_add_up]
  rw [ofMappings_eq] at hs ⊢
  obtain ⟨l, hl, rfl⟩ := mem_languages.mp hs
  rw [total_files]
  exact ten_le_percentage_shareIn hl (by simpa [counted] using hsmall)

/-- The statistics of files with different paths are their accounts, with the lines that the files have,
in whatever order files, mappings and languages come. A language counts towards several languages just if
its percentage reaches ten. -/
theorem ofMappings_lawful (hn : (files.map (·.path)).Nodup) :
    (ofMappings mappings files).AccountFor mappings files ∧
      (∀ f ∈ files, linesOf files f.path = f.lineCount) ∧
      ((mappings.map (·.path)).Perm (files.map (·.path)) →
        (ofMappings mappings files).totalLines = total (files.map (·.lineCount))) ∧
      (∀ mappings' files', mappings'.Perm mappings → files'.Perm files →
        ofMappings mappings' files' = ofMappings mappings files) ∧
      (∀ shares : List LanguageShare, shares.Perm (ofMappings mappings files).languages →
        shares.mergeSort precedes = (ofMappings mappings files).languages) ∧
      (mappings.length < 2 ^ 45 → ∀ share ∈ (ofMappings mappings files).languages,
        (10.0 ≤ share.percentage ↔
          (ofMappings mappings files).totalFiles - (ofMappings mappings files).unknownFiles ≤ share.files * 10)) := by
  refine ⟨accountFor_ofMappings mappings files, fun f hf => linesOf_path hn hf, totalLines_of_paths hn, ?_, ?_, ?_⟩
  · exact fun mappings' files' hm hf => ofMappings_perm hn hm hf
  · exact fun shares h => mergeSort_languages h
  · exact fun hsmall share hs => ten_le_percentage_iff hsmall hs

/-- Two scripts in one language, one in another and a note. -/
def mixedFiles : List SourceFile :=
  [.loaded "tools/run.py" "main()\n", .loaded "src/app.ts" "start()\nstop()\n", .loaded "NOTES" "later",
    .loaded "src/api.ts" "serve()\n"]

theorem mixedFiles_lawful :
    let mappings := mixedFiles.map LanguageMapping.ofFile
    let s := ofMappings mappings mixedFiles
    (mixedFiles.map (·.path)).Nodup ∧ s.totalLines = 5 ∧ s.unknownFiles = 1 ∧ total (s.languages.map (·.files)) = 3 ∧
      ofMappings mappings.reverse mixedFiles.reverse = s ∧ s.languages.reverse.mergeSort precedes = s.languages ∧
      s.multiLanguage = true ∧ ∀ share ∈ s.languages, 10.0 ≤ share.percentage := by
  intro mappings s
  have hn : (mixedFiles.map (·.path)).Nodup := by decide
  have hmappings : mappings.map (·.path) = mixedFiles.map (·.path) := by rfl
  have hlanguages : mappings.map (·.language) = [.python, .typescript, .unknown, .typescript] := by rfl
  have hlanguages : ∀ l : Language, (mappings.filter fun m => m.language = l).length =
      [.python, .typescript, .unknown, .typescript].countP (· = l) := by
    intro l
    rw [← List.countP_eq_length_filter]
    rfl
  obtain ⟨haccount, -, hlines, hperm, hsorted, hpercentage⟩ := @ofMappings_lawful mappings mixedFiles hn
  have hunknown : s.unknownFiles = 1 := haccount.unknownFiles_eq.trans (hlanguages .unknown)
  have hknown : s.totalFiles - s.unknownFiles = 3 := by
    rw [hunknown, haccount.totalFiles_eq]
    rfl
  have hpresent : ∀ share ∈ s.languages, 3 ≤ share.files * 10 := by
    intro share hs
    obtain ⟨-, m, hm, hlanguage⟩ := (haccount.mem_languages_iff _).mp (List.mem_map_of_mem hs)
    have hpos : 0 < share.files := by
      rw [haccount.files_eq share hs]
      exact List.length_pos_of_mem (List.mem_filter.mpr ⟨hm, decide_eq_true hlanguage⟩)
    omega
  have hlisted : ∀ l : Language, l.isKnown = true → (∃ m ∈ mappings, m.language = l) →
      ∃ share ∈ s.languages, share.language = l :=
    fun l hl hm => List.mem_map.mp ((haccount.mem_languages_iff l).mpr ⟨hl, hm⟩)
  obtain ⟨python, hpython, hpythonName⟩ := hlisted .python rfl ⟨_, List.mem_cons_self, rfl⟩
  obtain ⟨script, hscript, hscriptName⟩ := hlisted .typescript rfl ⟨_, List.mem_cons_of_mem _ List.mem_cons_self, rfl⟩
  refine ⟨hn, hlines (by rw [hmappings]), hunknown, haccount.files_add_up.trans hknown, ?_, ?_, ?_, ?_⟩
  · exact hperm _ _ (List.reverse_perm _) (List.reverse_perm _)
  · exact hsorted _ (List.reverse_perm _)
  · refine (haccount.multiLanguage_iff (by decide)).mpr ⟨python, hpython, script, hscript, ?_, ?_, ?_⟩
    · rw [hpythonName, hscriptName]
      decide
    · exact hknown ▸ hpresent python hpython
    · exact hknown ▸ hpresent script hscript
  · intro share hs
    exact (hpercentage (by decide) share hs).mpr (hknown ▸ hpresent share hs)

end Results

end LanguageStatistics
end CodeAudit
