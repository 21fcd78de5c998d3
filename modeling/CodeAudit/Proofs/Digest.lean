import CodeAudit.Finding.Basic
import CodeAudit.Grammar.Parser
import CodeAudit.Graph.Basic
import CodeAudit.Outline.File
import Mathlib.Data.List.Basic

/-! Fingerprints of several texts. The bytes that are digested tell any two lists of texts without zero characters
apart, wherever one text ends and the next begins. So the hashes of contents and signatures do, but for collisions of
the digest; ids of findings keep eight bytes of it and rest on these alone. -/
namespace CodeAudit

namespace Digest

variable {xs ys : List String} {s t : String}

/-- No text holds the zero character, whose byte ends each text in a message. -/
def NulFree (parts : List String) : Prop := ∀ p ∈ parts, '\x00' ∉ p.toList

instance (parts : List String) : Decidable (NulFree parts) :=
  inferInstanceAs (Decidable (∀ p ∈ parts, '\x00' ∉ p.toList))

theorem utf8_inj : utf8 s = utf8 t ↔ s = t := by
  rw [← String.toByteArray_inj, ← String.utf8Encode_toList, ← String.utf8Encode_toList, List.utf8Encode,
    List.utf8Encode, List.toByteArray_inj]
  rfl

/-- Characters beyond the first 128 take bytes from 128 on. -/
theorem eq_nul_of_zero_mem {c : Char} (h : 0 ∈ String.utf8EncodeChar c) : c = '\x00' := by
  have hbyte (n : Nat) (hn : 0 = UInt8.ofNat n) : n % 256 = 0 := (congrArg UInt8.toNat hn).symm
  unfold String.utf8EncodeChar at h
  simp only at h
  split at h
  case isTrue hone =>
    have hzero := hbyte _ (List.mem_singleton.mp h)
    refine Char.toNat_inj.mp (?_ : c.val.toNat = 0)
    omega
  case isFalse =>
    exfalso
    split at h
    case isTrue =>
      simp only [List.mem_cons, List.not_mem_nil, or_false] at h
      rcases h with h | h <;> have := hbyte _ h <;> omega
    case isFalse =>
      split at h <;> simp only [List.mem_cons, List.not_mem_nil, or_false] at h
      · rcases h with h | h | h <;> have := hbyte _ h <;> omega
      · rcases h with h | h | h | h <;> have := hbyte _ h <;> omega

theorem zero_notMem_utf8 (h : '\x00' ∉ s.toList) : 0 ∉ utf8 s := by
  intro hmem
  obtain ⟨c, hc, hzero⟩ := List.mem_flatMap.mp hmem
  exact h (eq_nul_of_zero_mem hzero ▸ hc)

/-- A text ends where the first zero stands. -/
theorem append_zero_inj {a b rest rest' : List UInt8} (ha : 0 ∉ a) (hb : 0 ∉ b)
    (h : a ++ 0 :: rest = b ++ 0 :: rest') : a = b ∧ rest = rest' := by
  have hlength : a.length = b.length := by
    have hfirst := congrArg (List.idxOf 0) h
    rwa [List.idxOf_append_of_notMem ha, List.idxOf_append_of_notMem hb, List.idxOf_cons_self,
      List.idxOf_cons_self] at hfirst
  obtain ⟨hab, hrest⟩ := List.append_inj h hlength
  exact ⟨hab, List.tail_eq_of_cons_eq hrest⟩

theorem message_cons (s : String) (rest : List String) : message (s :: rest) = utf8 s ++ 0 :: message rest := by
  simp [message]

theorem message_inj (hxs : NulFree xs) (hys : NulFree ys) : message xs = message ys ↔ xs = ys := by
  refine ⟨fun h => ?_, congrArg message⟩
  induction xs generalizing ys with
  | nil =>
    cases ys with
    | nil => rfl
    | cons y ys => simp [message] at h
  | cons x xs ih =>
    cases ys with
    | nil => simp [message] at h
    | cons y ys =>
      obtain ⟨hx, hxs⟩ := List.forall_mem_cons.mp hxs
      obtain ⟨hy, hys⟩ := List.forall_mem_cons.mp hys
      rw [message_cons, message_cons] at h
      obtain ⟨hfirst, hrest⟩ := append_zero_inj (zero_notMem_utf8 hx) (zero_notMem_utf8 hy) h
      rw [utf8_inj.mp hfirst, ih hxs hys hrest]

theorem hexChar_inj : ∀ m n : Fin 16, hexChar m = hexChar n → m = n := by decide

theorem hexOfBytes_inj {a b : List UInt8} : hexOfBytes a = hexOfBytes b ↔ a = b := by
  refine ⟨fun h => ?_, congrArg hexOfBytes⟩
  have hdigits := String.ofList_inj.mp h
  clear h
  induction a generalizing b with
  | nil =>
    cases b with
    | nil => rfl
    | cons y b => simp at hdigits
  | cons x a ih =>
    cases b with
    | nil => simp at hdigits
    | cons y b =>
      simp only [List.flatMap_cons, List.cons_append, List.nil_append, List.cons.injEq] at hdigits
      obtain ⟨hhigh, hlow, hrest⟩ := hdigits
      have hx := x.toNat_lt
      have hy := y.toNat_lt
      have hdiv := hexChar_inj ⟨x.toNat / 16, by omega⟩ ⟨y.toNat / 16, by omega⟩ hhigh
      have hmod := hexChar_inj ⟨x.toNat % 16, by omega⟩ ⟨y.toNat % 16, by omega⟩ hlow
      rw [Fin.mk.injEq] at hdiv hmod
      have hxy : x = y := UInt8.toNat_inj.mp (by omega)
      rw [hxy, ih hrest]

/-- Each byte has two digits. -/
theorem take_hexOfBytes (bytes : List UInt8) (n : Nat) :
    (hexOfBytes bytes).toList.take (2 * n) = (hexOfBytes (bytes.take n)).toList := by
  simp only [hexOfBytes, String.toList_ofList]
  induction bytes generalizing n with
  | nil => simp
  | cons x bytes ih =>
    cases n with
    | zero => simp
    | succ n => simp [Nat.mul_succ, ih]

theorem short_eq (parts : List String) : short parts = hexOfBytes ((hashBytes (message parts)).take 8) := by
  rw [short, ofParts, take_hexOfBytes _ 8, String.ofList_toList]

/-- Different messages with one digest. -/
def Collide (m n : List UInt8) : Prop := m ≠ n ∧ hashBytes m = hashBytes n

/-- Different messages whose digests begin with the same eight bytes. -/
def CollideEarly (m n : List UInt8) : Prop := m ≠ n ∧ (hashBytes m).take 8 = (hashBytes n).take 8

/-- Anything made from messages tells lists apart but for messages of which it makes the same. -/
theorem eq_iff_of_made {α : Type} (make : List UInt8 → α) (hxs : NulFree xs) (hys : NulFree ys) :
    make (message xs) = make (message ys) ↔
      xs = ys ∨ message xs ≠ message ys ∧ make (message xs) = make (message ys) := by
  by_cases h : xs = ys
  · simp [h]
  · simp [h, message_inj hxs hys]

theorem ofParts_eq_iff (hxs : NulFree xs) (hys : NulFree ys) :
    ofParts xs = ofParts ys ↔ xs = ys ∨ Collide (message xs) (message ys) := by
  rw [ofParts, ofParts, hexOfBytes_inj]
  exact eq_iff_of_made hashBytes hxs hys

theorem short_eq_iff (hxs : NulFree xs) (hys : NulFree ys) :
    short xs = short ys ↔ xs = ys ∨ CollideEarly (message xs) (message ys) := by
  rw [short_eq, short_eq, hexOfBytes_inj]
  exact eq_iff_of_made (fun m => (hashBytes m).take 8) hxs hys

end Digest

theorem AstFile.contentHash_ofContent (parser : Syntax.SyntaxParser) (path content : String) (l : Language) :
    (ofContent parser path content l).contentHash = Digest.ofContent content := by
  unfold ofContent
  split
  · rfl
  · simp only
    split <;> rfl

/-- The texts that the id of a finding is made from. -/
def Finding.idParts (kind : FindingKind) (message : String) (location : Location) : List String :=
  [kind.name, location.file, toString location.startLine, message]

namespace Digest

variable {xs ys : List String} {h h' : String}

/-- Hashes that trees and entities keep, with the texts they are made from. -/
inductive HashOf : String → List String → Prop where
  | content (parser : Syntax.SyntaxParser) (path content : String) (l : Language) :
      HashOf (AstFile.ofContent parser path content l).contentHash [content]
  | signature (id qualifiedName : String) (kind : EntityKind) (l : Language) (n : AstNode) :
      HashOf (Entity.ofNode id kind qualifiedName l n).contentHash (Entity.signatureParts kind n)
  | specifier (specifier : String) : HashOf (Entity.ofSpecifier specifier).contentHash ["external", specifier]

/-- Ids that findings keep, with the texts they are made from. -/
inductive IdOf : String → List String → Prop where
  | finding (kind : FindingKind) (message : String) (severity : Severity) (location : Location) :
      IdOf (Finding.new kind message severity location).id (Finding.idParts kind message location)

theorem HashOf.eq_ofParts (hash : HashOf h xs) : h = ofParts xs := by
  cases hash with
  | content parser path content l => exact AstFile.contentHash_ofContent parser path content l
  | signature | specifier => rfl

theorem IdOf.eq_short (hid : IdOf h xs) : h = short xs := by
  cases hid
  rfl

/-- The message of a list of texts without zero characters tells it from any other. Hashes of contents and signatures
do so unless two messages have one digest, ids of findings unless two digests begin with the same eight bytes. -/
theorem hashes_tell_parts_apart (hxs : NulFree xs) (hys : NulFree ys) :
    (message xs = message ys ↔ xs = ys) ∧
      (ofParts xs = ofParts ys ↔ xs = ys ∨ Collide (message xs) (message ys)) ∧
      (short xs = short ys ↔ xs = ys ∨ CollideEarly (message xs) (message ys)) ∧
      (∀ h h', HashOf h xs → HashOf h' ys → (h = h' ↔ xs = ys ∨ Collide (message xs) (message ys))) ∧
      (∀ h h', IdOf h xs → IdOf h' ys → (h = h' ↔ xs = ys ∨ CollideEarly (message xs) (message ys))) := by
  have hfull := ofParts_eq_iff hxs hys
  have hshort := short_eq_iff hxs hys
  refine ⟨message_inj hxs hys, hfull, hshort, ?_, ?_⟩
  · intro h h' hh hh'
    rw [hh.eq_ofParts, hh'.eq_ofParts]
    exact hfull
  · intro h h' hh hh'
    rw [hh.eq_short, hh'.eq_short]
    exact hshort

/-- The place of a function that takes one line. -/
def handler (line : Nat) : Location := ⟨"packages/storefront/src/checkout/handlers.ts", line, 1, line, 32⟩

def firstUnused : String := "Function 'f3be960b9e22a212e' is never called"

def secondUnused : String := "Function 'f2815a987bfb53b87' is never called"

/-- Two digests that begin with the same eight bytes and go on differently. -/
theorem digests_of_unused :
    hashBytes (message (Finding.idParts .deadCode firstUnused (handler 1))) =
        [0x82, 0xfd, 0xa1, 0x75, 0xcd, 0x07, 0xcf, 0x16, 0xaa, 0xe6, 0x59, 0x37, 0x9e, 0x51, 0x4f, 0xc5,
          0x9f, 0xcc, 0xc0, 0xd0, 0xd2, 0xfe, 0xdd, 0xc8, 0x5e, 0x6b, 0x67, 0xc4, 0xf6, 0x2f, 0xe8, 0xef] ∧
      hashBytes (message (Finding.idParts .deadCode secondUnused (handler 2))) =
        [0x82, 0xfd, 0xa1, 0x75, 0xcd, 0x07, 0xcf, 0x16, 0xab, 0x42, 0x52, 0xac, 0xbd, 0xca, 0x64, 0x1a,
          0xe3, 0xb0, 0x11, 0x0e, 0x59, 0x41, 0x2c, 0x24, 0xfa, 0xd8, 0xa7, 0xec, 0xf6, 0xd0, 0x54, 0x19] := by
  decide +kernel

theorem nulFree_unused : NulFree (Finding.idParts .deadCode firstUnused (handler 1)) ∧
    NulFree (Finding.idParts .deadCode secondUnused (handler 2)) := by
  decide

theorem unused_ids_eq : (Finding.new .deadCode firstUnused .low (handler 1)).id =
    (Finding.new .deadCode secondUnused .low (handler 2)).id := by
  obtain ⟨hfirst, hsecond⟩ := digests_of_unused
  rw [(IdOf.finding .deadCode firstUnused .low (handler 1)).eq_short,
    (IdOf.finding .deadCode secondUnused .low (handler 2)).eq_short, short_eq, short_eq, hfirst, hsecond]
  rfl

/-- An empty file is told from an empty import, though the one list of texts is the end of the other; and where two
findings share an id, their digests begin alike. -/
theorem empty_file_told_from_import :
    NulFree [""] ∧ NulFree ["external", ""] ∧ message [""] ≠ message ["external", ""] ∧
      (AstFile.ofContent Grammar.parser "index.ts" "" .typescript).contentHash ≠
        (Entity.ofSpecifier "").contentHash ∧
      NulFree (Finding.idParts .deadCode firstUnused (handler 1)) ∧
      NulFree (Finding.idParts .deadCode secondUnused (handler 2)) ∧
      CollideEarly (message (Finding.idParts .deadCode firstUnused (handler 1)))
        (message (Finding.idParts .deadCode secondUnused (handler 2))) := by
  have hfile : NulFree [""] := by decide
  have himport : NulFree ["external", ""] := by decide
  obtain ⟨hmessage, -, -, hhash, -⟩ := hashes_tell_parts_apart hfile himport
  have hne : hashBytes (message [""]) ≠ hashBytes (message ["external", ""]) := by decide +kernel
  have hhashes : (AstFile.ofContent Grammar.parser "index.ts" "" .typescript).contentHash ≠
      (Entity.ofSpecifier "").contentHash := by
    rw [ne_eq, hhash _ _ (.content Grammar.parser "index.ts" "" .typescript) (.specifier "")]
    rintro (heq | hcollide)
    · exact absurd heq (by decide)
    · exact hne hcollide.2
  obtain ⟨hfirst, hsecond⟩ := nulFree_unused
  obtain ⟨-, -, -, -, hid⟩ := hashes_tell_parts_apart hfirst hsecond
  have hcollide := (hid _ _ (.finding .deadCode firstUnused .low (handler 1))
    (.finding .deadCode secondUnused .low (handler 2))).mp unused_ids_eq
  exact ⟨hfile, himport, hmessage.not.mpr (by decide), hhashes, hfirst, hsecond, hcollide.resolve_left (by decide)⟩

/-- Findings on two functions of one file that are never called, with different digests and one id. -/
theorem unused_functions_share_id :
    let xs := Finding.idParts .deadCode firstUnused (handler 1)
    let ys := Finding.idParts .deadCode secondUnused (handler 2)
    NulFree xs ∧ NulFree ys ∧ xs ≠ ys ∧ hashBytes (message xs) ≠ hashBytes (message ys) ∧
      (Finding.new .deadCode firstUnused .low (handler 1)).id =
        (Finding.new .deadCode secondUnused .low (handler 2)).id := by
  intro xs ys
  have hne : hashBytes (message xs) ≠ hashBytes (message ys) := by
    rw [digests_of_unused.1, digests_of_unused.2]
    decide
  exact ⟨nulFree_unused.1, nulFree_unused.2, by decide, hne, unused_ids_eq⟩

end Digest

end CodeAudit
