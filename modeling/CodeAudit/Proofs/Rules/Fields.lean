import CodeAudit.Proofs.Rules.TestNames
import CodeAudit.Rules.Condition

/-! What conditions see of the facts attached to a node. A dotted path is read as the value that its keys lead
to through nested tables, unless its last key makes it the name of a length. -/
namespace CodeAudit

namespace MetaValue

variable {v : MetaValue} {w : FieldValue}

/-- How a value is read: flags, texts and lists as they are, and numbers in floating point, an integer as the number
that is nearest to it. -/
inductive ReadsAs : MetaValue → FieldValue → Prop
  | flag (b : Bool) : ReadsAs (.flag b) (.bool b)
  | int (n : Int) : ReadsAs (.int n) (.number (Float.ofInt n))
  | float (x : Float) : ReadsAs (.float x) (.number x)
  | text (s : String) : ReadsAs (.text s) (.text s)
  | texts (items : List String) : ReadsAs (.texts items) (.list items)

theorem readsAs_iff : v.ReadsAs w ↔ FieldValue.ofMeta? v = some w := by
  constructor
  · intro h
    cases h <;> rfl
  · intro h
    cases v with
    | table fields => cases h
    | _ =>
      cases h
      constructor

/-- What is read as the length of a fact: the number of items of a list or of characters of a text. Nothing else has
one. -/
def lengthRead? : Option MetaValue → Option FieldValue
  | some (.texts items) => some (.number (Float.ofNat items.length))
  | some (.text s) => some (.number (Float.ofNat s.length))
  | _ => none

theorem lengthRead?_eq (fact : Option MetaValue) :
    lengthRead? fact = (fact.bind FieldValue.ofMeta?).bind FieldValue.length? := by
  cases fact with
  | none => rfl
  | some v => cases v <;> rfl

end MetaValue

namespace Metadata

variable {m : Metadata} {k : String} {keys : List String} {v : MetaValue}

/-- Keys lead to a value, each but the last one to a table in which the next is found. -/
inductive Leads : Metadata → List String → MetaValue → Prop where
  | key {m : Metadata} {k : String} {v : MetaValue} (h : m.get? k = some v) : Leads m [k] v
  | inside {m fields : Metadata} {k : String} {keys : List String} {v : MetaValue}
      (h : m.get? k = some (.table fields)) (hrest : Leads fields keys v) : Leads m (k :: keys) v

theorem Leads.ne_nil (h : m.Leads keys v) : keys ≠ [] := by
  cases h <;> exact List.cons_ne_nil _ _

theorem walk?_inside {fields : Metadata} (h : m.get? k = some (.table fields)) (hne : keys ≠ []) :
    m.walk? (k :: keys) = fields.walk? keys := by
  rw [walk?, h]
  exact hne

theorem leads_iff : m.Leads keys v ↔ m.walk? keys = some v := by
  constructor
  · intro h
    induction h with
    | key h => exact h
    | inside h hrest ih => rw [walk?_inside h hrest.ne_nil, ih]
  · intro h
    induction keys generalizing m with
    | nil => cases h
    | cons k rest ih =>
      cases rest with
      | nil => exact .key h
      | cons k' rest =>
        rw [walk?.eq_def] at h
        simp only at h
        split at h
        case h_1 fields hk => exact .inside hk (ih h)
        case h_2 => cases h

/-- In front of the last key there is a table. -/
theorem Leads.front (h : m.Leads (keys ++ [k]) v) (hne : keys ≠ []) : ∃ fields, m.Leads keys (.table fields) := by
  induction keys generalizing m with
  | nil => exact absurd rfl hne
  | cons k' rest ih =>
    cases rest with
    | nil =>
      cases h with
      | inside hk _ => exact ⟨_, .key hk⟩
    | cons k'' rest =>
      cases h with
      | inside hk hrest =>
        obtain ⟨fields, hfields⟩ := ih hrest (List.cons_ne_nil k'' rest)
        exact ⟨fields, .inside hk hfields⟩

end Metadata

namespace AstNode

variable {n : AstNode} {field : String} {keys : List String} {k : String}

theorem field?_of_not_length (h : ¬ Text.endsWith field lengthMark) : n.field? field = n.plainField? field := by
  rw [field?, Text.beforeTail?_eq_none h]

/-- The length of a length is missing. -/
theorem length?_length? (w : Option FieldValue) : (w.bind FieldValue.length?).bind FieldValue.length? = none := by
  cases w with
  | none => rfl
  | some w => cases w <;> rfl

/-- The name of a length is read as the field in front of it is, however many lengths that ends in. -/
theorem field?_length (n : AstNode) (field : String) :
    n.field? (field ++ lengthMark) = (n.field? field).bind FieldValue.length? := by
  rw [field?, Text.beforeTail?_append]
  by_cases h : Text.endsWith field lengthMark
  · obtain ⟨front, rfl⟩ := Text.endsWith_iff.mp h
    have hbase : ∃ w : Option FieldValue, n.field? (front ++ lengthMark) = w.bind FieldValue.length? := by
      rw [field?, Text.beforeTail?_append]
      by_cases hfront : Text.endsWith front lengthMark
      · exact ⟨none, by simp [hfront]⟩
      · exact ⟨n.plainField? front, by simp [hfront]⟩
    obtain ⟨w, hw⟩ := hbase
    rw [hw, length?_length?]
    exact if_pos h
  · simp [h, field?_of_not_length h]

/-- The field of a path of facts. -/
def metadataField (keys : List String) : String := "metadata." ++ Text.join "." keys

/-- A path of facts is none of the names that a node has fields of its own for. -/
theorem plainField?_metadata (n : AstNode) (path : String) :
    n.plainField? ("metadata." ++ path) = (n.metadata.path? path).bind FieldValue.ofMeta? := by
  have hother : ∀ name : String, name.toList.head? ≠ some 'm' → "metadata." ++ path ≠ name := by
    rintro name hname rfl
    simp at hname
  unfold plainField?
  split
  -- The last case is that of a field without a name of its own.
  case h_13 => rw [Text.afterHead?_append]
  all_goals exact absurd ‹"metadata." ++ path = _› (hother _ (by decide))

theorem plainField?_metadataField (hdots : ∀ k ∈ keys, '.' ∉ k.toList) (hne : keys ≠ []) :
    n.plainField? (metadataField keys) = (n.metadata.walk? keys).bind FieldValue.ofMeta? := by
  have hkeys : Text.splitOn (Text.join "." keys) '.' = keys := Text.splitOn_join hne hdots
  rw [metadataField, plainField?_metadata, Metadata.path?, hkeys]

theorem metadataField_singleton (k : String) : metadataField [k] = "metadata" ++ "." ++ k := by
  rw [metadataField, Text.join, String.intercalate_singleton]
  rfl

theorem metadataField_concat (hne : keys ≠ []) (k : String) :
    metadataField (keys ++ [k]) = metadataField keys ++ "." ++ k := by
  rw [metadataField, metadataField, Text.join_concat hne]
  simp only [String.append_assoc]

/-- A path of facts is the name of a length if its last key is the one for it. -/
theorem endsWith_metadataField (hdots : ∀ k ∈ keys, '.' ∉ k.toList) (hne : keys ≠ []) :
    Text.endsWith (metadataField keys) lengthMark ↔ keys.getLast? = some "length" := by
  obtain ⟨front, k, rfl⟩ := (List.eq_nil_or_concat' keys).resolve_left hne
  obtain ⟨base, hbase⟩ : ∃ base, metadataField (front ++ [k]) = base ++ "." ++ k := by
    cases front with
    | nil => exact ⟨_, metadataField_singleton k⟩
    | cons k' front => exact ⟨_, metadataField_concat (List.cons_ne_nil k' front) k⟩
  have hmark : lengthMark = "" ++ "." ++ "length" := rfl
  rw [hbase, hmark, Text.endsWith_dotted (hdots k (by simp)) (by decide), Text.endsWith_iff]
  simp

theorem field?_metadataField (hdots : ∀ k ∈ keys, '.' ∉ k.toList) (hne : keys ≠ [])
    (hlast : keys.getLast? ≠ some "length") :
    n.field? (metadataField keys) = (n.metadata.walk? keys).bind FieldValue.ofMeta? := by
  rw [field?_of_not_length (mt (endsWith_metadataField hdots hne).mp hlast), plainField?_metadataField hdots hne]

/-- No length is read behind keys that lead to a table. -/
theorem field?_length_of_table {fields : Metadata} (hdots : ∀ k ∈ keys, '.' ∉ k.toList)
    (htable : n.metadata.Leads keys (.table fields)) : n.field? (metadataField (keys ++ ["length"])) = none := by
  have hspelled : metadataField (keys ++ ["length"]) = metadataField keys ++ lengthMark := by
    rw [metadataField_concat htable.ne_nil, String.append_assoc]
    rfl
  rw [hspelled, field?_length]
  by_cases hlast : keys.getLast? = some "length"
  · obtain ⟨base, hbase⟩ := Text.endsWith_iff.mp ((endsWith_metadataField hdots htable.ne_nil).mpr hlast)
    rw [hbase, field?_length, length?_length?]
  · rw [field?_metadataField hdots htable.ne_nil hlast, Metadata.leads_iff.mp htable]
    rfl

/-- A value that is no table is read as what it is under the path of its keys, and conditions see it there. If the
last key is `length`, the path is instead the name of a length: of the node's own fact `metadata` for this key alone,
and of a table, which has none, behind other keys. -/
theorem metadata_paths_readable (n : AstNode) {keys : List String} {v : MetaValue}
    (hdots : ∀ k ∈ keys, '.' ∉ k.toList) (hleads : n.metadata.Leads keys v) (hvalue : ∀ fields, v ≠ .table fields) :
    ∃ w, v.ReadsAs w ∧
      (keys.getLast? ≠ some "length" → n.field? (metadataField keys) = some w ∧
        ∀ op, (Condition.mk (metadataField keys) op).holds n = op.holdsOf w) ∧
      (keys = ["length"] → n.field? (metadataField keys) = MetaValue.lengthRead? (n.meta? "metadata")) ∧
      (keys.getLast? = some "length" → 1 < keys.length → n.field? (metadataField keys) = none) := by
  obtain ⟨w, hw⟩ : ∃ w, FieldValue.ofMeta? v = some w := by
    cases v with
    | table fields => exact absurd rfl (hvalue fields)
    | _ => exact ⟨_, rfl⟩
  refine ⟨w, MetaValue.readsAs_iff.mpr hw, fun hlast => ?_, ?_, fun hlast hlength => ?_⟩
  · have hfield : n.field? (metadataField keys) = some w := by
      rw [field?_metadataField hdots hleads.ne_nil hlast, Metadata.leads_iff.mp hleads, Option.bind_some, hw]
    refine ⟨hfield, fun op => ?_⟩
    rw [Condition.holds, hfield, Operator.holds]
  · rintro rfl
    have hspelled : metadataField ["length"] = "metadata" ++ lengthMark := by decide
    rw [hspelled, field?_length, field?_of_not_length (by decide), MetaValue.lengthRead?_eq]
    rfl
  · obtain ⟨front, rfl⟩ : ∃ front, keys = front ++ ["length"] := List.getLast?_eq_some_iff.mp hlast
    have hfront : front ≠ [] := by
      rintro rfl
      simp at hlength
    obtain ⟨fields, htable⟩ := hleads.front hfront
    exact field?_length_of_table (fun k hk => hdots k (List.mem_append_left _ hk)) htable

/-- A function with its size as a table of facts. -/
def measured : AstNode where
  kind := .function
  location := { file := "src/load.ts", startLine := 1, startColumn := 1, endLine := 3, endColumn := 2 }
  metadata := .ofList [("metadata", .texts ["size", "length"]), ("length", .flag true),
    ("size", .table [("bytes", .int 9007199254740993), ("isLong", .flag true), ("length", .int 3),
      ("parts", .texts ["head", "body"]), ("unit", .table [("name", .text "line")]), ("weight", .float 0.5)])]

/-- Texts, flags and lists are read as they are, and an integer of 54 bits is rounded. -/
theorem measured_unit_is_read :
    measured.field? "metadata.size.unit.name" = some (.text "line") ∧
      (Condition.mk "metadata.size.unit.name" (.startsWith "li")).holds measured = true ∧
      measured.field? "metadata.size.bytes" = some (.number 9007199254740992.0) ∧
      measured.field? "metadata.size.isLong" = some (.bool true) ∧
      measured.field? "metadata.size.parts" = some (.list ["head", "body"]) ∧
      measured.field? "metadata.size.weight" = some (.number 0.5) ∧
      measured.field? "metadata.length" = some (.number (Float.ofNat 2)) ∧
      measured.field? "metadata.size.length" = none := by
  have hunit : measured.metadata.Leads ["size", "unit", "name"] (.text "line") := .inside rfl (.inside rfl (.key rfl))
  have hbytes : measured.metadata.Leads ["size", "bytes"] (.int 9007199254740993) := .inside rfl (.key rfl)
  have hlong : measured.metadata.Leads ["size", "isLong"] (.flag true) := .inside rfl (.key rfl)
  have hparts : measured.metadata.Leads ["size", "parts"] (.texts ["head", "body"]) := .inside rfl (.key rfl)
  have hweight : measured.metadata.Leads ["size", "weight"] (.float 0.5) := .inside rfl (.key rfl)
  have hflag : measured.metadata.Leads ["length"] (.flag true) := .key rfl
  have hlength : measured.metadata.Leads ["size", "length"] (.int 3) := .inside rfl (.key rfl)
  obtain ⟨_, ⟨⟩, hread, -⟩ := metadata_paths_readable measured (by decide) hunit (by simp)
  obtain ⟨_, ⟨⟩, hbytesRead, -⟩ := metadata_paths_readable measured (by decide) hbytes (by simp)
  obtain ⟨_, ⟨⟩, hlongRead, -⟩ := metadata_paths_readable measured (by decide) hlong (by simp)
  obtain ⟨_, ⟨⟩, hpartsRead, -⟩ := metadata_paths_readable measured (by decide) hparts (by simp)
  obtain ⟨_, ⟨⟩, hweightRead, -⟩ := metadata_paths_readable measured (by decide) hweight (by simp)
  obtain ⟨-, -, -, hown, -⟩ := metadata_paths_readable measured (by decide) hflag (by simp)
  obtain ⟨-, -, -, -, hmissing⟩ := metadata_paths_readable measured (by decide) hlength (by simp)
  obtain ⟨hfield, hholds⟩ := hread (by decide)
  exact ⟨hfield, (hholds _).trans (by decide), (hbytesRead (by decide)).1, (hlongRead (by decide)).1,
    (hpartsRead (by decide)).1, (hweightRead (by decide)).1, hown rfl, hmissing rfl (by decide)⟩

/-- The length that the table holds is there, yet no field; a condition finds it missing. -/
theorem measured_length_is_unread :
    measured.metadata.Leads ["size", "length"] (.int 3) ∧
      (∀ k ∈ ["size", "length"], k ≠ "" ∧ '.' ∉ k.toList) ∧
      metadataField ["size", "length"] = "metadata.size.length" ∧
      MetaValue.ReadsAs (.int 3) (.number (Float.ofInt 3)) ∧
      measured.field? "metadata.size.length" = none ∧
      (Condition.mk "metadata.size.length" .exists).holds measured = false := by
  have hfield : measured.field? "metadata.size.length" = none := by
    have hfront : measured.metadata.Leads ["size"] (.table _) := .key rfl
    exact field?_length_of_table (by decide) hfront
  refine ⟨.inside rfl (.key rfl), by decide, by decide, .int 3, hfield, ?_⟩
  rw [Condition.holds, hfield]
  rfl

end AstNode
end CodeAudit
