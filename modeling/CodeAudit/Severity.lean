import CodeAudit.Text.Case

/-!
How bad a finding is, from `info` to `critical`.
-/
namespace CodeAudit

inductive Severity where
  | info
  | low
  | medium
  | high
  | critical
deriving DecidableEq, Repr, Inhabited

namespace Severity

/-- From the worst down. -/
def all : List Severity := [critical, high, medium, low, info]

def name : Severity → String
  | critical => "CRITICAL"
  | high => "HIGH"
  | medium => "MEDIUM"
  | low => "LOW"
  | info => "INFO"

def rank : Severity → Nat
  | info => 0
  | low => 1
  | medium => 2
  | high => 3
  | critical => 4

instance : LE Severity := ⟨fun a b => a.rank ≤ b.rank⟩

instance : DecidableLE Severity := fun a b => inferInstanceAs (Decidable (a.rank ≤ b.rank))

def ofName? (s : String) : Option Severity := all.find? fun v => v.name == s

/-- Reads a name in any case; `error` and `warning` are high and medium. -/
def parse (s : String) : Except String Severity :=
  let upper := Text.upperCase s
  match (ofName? upper).or ([("ERROR", high), ("WARNING", medium)].lookup upper) with
  | some v => .ok v
  | none => .error s!"unknown severity: {upper}"

/-- The severities that are at least `v`, from the worst down. -/
def atLeast (v : Severity) : List Severity := all.filter fun w => v ≤ w

end Severity
end CodeAudit
