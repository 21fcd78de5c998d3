import CodeAudit.Audit.Stage
import CodeAudit.Finding.Basic

/-!
Where results and progress are kept. A result replaces the one with the same id, a progress record
the one of the same run and stage. A sink may refuse what it is given.
-/
namespace CodeAudit

structure ResultStore where
  results : List NormalizedResult := []
  progress : List StageProgress := []

namespace ResultStore

/-- Replaces the result with the same id, or adds one behind all others. -/
def upsert (results : List NormalizedResult) (r : NormalizedResult) : List NormalizedResult :=
  match results with
  | [] => [r]
  | s :: rest => if s.id = r.id then r :: rest else s :: upsert rest r

def write (s : ResultStore) (rs : List NormalizedResult) : ResultStore :=
  { s with results := rs.foldl upsert s.results }

def upsertProgress (s : ResultStore) (p : StageProgress) : ResultStore :=
  { s with progress := p :: s.progress.filter fun q => !(q.execution == p.execution && q.stage == p.stage) }

def progress? (s : ResultStore) (execution : String) (stage : Stage) : Option StageProgress :=
  s.progress.find? fun q => q.execution == execution && q.stage == stage

end ResultStore

/-- A store that may refuse records, with a reason. -/
structure Sink where
  store : ResultStore := {}
  refuseResults : List NormalizedResult → Option String := fun _ => none
  refuseProgress : StageProgress → Option String := fun _ => none

namespace Sink

def write (s : Sink) (rs : List NormalizedResult) : Except String Sink :=
  match s.refuseResults rs with
  | some why => .error why
  | none => .ok { s with store := s.store.write rs }

def upsertProgress (s : Sink) (p : StageProgress) : Except String Sink :=
  match s.refuseProgress p with
  | some why => .error why
  | none => .ok { s with store := s.store.upsertProgress p }

end Sink
end CodeAudit
