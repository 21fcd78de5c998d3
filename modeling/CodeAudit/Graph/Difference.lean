import CodeAudit.Graph.Basic

/-!
What has changed between two graphs of a project. Nodes are compared by id and content hash.
-/
namespace CodeAudit

structure GraphDifference where
  added : List String
  removed : List String
  modified : List String
  /-- The files to look at again: those of all nodes above. -/
  files : List String
deriving DecidableEq, Repr

namespace GraphDifference

def isEmpty (d : GraphDifference) : Bool :=
  d.added.isEmpty && d.removed.isEmpty && d.modified.isEmpty

end GraphDifference

namespace CodeGraph

/-- The nodes whose ids the other graph does not have. -/
def missingFrom (g other : CodeGraph) : Keyed String Entity :=
  g.nodes.filter fun e => !other.nodes.contains e.1

/-- The nodes that an older graph has with another hash. -/
def changedSince (g older : CodeGraph) : Keyed String Entity :=
  g.nodes.filter fun e => match older.node? e.1 with
    | some old => old.contentHash ≠ e.2.contentHash
    | none => false

def difference (older newer : CodeGraph) : GraphDifference where
  added := (newer.missingFrom older).keys
  removed := (older.missingFrom newer).keys
  modified := (newer.changedSince older).keys
  files :=
    let nodes := newer.missingFrom older ++ newer.changedSince older ++ older.missingFrom newer
    Text.sortedDistinct ((nodes.values.map (·.file)).filter (· ≠ ""))

end CodeGraph
end CodeAudit
