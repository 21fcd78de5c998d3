import CodeAudit.Keyed
import CodeAudit.Path

/-!
Directories in memory: files with their bytes, by name.
-/
namespace CodeAudit

inductive TreeEntry where
  | file (bytes : ByteArray)
  | directory (entries : List (String × TreeEntry))
deriving Inhabited

namespace TreeEntry

def entries : TreeEntry → List (String × TreeEntry)
  | file _ => []
  | directory es => es

def isDirectory : TreeEntry → Bool
  | file _ => false
  | directory _ => true

/-- The bytes of a file below a directory, by the names on the way. -/
def bytes? : TreeEntry → List String → Option ByteArray
  | file bytes, [] => some bytes
  | directory _, [] => none
  | e, name :: rest => (e.entries.lookup name).bind fun inner => inner.bytes? rest

/-- Puts a file below a directory, with the directories on the way. -/
def insert (bytes : ByteArray) : List String → TreeEntry → TreeEntry
  | [], _ => file bytes
  | name :: rest, e =>
    directory (Keyed.alter name (fun old => insert bytes rest (old.getD (directory []))) e.entries)

/-- The names on the way to a file. -/
def namesOf (path : String) : List String :=
  (Path.components path).filterMap fun
    | .normal name => some name
    | _ => none

/-- The directory that holds the given files. -/
def ofFiles (files : List (String × ByteArray)) : TreeEntry :=
  files.foldl (fun tree (path, bytes) => tree.insert bytes (namesOf path)) (directory [])

end TreeEntry
end CodeAudit
