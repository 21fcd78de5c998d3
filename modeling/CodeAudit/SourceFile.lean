import CodeAudit.Path

/-!
A file as it is handed to the analysis; its content may not have been loaded.
-/
namespace CodeAudit

structure SourceFile where
  path : String
  extension : String
  size : Nat
  content : Option String
deriving DecidableEq, Repr, Inhabited

namespace SourceFile

def loaded (path content : String) : SourceFile :=
  ⟨path, Path.extension path, Text.byteCount content.toList, some content⟩

def unloaded (path : String) (size : Nat) : SourceFile :=
  ⟨path, Path.extension path, size, none⟩

def lineCount (f : SourceFile) : Nat :=
  match f.content with
  | none => 0
  | some content => (Text.lines content).length

end SourceFile
end CodeAudit
