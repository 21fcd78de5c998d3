import CodeAudit.SourceFile
import CodeAudit.Sources.Ignore
import CodeAudit.Sources.Tree

/-!
The files of a directory that are worth an audit, in the order of their paths. Left out are what the
ignore lists of the directories on the way say, build output and dependencies, and files that are not
text. A directory that is left out is not entered.
-/
namespace CodeAudit

structure CollectOptions where
  exclude : List String := []
  /-- Larger files are listed without their content. -/
  maxFileSize : Nat := 1024 * 1024

inductive CollectError where
  | notDirectory (root : String)
  | invalidPattern (pattern : String)
deriving DecidableEq, Repr, Inhabited

def CollectError.message : CollectError → String
  | notDirectory root => s!"{root} is not a directory"
  | invalidPattern pattern => s!"Invalid exclude pattern: {pattern}"

namespace Collect

/-- What is never worth an audit. -/
def defaultExcludes : List String :=
  ["**/.git/**", "**/node_modules/**", "**/target/**", "**/dist/**", "**/build/**", "**/coverage/**",
   "**/__pycache__/**", "**/.venv/**", "**/.codescan/**"]

def readExcludes : List String → Except CollectError IgnoreList
  | [] => .ok []
  | text :: rest =>
    match IgnorePattern.ofText text with
    | .error _ => .error (.invalidPattern text)
    | .ok p => (readExcludes rest).map (p :: ·)

def byteLines : List UInt8 → List (List UInt8)
  | [] => [[]]
  | b :: rest =>
    if b = 10 then [] :: byteLines rest
    else match byteLines rest with
      | [] => [[b]]
      | line :: more => (b :: line) :: more

/-- The lines before the first one that is not text. -/
def textLines (bytes : ByteArray) : List String :=
  ((byteLines bytes.toList).map fun l => String.fromUTF8? l.toByteArray).takeWhile Option.isSome
    |>.filterMap fun l => l.map fun s => String.ofList (Text.dropReturn s.toList)

/-- A byte order mark before the first line does not count. -/
def withoutMark : List String → List String
  | [] => []
  | first :: rest => String.ofList (first.toList.dropWhile fun c => c.toNat = 0xfeff) :: rest

/-- The lists that a directory brings: the most important one first. -/
def listFiles : List (List String) := [[".ignore"], [".gitignore"], [".git", "info", "exclude"]]

/-- The ignore lists of a directory and the way from there. -/
structure Level where
  lists : List IgnoreList
  way : List String := []

def Level.of (directory : TreeEntry) : Level where
  lists := listFiles.map fun names =>
    match directory.bytes? names with
    | some bytes => .ofLines (withoutMark (textLines bytes))
    | none => []

/-- Where the walk is: the levels from here up, and the excludes of the top. -/
structure Place where
  excludes : IgnoreList
  levels : List Level
  way : List String := []

def pathOf (way : List String) (name : String) : String := Text.join "/" (way ++ [name])

/-- What the lists of one kind say: of several levels the nearest one that says something. -/
def Place.listVerdict? (p : Place) (kind : Nat) (name : String) (isDirectory : Bool) : Option IgnoreVerdict :=
  p.levels.findSome? fun l => (l.lists.getD kind []).verdict? (pathOf l.way name) isDirectory

/-- Excludes come first; then a list of a more important kind goes before all of the less important. -/
def Place.keeps (p : Place) (name : String) (isDirectory : Bool) : Bool :=
  (p.excludes.verdict? (pathOf p.way name) isDirectory).isNone &&
    (List.range listFiles.length).findSome? (fun kind => p.listVerdict? kind name isDirectory) ≠ some .ignored

def Place.enter (p : Place) (name : String) (directory : TreeEntry) : Place where
  excludes := p.excludes
  levels := .of directory :: p.levels.map fun l => { l with way := l.way ++ [name] }
  way := p.way ++ [name]

/-- A file as it is handed on, none if it is not text. -/
def sourceFile? (maxSize : Nat) (path : String) (bytes : ByteArray) : Option SourceFile :=
  if maxSize < bytes.size then some (.unloaded path bytes.size)
  else (String.fromUTF8? bytes).map fun content => .loaded path content

mutual

/-- The files of an entry that is kept. -/
def entryFiles (maxSize : Nat) (p : Place) (name : String) : TreeEntry → List SourceFile
  | .file bytes => (sourceFile? maxSize (pathOf p.way name) bytes).toList
  | .directory entries => walk maxSize (p.enter name (.directory entries)) entries

/-- The files below a directory. -/
def walk (maxSize : Nat) (p : Place) : List (String × TreeEntry) → List SourceFile
  | [] => []
  | (name, e) :: rest =>
    (if p.keeps name e.isDirectory then entryFiles maxSize p name e else []) ++ walk maxSize p rest

end

def pathLe (a b : SourceFile) : Bool := Text.leBool a.path b.path

/-- Collects the files below a root; there may be no directory of that name. -/
def run (options : CollectOptions) (root : String) : Option TreeEntry → Except CollectError (List SourceFile)
  | some (.directory entries) =>
    (readExcludes (defaultExcludes ++ options.exclude)).map fun excludes =>
      (walk options.maxFileSize ⟨excludes, [.of (.directory entries)], []⟩ entries).mergeSort pathLe
  | _ => .error (.notDirectory root)

end Collect
end CodeAudit
