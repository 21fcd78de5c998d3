import CodeAudit.Language
import CodeAudit.SourceFile

/-!
The language of a file: by its extension, else by the interpreter its first line names. Also which
paths are generated, vendored or binary and so never analysed.
-/
namespace CodeAudit

/-- What a language is recognised by. -/
structure LanguageProfile where
  language : Language
  extensions : List String
  interpreters : List String

namespace LanguageProfile

def all : List LanguageProfile :=
  [⟨.typescript, ["ts", "tsx", "mts", "cts"], ["ts-node"]⟩,
   ⟨.javascript, ["js", "jsx", "mjs", "cjs"], ["node", "nodejs", "deno", "bun"]⟩,
   ⟨.python, ["py", "pyi", "pyw"], ["python", "python2", "python3"]⟩,
   ⟨.java, ["java"], []⟩,
   ⟨.go, ["go"], []⟩,
   ⟨.rust, ["rs"], []⟩,
   ⟨.c, ["c", "h"], []⟩,
   ⟨.cpp, ["cpp", "cc", "cxx", "hpp", "hh", "hxx"], []⟩,
   ⟨.csharp, ["cs"], []⟩,
   ⟨.ruby, ["rb"], ["ruby"]⟩,
   ⟨.php, ["php"], ["php"]⟩,
   ⟨.swift, ["swift"], []⟩,
   ⟨.kotlin, ["kt", "kts"], []⟩,
   ⟨.scala, ["scala"], []⟩,
   ⟨.shell, ["sh", "bash", "zsh"], ["sh", "bash", "zsh"]⟩]

end LanguageProfile

namespace Language

def ofExtension? (ext : String) : Option Language :=
  (LanguageProfile.all.find? fun p => p.extensions.contains (Text.lowerCase ext)).map (·.language)

def ofInterpreter? (program : String) : Option Language :=
  (LanguageProfile.all.find? fun p => p.interpreters.contains program).map (·.language)

def extensions (l : Language) : List String :=
  ((LanguageProfile.all.find? fun p => p.language == l).map (·.extensions)).getD []

/-- The interpreter that a `#!` line runs, looking through `env` and its options. -/
def interpreter? (line : String) : Option String :=
  match Text.afterHead? (Text.trim line) "#!" with
  | none => none
  | some rest =>
    match Text.words rest with
    | [] => none
    | program :: arguments =>
      if Path.baseName program = "env" then
        (arguments.find? fun a => !Text.startsWith a "-").map Path.baseName
      else some (Path.baseName program)

/-- The language of a `#!` line; a version after the interpreter's name is ignored. -/
def ofShebang? (line : String) : Option Language :=
  match interpreter? line with
  | none => none
  | some program =>
    let bare := String.ofList (Text.trimEndWhile (fun c => c.isDigit || c == '.') program.toList)
    (ofInterpreter? program).or (ofInterpreter? bare)

end Language

inductive DetectionMethod where
  | extension
  | shebang
  | unknown
deriving DecidableEq, Repr

def DetectionMethod.name : DetectionMethod → String
  | extension => "extension"
  | shebang => "shebang"
  | unknown => "unknown"

/-- Certainty in percent. -/
def DetectionMethod.confidence : DetectionMethod → Nat
  | extension => 90
  | shebang => 85
  | unknown => 0

structure LanguageMapping where
  path : String
  language : Language
  method : DetectionMethod
deriving DecidableEq, Repr

namespace LanguageMapping

def ofPath (path : String) (firstLine : Option String) : LanguageMapping :=
  match Language.ofExtension? (Path.extension path) with
  | some l => ⟨path, l, .extension⟩
  | none =>
    match firstLine.bind Language.ofShebang? with
    | some l => ⟨path, l, .shebang⟩
    | none => ⟨path, .unknown, .unknown⟩

def ofFile (file : SourceFile) : LanguageMapping :=
  ofPath file.path (file.content.bind fun c => (Text.lines c).head?)

end LanguageMapping

namespace Exclusion

def directories : List String :=
  ["node_modules", "vendor", "dist", "build", "target", ".git", "__pycache__", "coverage", ".next",
   "out", "venv", ".venv"]

def binaryExtensions : List String :=
  ["png", "jpg", "jpeg", "gif", "bmp", "ico", "webp", "svg", "tiff", "zip", "tar", "gz", "tgz",
   "bz2", "xz", "7z", "rar", "jar", "war", "woff", "woff2", "ttf", "otf", "eot", "o", "obj", "a",
   "so", "dll", "dylib", "exe", "class", "pyc", "pyo", "wasm", "bin", "mp3", "mp4", "wav", "avi",
   "mov", "pdf", "lock"]

def lockFiles : List String :=
  ["package-lock.json", "yarn.lock", "pnpm-lock.yaml", "Cargo.lock", "poetry.lock", "Pipfile.lock",
   "composer.lock", "go.sum"]

def inExcludedDirectory (path : String) : Bool :=
  (Path.components path).any fun
    | .normal name => directories.contains name
    | _ => false

/-- Build output, vendored code, lock files, minified bundles and binary files. -/
def excludes (path : String) : Bool :=
  let name := (Path.fileName? path).getD ""
  let lower := Text.lowerCase name
  inExcludedDirectory path || lockFiles.contains name || Text.endsWith lower ".min.js" ||
    Text.endsWith lower ".min.css" || binaryExtensions.contains (Path.extension path)

end Exclusion
end CodeAudit
