import CodeAudit.Rules.Line

/-!
Rules on imports: index files that import themselves, modules that import the index that exports
them, whole libraries, and imports that reach too far.
-/
namespace CodeAudit.ImportHygiene

def descriptor (name title : String) (severity : Severity) (description : String) : RuleDescriptor :=
  ⟨"architecture/" ++ name, title, .architecture, severity, description⟩

def indexSelfImport := descriptor "index-self-import" "Index file imports itself" .high
  "Index file importing from its own directory entry point"
def barrelCycle := descriptor "barrel-cycle" "Barrel import cycle" .medium
  "Module imports the index file that re-exports it"
def lodashFullImport := descriptor "lodash-full-import" "Whole lodash import" .low
  "Importing all of lodash instead of individual functions"
def requireInTypescript := descriptor "require-in-typescript" "require in TypeScript" .low
  "CommonJS require used in a TypeScript module"
def deepRelativeImport := descriptor "deep-relative-import" "Deep relative import" .low
  "Relative import climbing four or more directories"
def crossPackageInternals := descriptor "cross-package-internals" "Import of package internals" .medium
  "Import reaching into another package's src or internal directory"

def descriptors : List RuleDescriptor :=
  [indexSelfImport, barrelCycle, lodashFullImport, requireInTypescript, deepRelativeImport,
   crossPackageInternals]

def ecma : List Language := [.typescript, .javascript]

def commentLine : Regex := Regex.ofValid "^\\s*(?://|/?\\*|#)"

/-- What stands in front of an imported path. -/
def importHead : String := "(?:\\bfrom\\s+|\\bimport\\s+|\\brequire\\s*\\(\\s*|\\bimport\\s*\\(\\s*)"

/-- An import of the directory's own index file. -/
def ownIndexImport : Regex := Regex.ofValid
  (importHead ++ "['\"]\\.(?:/(?:index(?:\\.[jt]sx?)?)?)?['\"]")

def patterns (texts : List String) : List Regex := texts.map Regex.ofValid

def selfImportRule : LineRule where
  descriptor := indexSelfImport
  patterns := [ownIndexImport]
  exempt := some commentLine
  onRaw := true
  message := "Index file imports from itself"
  suggestion := "Import the concrete module instead of the directory entry point"

def reExport : Regex := Regex.ofValid
  "\\bexport\\s+(?:\\*(?:\\s+as\\s+\\w+)?|type\\s+\\\x7b[^\x7d]*\\\x7d|\\\x7b[^\x7d]*\\\x7d)\\s+from\\s+['\"](\\./[^'\"]+)['\"]"

def lineRules : List LineRule :=
  [{ descriptor := lodashFullImport
     patterns := patterns
       ["(?:\\bfrom\\s+|\\brequire\\s*\\(\\s*)['\"]lodash['\"]", "\\bimport\\s+['\"]lodash['\"]"]
     exempt := some commentLine
     onRaw := true
     languages := ecma
     message := "Whole lodash library is imported"
     suggestion := "Import individual functions such as lodash/debounce" },
   { descriptor := requireInTypescript
     patterns := patterns ["(?:^|[^\\w.])require\\s*\\("]
     exempt := some (Regex.ofValid "\\bimport\\s+\\w+\\s*=\\s*require\\b")
     languages := [.typescript]
     message := "require() used in a TypeScript module"
     suggestion := "Use an ES import statement" },
   { descriptor := deepRelativeImport
     patterns := patterns [importHead ++ "['\"](?:\\.\\./)\x7b4,\x7d"]
     exempt := some commentLine
     onRaw := true
     languages := ecma
     message := "Relative import climbs four or more directories"
     suggestion := "Use a path alias or move the shared code closer" },
   { descriptor := deepRelativeImport
     patterns := patterns ["^\\s*from\\s+\\.\x7b5,\x7d"]
     languages := [.python]
     message := "Relative import climbs four or more packages"
     suggestion := "Use an absolute import" },
   { descriptor := crossPackageInternals
     patterns := patterns
       [importHead ++ "['\"](?:@[\\w.-]+/)?[A-Za-z][\\w.-]*/(?:src|internal|lib/internal)/",
        importHead ++ "['\"](?:\\.\\./)+packages/[\\w.-]+/(?:src|internal)/"]
     exempt := some commentLine
     onRaw := true
     languages := ecma
     message := "Import reaches into another package's internals"
     suggestion := "Import from the package's public entry point" }]

/-- The module that a file name or a relative path names. -/
def moduleName (spec : String) : String :=
  let name := (Text.afterHead? spec "./").getD spec
  let name := (Text.beforeTail? name "/index").getD name
  String.ofList (name.toList.takeWhile (· != '.'))

def isIndex (u : TextUnit) : Bool := ecma.contains u.language && moduleName u.fileName == "index"

def directory (path : String) : String :=
  match Text.cutLast? path "/" with
  | some (dir, _) => dir
  | none => ""

def check (u : TextUnit) (content : String) : List Violation :=
  let lines := LinePair.ofContent content u.language
  Violation.sortByLine
    (LineRule.checkAll lineRules u lines ++
      (if isIndex u then LineRule.checkAll [selfImportRule] u lines else []))

/-- The directory of an index file with the modules it exports again. -/
def exported? (u : TextUnit) : Option (String × List String) :=
  match isIndex u, u.content with
  | true, some content =>
    some (directory u.path, (reExport.findAll content).filterMap fun m => (m.group? 1).map moduleName)
  | _, _ => none

/-- Modules that import the index file which exports them. -/
def barrelCycles (units : List TextUnit) : List Violation :=
  let exported := units.filterMap exported?
  units.flatMap fun u =>
    let members := (exported.filter fun e => e.1 == directory u.path).flatMap (·.2)
    if isIndex u || !ecma.contains u.language || !members.contains (moduleName u.fileName) then []
    else match u.content with
      | none => []
      | some content =>
        (LinePair.ofContent content u.language).zipIdx.filterMap fun (line, i) =>
          if Text.isBlank line.masked then none
          else (ownIndexImport.find? line.raw).map fun m =>
            barrelCycle.violation u.path (i + 1) (m.byteStart + 1)
              s!"{u.fileName} imports its own barrel, which re-exports it"
              (some "Import sibling modules directly instead of through the index")

/-- The set of rules on imports. -/
def ruleSet : TextRuleSet where
  id := "architecture"
  category := .architecture
  rules := descriptors
  check := TextRuleSet.onContent check
  finish units found := found ++ barrelCycles units

end CodeAudit.ImportHygiene
