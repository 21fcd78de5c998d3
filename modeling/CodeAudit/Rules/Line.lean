import CodeAudit.Lexical.Mask
import CodeAudit.Regex.Search
import CodeAudit.Rules.Descriptor
import CodeAudit.SourceFile

/-!
Rules that look at one line at a time, on the raw text or on the masked one, and sets of such rules.
Columns count the bytes before the match in the text that was searched.
-/
namespace CodeAudit

/-- A file as the rules on text see it. -/
structure TextUnit where
  path : String
  language : Language
  content : Option String
deriving DecidableEq, Repr, Inhabited

namespace TextUnit

def ofFile (file : SourceFile) (language : Language) : TextUnit := ⟨file.path, language, file.content⟩

def fileName (u : TextUnit) : String := Path.baseName u.path

def testMarkers : List String :=
  [".test.", ".spec.", "_test.", "/test_", "/tests/", "/test/", "/__tests__/", "/spec/"]

/-- The text after the last slash or backslash. -/
def lastName (path : String) : String :=
  String.ofList (path.toList.reverse.takeWhile fun c => c != '/' && c != '\\').reverse

/-- The conventions by which a path names a test. -/
def isTestPath (path : String) : Bool :=
  let lower := "/" ++ Text.asciiLowerCase (String.ofList (path.toList.map fun c => if c = '\\' then '/' else c))
  let name := lastName path
  testMarkers.any (Text.contains lower) || Text.startsWith name "test_" ||
    Text.endsWith name "Test.java" || Text.endsWith name "Tests.java" || Text.endsWith name "Test.kt"

def isTest (u : TextUnit) : Bool := isTestPath u.path

end TextUnit

/-- The lines of a file, each raw and masked. -/
structure LinePair where
  raw : String
  masked : String
deriving DecidableEq, Repr, Inhabited

namespace LinePair

/-- A raw line without a masked counterpart has an empty one. -/
def pair : List String → List String → List LinePair
  | [], _ => []
  | raw :: rest, [] => ⟨raw, ""⟩ :: pair rest []
  | raw :: rest, masked :: more => ⟨raw, masked⟩ :: pair rest more

def ofContent (content : String) (language : Language) : List LinePair :=
  pair (Text.lines content) (Text.lines (Lexical.mask language content))

end LinePair

structure LineRule where
  descriptor : RuleDescriptor
  patterns : List Regex
  /-- Raw lines that match here are never reported. -/
  exempt : Option Regex := none
  /-- Whether the raw line is searched instead of the masked one. -/
  onRaw : Bool := false
  /-- The languages it is meant for, all if there are none. -/
  languages : List Language := []
  message : String
  suggestion : String

namespace LineRule

def appliesTo (r : LineRule) (l : Language) : Bool := r.languages.isEmpty || r.languages.contains l

/-- The column of the first pattern's match, if the line is reported. -/
def column? (r : LineRule) (line : LinePair) : Option Nat :=
  match r.exempt with
  | some e => if e.isMatch line.raw then none else search
  | none => search
where
  search : Option Nat :=
    (r.patterns.findSome? fun p => p.find? (if r.onRaw then line.raw else line.masked)).map
      fun m => m.byteStart + 1

def violation (r : LineRule) (file : String) (line column : Nat) : Violation :=
  r.descriptor.violation file line column r.message
    (if r.suggestion.isEmpty then none else some r.suggestion)

/-- The reports on one line: each descriptor reports once, through its first rule that matches. -/
def checkLine (file : String) (number : Nat) (line : LinePair) :
    List LineRule → List String → List Violation
  | [], _ => []
  | r :: rest, reported =>
    if reported.contains r.descriptor.id then checkLine file number line rest reported
    else match r.column? line with
      | none => checkLine file number line rest reported
      | some column =>
        r.violation file number column :: checkLine file number line rest (r.descriptor.id :: reported)

/-- The reports on the lines of a unit. -/
def checkAll (rules : List LineRule) (u : TextUnit) (lines : List LinePair) : List Violation :=
  let active := rules.filter fun r => r.appliesTo u.language
  (lines.zipIdx.map fun (line, i) => checkLine u.path (i + 1) line active []).flatten

end LineRule

/-- A set of rules on text; a project is checked file by file unless the set says otherwise. -/
structure TextRuleSet where
  id : String
  category : RuleCategory
  rules : List RuleDescriptor
  check : TextUnit → Except CheckFailure (List Violation)
  /-- What only the whole project shows, given the reports on the single files. -/
  finish : List TextUnit → List Violation → List Violation := fun _ found => found

namespace TextRuleSet

/-- A check that needs the content of the file. -/
def onContent (f : TextUnit → String → List Violation) (u : TextUnit) :
    Except CheckFailure (List Violation) :=
  match u.content with
  | some content => .ok (f u content)
  | none => .error (.error (.missingContent u.path))

/-- The reports on the single files; those without content are passed over. -/
def checkEach (s : TextRuleSet) : List TextUnit → Except CheckFailure (List Violation)
  | [] => .ok []
  | u :: rest =>
    match s.check u with
    | .ok found => (checkEach s rest).map (found ++ ·)
    | .error (.error (.missingContent _)) => checkEach s rest
    | .error e => .error e

def checkProject (s : TextRuleSet) (units : List TextUnit) : Except CheckFailure (List Violation) :=
  (s.checkEach units).map (s.finish units)

end TextRuleSet

namespace Violation

/-- By line, then by rule. -/
def lineLe (a b : Violation) : Bool :=
  if a.location.startLine != b.location.startLine then a.location.startLine < b.location.startLine
  else Text.leBool a.rule b.rule

/-- By file, then by line, then by rule. -/
def fileLe (a b : Violation) : Bool :=
  if a.file != b.file then Text.leBool a.file b.file else lineLe a b

def sortByLine (vs : List Violation) : List Violation := vs.mergeSort lineLe

def sortByFile (vs : List Violation) : List Violation := vs.mergeSort fileLe

end Violation
end CodeAudit
