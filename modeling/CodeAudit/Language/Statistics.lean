import CodeAudit.Count
import CodeAudit.Language.Detection

/-!
How the files of a project are spread over languages. Shares are of the files whose language is
known; the languages are listed by files, then by lines, then in the order of languages.
-/
namespace CodeAudit

structure LanguageShare where
  language : Language
  files : Nat
  lines : Nat
  /-- Percent of the files of a known language. -/
  percentage : Float

structure LanguageStatistics where
  languages : List LanguageShare := []
  totalFiles : Nat := 0
  totalLines : Nat := 0
  unknownFiles : Nat := 0
  primary : Option Language := none
  multiLanguage : Bool := false

namespace LanguageStatistics

/-- The line count of the last file with this path, zero if there is none. -/
def linesOf (files : List SourceFile) (path : String) : Nat :=
  match files.reverse.find? fun f => f.path == path with
  | some f => f.lineCount
  | none => 0

def precedes (a b : LanguageShare) : Bool :=
  if a.files != b.files then b.files < a.files
  else if a.lines != b.lines then b.lines < a.lines
  else a.language.rank ≤ b.language.rank

/-- So many of the files as percent; without any there is no share. -/
def percentageOf (files known : Nat) : Float :=
  if known = 0 then 0.0 else Float.ofNat files * 100.0 / Float.ofNat known

/-- From this percentage on a language counts towards several languages. -/
def multiLanguageShare : Float := 10.0

def isSignificant (s : LanguageShare) : Bool := multiLanguageShare ≤ s.percentage

def ofMappings (mappings : List LanguageMapping) (files : List SourceFile) : LanguageStatistics :=
  let counted := mappings.map fun m => (m.language, linesOf files m.path)
  let known := counted.filter fun (l, _) => l.isKnown
  let share := fun (l : Language) =>
    let own := known.filter fun (k, _) => k == l
    { language := l
      files := own.length
      lines := total (own.map (·.2))
      percentage := percentageOf own.length known.length : LanguageShare }
  let languages := ((Language.all.filter fun l => known.any fun (k, _) => k == l).map share).mergeSort precedes
  { languages := languages
    totalFiles := mappings.length
    totalLines := total (counted.map (·.2))
    unknownFiles := counted.length - known.length
    primary := (languages.head?).map (·.language)
    multiLanguage := 1 < languages.countP isSignificant }

def top (s : LanguageStatistics) (n : Nat) : List LanguageShare := s.languages.take n

end LanguageStatistics
end CodeAudit
