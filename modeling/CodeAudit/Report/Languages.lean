import CodeAudit.Decimal
import CodeAudit.Language.Statistics

/-!
The table of languages of a project, one line per language with right-aligned figures.
-/
namespace CodeAudit.Report

def padRight (width : Nat) (s : String) : String := s ++ Text.repeatText (width - s.length) " "

def padLeft (width : Nat) (s : String) : String := Text.repeatText (width - s.length) " " ++ s

/-- Percentages have one decimal. -/
def percent (x : Float) : String := (Decimal.fixed? 1 x).getD "NaN"

def languageLine (l : LanguageShare) : String :=
  "  " ++ padRight 12 l.language.name ++ " " ++ padLeft 6 (toString l.files) ++ " files "
    ++ padLeft 8 (toString l.lines) ++ " lines " ++ padLeft 6 (percent l.percentage) ++ "%\n"

def languages (s : LanguageStatistics) : String :=
  s!"{s.totalFiles} files, {s.totalLines} lines\n"
    ++ String.join (s.languages.map languageLine)
    ++ (match s.primary with
      | some l => s!"primary: {l.name}\n"
      | none => "")
    ++ (if 0 < s.unknownFiles then s!"unrecognized: {s.unknownFiles} files\n" else "")

end CodeAudit.Report
