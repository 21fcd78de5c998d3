import CodeAudit.Glob

/-!
Patterns for files that are left out, one per line. A pattern holds below the directory of its list;
without an inner slash it holds at every depth. A later line overrules the earlier ones, and a line
with an exclamation mark takes files back in.
-/
namespace CodeAudit

inductive IgnoreVerdict where
  | ignored
  | kept
deriving DecidableEq, Repr, Inhabited

/-- A line without its marks. -/
structure IgnoreLine where
  negated : Bool := false
  /-- Holds at the top of the directory only. -/
  anchored : Bool := false
  directoriesOnly : Bool := false
  body : String
deriving DecidableEq, Repr, Inhabited

namespace IgnoreLine

/-- Blanks at the end do not count, unless the last one is escaped. -/
def trimmed (line : String) : String := if Text.endsWith line "\\ " then line else Text.trimEnd line

/-- Takes off the slash at the end, and an escape before it. -/
def ofUnanchored (negated anchored : Bool) (text : String) : IgnoreLine :=
  match Text.beforeTail? text "/" with
  | none => ⟨negated, anchored, false, text⟩
  | some body => ⟨negated, anchored, true, (Text.beforeTail? body "\\").getD body⟩

/-- Takes off the slash at the beginning. -/
def ofUnmarked (negated : Bool) (text : String) : IgnoreLine :=
  match Text.afterHead? text "/" with
  | some rest => ofUnanchored negated true rest
  | none => ofUnanchored negated false text

/-- Comments and empty lines say nothing. -/
def ofText? (text : String) : Option IgnoreLine :=
  let line := trimmed text
  if Text.startsWith text "#" || line.isEmpty then none
  else if Text.startsWith line "\\!" || Text.startsWith line "\\#" then
    some (ofUnanchored false false (String.ofList (line.toList.drop 1)))
  else
    match Text.afterHead? line "!" with
    | some rest => some (ofUnmarked true rest)
    | none => some (ofUnmarked false line)

/-- Everything below a directory does not include the directory. -/
def globText (l : IgnoreLine) : String :=
  let text := if l.anchored || Text.containsChar l.body '/' || l.body == "**" then l.body else "**/" ++ l.body
  if Text.endsWith text "/**" then text ++ "/*" else text

end IgnoreLine

structure IgnorePattern where
  line : IgnoreLine
  glob : Glob

namespace IgnorePattern

def ofLine (allowsOpenClass : Bool) (l : IgnoreLine) : Except GlobError IgnorePattern :=
  (Glob.parseWith ⟨false, allowsOpenClass⟩ l.globText).map fun g => ⟨l, g⟩

/-- A pattern that is given by itself: it has no mark for taking files back in. -/
def ofText (text : String) : Except GlobError IgnorePattern :=
  ofLine false (.ofUnmarked false (IgnoreLine.trimmed text))

def holds (p : IgnorePattern) (path : String) (isDirectory : Bool) : Bool :=
  (!p.line.directoriesOnly || isDirectory) && p.glob.isMatch path

def verdict (p : IgnorePattern) : IgnoreVerdict := if p.line.negated then .kept else .ignored

end IgnorePattern

/-- The patterns of one list, in the order of its lines. -/
abbrev IgnoreList := List IgnorePattern

namespace IgnoreList

/-- The patterns of some lines; one that cannot be read is passed over. -/
def ofLines (lines : List String) : IgnoreList :=
  (lines.filterMap IgnoreLine.ofText?).filterMap fun l => (IgnorePattern.ofLine true l).toOption

/-- What the last pattern that holds says. -/
def verdict? (ps : IgnoreList) (path : String) (isDirectory : Bool) : Option IgnoreVerdict :=
  (ps.reverse.find? fun p => p.holds path isDirectory).map (·.verdict)

end IgnoreList
end CodeAudit
