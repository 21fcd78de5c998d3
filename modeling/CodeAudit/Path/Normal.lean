import CodeAudit.Path

/-!
The normal form of a path: forward slashes, no empty and no `.` segments, and `..` folded into the
segment before it. A relative path keeps the `..` that climb out of it; an absolute one drops them.
-/
namespace CodeAudit.Path

/-- The segments of a path, parted by slashes of either kind. -/
def segments (path : String) : List String :=
  Text.splitOn (String.ofList (path.toList.map fun c => if c = '\\' then '/' else c)) '/'

def isAbsolute (path : String) : Bool :=
  path.toList.head? == some '/' || path.toList.head? == some '\\'

/-- Puts one more segment on a stack of folded segments, the innermost on top. -/
def foldSegment (absolute : Bool) (stack : List String) (segment : String) : List String :=
  if segment = "" ∨ segment = "." then stack
  else if segment = ".." then
    match stack with
    | [] => if absolute then [] else [".."]
    | top :: rest =>
      if top ≠ ".." then rest else if absolute then top :: rest else ".." :: top :: rest
  else segment :: stack

def foldSegments (absolute : Bool) (segments : List String) : List String :=
  (segments.foldl (foldSegment absolute) []).reverse

def normalize (path : String) : String :=
  let folded := Text.join "/" (foldSegments (isAbsolute path) (segments path))
  if isAbsolute path then "/" ++ folded else folded

/-- The path before and the name after the last slash; there may be no slash. -/
def splitName (path : String) : Option String × String :=
  match Text.cutLast? path "/" with
  | none => (none, path)
  | some (dir, name) => (some dir, name)

/-- The text before the last slash, empty if there is none. -/
def directory (path : String) : String := (splitName path).1.getD ""

/-- The path without the last dot of its file name and what follows; a dot in front of the whole
name stays. -/
def withoutExtension (path : String) : String :=
  let (dir, name) := splitName path
  let stem := match Text.cutLast? name "." with
    | some (before, _) => if before = "" then name else before
    | none => name
  match dir with
  | none => stem
  | some dir => dir ++ "/" ++ stem

end CodeAudit.Path
