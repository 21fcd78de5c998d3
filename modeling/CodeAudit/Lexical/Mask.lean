import CodeAudit.Language
import CodeAudit.Text.Basic

/-!
Masking: comments and the bodies of string literals become blanks, so that what is left is code.
Each character gives one character and line feeds stay, so lines and character columns still hold.
-/
namespace CodeAudit.Lexical

/-- What comments and literals look like in a language. -/
structure Style where
  slashComments : Bool
  hashComments : Bool
  tripleQuotes : Bool
  quotes : List Char
  /-- In a literal between backquotes a backslash stands for itself. -/
  rawBackquote : Bool := false
deriving DecidableEq, Repr

def backquote : Char := '\x60'

def Style.of : Language → Style
  | .python => ⟨false, true, true, ['"', '\''], false⟩
  | .ruby => ⟨false, true, false, ['"', '\''], false⟩
  | .shell => ⟨false, true, false, ['"', '\'', backquote], false⟩
  | .php => ⟨true, true, false, ['"', '\''], false⟩
  | .typescript | .javascript => ⟨true, false, false, ['"', '\'', backquote], false⟩
  | .go => ⟨true, false, false, ['"', '\'', backquote], true⟩
  | .rust => ⟨true, false, false, ['"'], false⟩
  | _ => ⟨true, false, false, ['"', '\''], false⟩

/-- What the next character belongs to. -/
inductive Mode where
  | code
  | lineComment
  | blockComment
  | quoted (quote : Char)
  | tripleQuoted (quote : Char)
deriving DecidableEq, Repr

def blankOf (c : Char) : Char := if c = '\n' then '\n' else ' '

/-- Masks the rest of a text that is read in the given mode. -/
def maskFrom (s : Style) : Mode → List Char → List Char
  | _, [] => []
  | .code, [c] =>
    if s.hashComments && c == '#' then [blankOf c] else [c]
  | .code, c :: d :: rest =>
    if s.hashComments && c == '#' then blankOf c :: maskFrom s .lineComment (d :: rest)
    else if s.slashComments && c == '/' && d == '/' then
      blankOf c :: maskFrom s .lineComment (d :: rest)
    else if s.slashComments && c == '/' && d == '*' then
      blankOf c :: blankOf d :: maskFrom s .blockComment rest
    else if s.tripleQuotes && (c == '"' || c == '\'') && d == c && rest.head? == some c then
      match rest with
      | [] => [c, d]
      | e :: rest => c :: d :: e :: maskFrom s (.tripleQuoted c) rest
    else if s.quotes.contains c then c :: maskFrom s (.quoted c) (d :: rest)
    else c :: maskFrom s .code (d :: rest)
  | .lineComment, c :: rest =>
    if c = '\n' then c :: maskFrom s .code rest else blankOf c :: maskFrom s .lineComment rest
  | .blockComment, [c] => [blankOf c]
  | .blockComment, c :: d :: rest =>
    if c == '*' && d == '/' then ' ' :: ' ' :: maskFrom s .code rest
    else blankOf c :: maskFrom s .blockComment (d :: rest)
  | .tripleQuoted _, [c] => [blankOf c]
  | .tripleQuoted q, c :: d :: rest =>
    if c == '\\' then blankOf c :: blankOf d :: maskFrom s (.tripleQuoted q) rest
    else if c == q && d == q && rest.head? == some q then
      match rest with
      | [] => [c, d]
      | e :: rest => c :: d :: e :: maskFrom s .code rest
    else blankOf c :: maskFrom s (.tripleQuoted q) (d :: rest)
  | .quoted q, [c] =>
    if c == q && !(c == '\\' && !(q == backquote && s.rawBackquote)) then [c] else [blankOf c]
  | .quoted q, c :: d :: rest =>
    if c == '\\' && !(q == backquote && s.rawBackquote) then
      blankOf c :: blankOf d :: maskFrom s (.quoted q) rest
    else if c == q then c :: maskFrom s .code (d :: rest)
    else if c == '\n' && q != backquote then c :: maskFrom s .code (d :: rest)
    else blankOf c :: maskFrom s (.quoted q) (d :: rest)
termination_by _ cs => cs.length

def maskChars (l : Language) (cs : List Char) : List Char := maskFrom (Style.of l) .code cs

def mask (l : Language) (content : String) : String := String.ofList (maskChars l content.toList)

/-- The lines of a masked text on which something is left. -/
def codeLineCount (masked : String) : Nat :=
  ((Text.lines masked).filter fun line => !Text.isBlank line).length

end CodeAudit.Lexical
