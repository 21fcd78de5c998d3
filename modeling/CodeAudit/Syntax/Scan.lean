import CodeAudit.Syntax.Peg
import CodeAudit.Text.Basic
import CodeAudit.Text.Category

/-!
Scanners for the tokens that many languages share: runs of characters, words, operators by longest
match, quoted literals, numbers, blanks and comments.
-/
namespace CodeAudit.Syntax

namespace Source

/-- The end of the run of characters that `p` holds of. -/
def skipWhile (s : Source) (p : Char → Bool) (i : Nat) : Nat :=
  if h : i < s.chars.size then
    if p s.chars[i] then skipWhile s p (i + 1) else i
  else i
termination_by s.chars.size - i

/-- Whether the given characters stand at the position. -/
def hasAt (s : Source) (i : Nat) : List Char → Bool
  | [] => true
  | c :: rest => s.get? i == some c && hasAt s (i + 1) rest

def isAt (s : Source) (i : Nat) (p : Char → Bool) : Bool := (s.get? i).any p

/-- The position behind the first occurrence of the given characters, if there is one. -/
def after? (s : Source) (cs : List Char) (i : Nat) : Option Nat :=
  if s.hasAt i cs then some (i + cs.length)
  else if h : i < s.chars.size then after? s cs (i + 1)
  else none
termination_by s.chars.size - i

def lineEnd (s : Source) (i : Nat) : Nat := s.skipWhile (· != '\n') i

/-- Whether a line break lies between two positions. -/
def breaksBetween (s : Source) (i j : Nat) : Bool := s.skipWhile (· != '\n') i < j

end Source

namespace Scan

/-- What words and operators look like in a language. -/
structure Lexis where
  wordStart : Char → Bool
  wordPart : Char → Bool
  /-- All operators, longer ones before the shorter ones they begin with. -/
  operators : List (List Char)
  /-- Words that are never names. -/
  reserved : List String

/-- A whole word of the given spelling. -/
def word (l : Lexis) (w : List Char) : Scanner := fun s i =>
  if s.hasAt i w && !s.isAt (i + w.length) l.wordPart then some (i + w.length) else none

/-- An operator that is not the beginning of a longer one. -/
def operator (l : Lexis) (w : List Char) : Scanner :=
  let longer := l.operators.filter fun o => w.length < o.length && w.isPrefixOf o
  fun s i => if s.hasAt i w && !longer.any (s.hasAt i) then some (i + w.length) else none

/-- The longest operator at the position, if it is one of the given ones. -/
def operatorOf (l : Lexis) (wanted : List (List Char)) : Scanner := fun s i =>
  match l.operators.find? (s.hasAt i) with
  | some o => if wanted.contains o then some (i + o.length) else none
  | none => none

/-- The given characters, whatever follows. -/
def exact (w : List Char) : Scanner := fun s i =>
  if s.hasAt i w then some (i + w.length) else none

def anyWord (l : Lexis) : Scanner := fun s i =>
  if s.isAt i l.wordStart then some (s.skipWhile l.wordPart (i + 1)) else none

/-- A word that is not reserved. -/
def freeWord (l : Lexis) : Scanner := fun s i => do
  let stop ← anyWord l s i
  if l.reserved.contains (s.text ⟨i, stop⟩) then none else some stop

/-- One of the given words. -/
def oneOf (l : Lexis) (words : List String) : Scanner := fun s i => do
  let stop ← anyWord l s i
  if words.contains (s.text ⟨i, stop⟩) then some stop else none

/-- The rest of a literal up to its closing quote; a backslash protects the next character, and
outside of long literals a line break ends the search. -/
def quotedRest (s : Source) (quote : List Char) (multiline escapes : Bool) (i : Nat) : Option Nat :=
  if h : i < s.chars.size then
    if s.hasAt i quote then some (i + quote.length)
    else if escapes && s.chars[i] == '\\' then quotedRest s quote multiline escapes (i + 2)
    else if !multiline && s.chars[i] == '\n' then none
    else quotedRest s quote multiline escapes (i + 1)
  else none
termination_by s.chars.size - i

def quoted (quote : List Char) (multiline escapes : Bool) : Scanner := fun s i =>
  if s.hasAt i quote then quotedRest s quote multiline escapes (i + quote.length) else none

/-- Digits, letters, underscores and points; a sign belongs to the number after an exponent mark. -/
def numberRest (s : Source) (hex : Bool) (i : Nat) : Nat :=
  if h : i < s.chars.size then
    let c := s.chars[i]
    if (c == 'e' || c == 'E') && !hex || c == 'p' || c == 'P' then
      if s.isAt (i + 1) (fun d => d == '+' || d == '-') then numberRest s hex (i + 2)
      else numberRest s hex (i + 1)
    else if c.isAlphanum || c == '_' then numberRest s hex (i + 1)
    else if c == '.' && s.isAt (i + 1) (fun d => d.isDigit || d == 'e' || d == 'E') then
      numberRest s hex (i + 1)
    else if c == '.' && !s.isAt (i + 1) (fun d => d.isAlpha || d == '.' || d == '_') then i + 1
    else i
  else i
termination_by s.chars.size - i

def number : Scanner := fun s i =>
  let hex := s.hasAt i ['0', 'x'] || s.hasAt i ['0', 'X']
  if s.isAt i Char.isDigit || (s.hasAt i ['.'] && s.isAt (i + 1) Char.isDigit) then
    some (numberRest s hex i)
  else none

/-- The end of a comment of the slash kind that starts at the position. -/
def slashComment? (s : Source) (i : Nat) : Option Nat :=
  if s.hasAt i ['/', '/'] then some (s.lineEnd i)
  else if s.hasAt i ['/', '*'] then some ((s.after? ['*', '/'] (i + 2)).getD s.size)
  else none

/-- Skips blanks and whatever `comment?` finds. -/
def skipBlanks (isBlank : Char → Bool) (comment? : Source → Nat → Option Nat) (s : Source)
    (i : Nat) : Nat :=
  if h : i < s.chars.size then
    if isBlank s.chars[i] then skipBlanks isBlank comment? s (i + 1)
    else match comment? s i with
      | some stop => if i < stop then skipBlanks isBlank comment? s stop else i
      | none => i
  else i
termination_by s.chars.size - i

/-- The comments in a stretch of blanks and comments. -/
def commentsIn (comment? : Source → Nat → Option Nat) (s : Source) (i stop : Nat) : List Span :=
  if i < stop then
    match comment? s i with
    | some j => if i < j then ⟨i, j⟩ :: commentsIn comment? s j stop else []
    | none => commentsIn comment? s (i + 1) stop
  else []
termination_by stop - i

end Scan

namespace Peg

variable {ν μ : Type}

/-- A keyword or operator, by its spelling. -/
def spelled (l : Scan.Lexis) (w : String) : Peg ν μ :=
  let cs := w.toList
  .token (.token w) (if cs.head?.any l.wordStart then Scan.word l cs else Scan.operator l cs)

/-- One of some keywords or operators. -/
def spelledAny (l : Scan.Lexis) (ws : List String) : Peg ν μ := .alt (ws.map (spelled l))

/-- One of some operators. -/
def operatorOf (l : Scan.Lexis) (ws : List String) : Peg ν μ :=
  .token (.token "") (Scan.operatorOf l (ws.map String.toList))

/-- The given characters, even where a longer operator begins. -/
def piece (w : String) : Peg ν μ := .token (.token w) (Scan.exact w.toList)

/-- A token right after the last one. -/
def glued (tag : Tag) (scan : Scanner) : Peg ν μ :=
  .step (some tag) fun mode s last => (scan s last).map fun stop => (mode, ⟨last, stop⟩)

def some (p : Peg ν μ) : Peg ν μ := .seq [p, .many p]

/-- Items with separators between them. -/
def sepBy1 (item sep : Peg ν μ) : Peg ν μ := .seq [item, .many (.seq [sep, item])]

/-- Items with separators between them and perhaps one after the last. -/
def listOf (item sep : Peg ν μ) : Peg ν μ := .opt (.seq [sepBy1 item sep, .opt sep])

def other (parts : List (Peg ν μ)) : Peg ν μ := .node .other (.seq parts)

/-- Passes over one word or character that nothing else can be made of, unless it is one of some. -/
def skipping (l : Scan.Lexis) (keep : List Char) : Peg ν μ :=
  .repair (.token .other fun s i =>
    match s.get? i with
    | none => none
    | Option.some c => if keep.contains c then none else Option.some ((Scan.anyWord l s i).getD (i + 1)))

end Peg
end CodeAudit.Syntax
