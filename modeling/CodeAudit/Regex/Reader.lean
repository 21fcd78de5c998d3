import CodeAudit.Count
import CodeAudit.Regex.Pattern
import CodeAudit.Regex.Property

/-!
Reads the text of a regular expression. There is no look-around and there are no back-references;
what is not understood is refused, never taken literally.
-/
namespace CodeAudit.Regex

structure Flags where
  ignoreCase : Bool := false
  multiLine : Bool := false
  dotAll : Bool := false
  swapGreed : Bool := false
  unicode : Bool := true
  verbose : Bool := false
  crlf : Bool := false
deriving DecidableEq, Repr

structure ReaderState where
  rest : List Char
  flags : Flags := {}
  groups : Nat := 0
  names : List String := []
  depth : Nat := 0

abbrev Reader := StateT ReaderState Option

namespace Reader

def refuse {α : Type} : Reader α := fun _ => none

def peek? : Reader (Option Char) := return (← get).rest.head?

def rest : Reader (List Char) := return (← get).rest

def setRest (cs : List Char) : Reader Unit := modify fun s => { s with rest := cs }

def skip (n : Nat) : Reader Unit := modify fun s => { s with rest := s.rest.drop n }

def flags : Reader Flags := return (← get).flags

def setFlags (f : Flags) : Reader Unit := modify fun s => { s with flags := f }

def next : Reader Char := do
  match (← get).rest with
  | [] => refuse
  | c :: cs => setRest cs; return c

/-- Consumes the given text if it comes next. -/
def accept (text : String) : Reader Bool := do
  match Text.dropHead? text.toList (← rest) with
  | some cs => setRest cs; return true
  | none => return false

/-- Blanks and comments, which count for nothing in verbose mode. -/
def dropComments : Nat → List Char → List Char
  | 0, cs => cs
  | fuel + 1, cs =>
    match cs.dropWhile Text.isBlankChar with
    | '#' :: more => dropComments fuel (more.dropWhile (· != '\n'))
    | other => other

def skipBlank : Reader Unit := do
  if (← flags).verbose then setRest (dropComments (← rest).length (← rest))

/-- Hexadecimal digits of a character, between braces or of a fixed number. -/
def hexChar (count : Nat) : Reader Char := do
  let cs ← rest
  let (digits, after) := match cs with
    | '\x7b' :: more => (more.takeWhile (· != '\x7d'), (more.dropWhile (· != '\x7d')))
    | _ => (cs.take count, '\x7d' :: cs.drop count)
  let braced := cs.head? == some '\x7b'
  if digits.isEmpty || digits.any (fun c => (Text.hexDigit? c).isNone) then refuse
  if !braced && digits.length < count then refuse
  let n := Text.hexValue digits
  match after with
  | '\x7d' :: more =>
    if n.isValidChar then
      setRest more
      return Char.ofNat n
    else refuse
  | _ => refuse

/-- What a backslash can introduce. -/
inductive Escape where
  | literal (c : Char)
  | set (s : ClassSet)
  | look (l : Look)

def digitClass (unicode : Bool) : ClassSet :=
  if unicode then .test Text.isDecimal 5000 else .test Char.isDigit 40

def blankClass (unicode : Bool) : ClassSet :=
  if unicode then .test Text.isBlankChar 680
  else .test (fun c => c == ' ' || (9 ≤ c.toNat && c.toNat ≤ 13)) 80

def wordClass (unicode : Bool) : ClassSet :=
  if unicode then .test Text.isWord 48500 else .test asciiWord 96

def perlClass (unicode : Bool) : Char → Option ClassSet
  | 'd' => some (digitClass unicode)
  | 's' => some (blankClass unicode)
  | 'w' => some (wordClass unicode)
  | 'D' => some (.complement (digitClass unicode))
  | 'S' => some (.complement (blankClass unicode))
  | 'W' => some (.complement (wordClass unicode))
  | _ => none

/-- The size that the set of a named property counts with. -/
def propertySize : Nat := 18000

/-- A property after `\p`: one letter, or a name, or a kind and a value, between braces. -/
def propertyClass (negated : Bool) : Reader ClassSet := do
  let c ← next
  let (negated, found) ←
    if c == '\x7b' then
      let body := (← rest).takeWhile (· != '\x7d')
      if ((← rest).drop body.length).isEmpty then refuse
      skip (body.length + 1)
      let (negated, body) := match body with
        | '^' :: more => (!negated, more)
        | _ => (negated, body)
      let text := String.ofList body
      match Text.cut? text "!=" with
      | some (kind, value) => pure (!negated, propertyOf? kind value)
      | none =>
        match (Text.cut? text ":").or (Text.cut? text "=") with
        | some (kind, value) => pure (negated, propertyOf? kind value)
        | none => pure (negated, property? text)
    else if c == '\\' then refuse
    else pure (negated, property? (String.ofList [c]))
  match found with
  | none => refuse
  | some p => return if negated then .complement (.test p propertySize) else .test p propertySize

def isMeta (c : Char) : Bool := "\\.+*?()|[]\x7b\x7d^$#&-~".toList.contains c

def isEscapable (c : Char) : Bool := c.toNat < 128 && !c.isAlphanum && c != '<' && c != '>'

/-- The braces after `\b` that name a kind of word boundary. -/
def boundary (unicode : Bool) : Reader Look := do
  match ← rest with
  | '\x7b' :: more =>
    let word := more.takeWhile fun c => c.isAlpha || c == '-'
    if word.isEmpty then return .wordBoundary unicode
    match more.drop word.length with
    | '\x7d' :: after =>
      setRest after
      match String.ofList word with
      | "start" => return .wordStart unicode
      | "end" => return .wordEnd unicode
      | "start-half" => return .wordStartHalf unicode
      | "end-half" => return .wordEndHalf unicode
      | _ => refuse
    | _ => refuse
  | _ => return .wordBoundary unicode

def escape : Reader Escape := do
  let u := (← flags).unicode
  let c ← next
  match perlClass u c with
  | some s => return .set s
  | none =>
    match c with
    | 'x' =>
      let braced := (← peek?) == some '\x7b'
      let c ← hexChar 2
      if u || braced || c.toNat < 128 then return .literal c else refuse
    | 'u' => return .literal (← hexChar 4)
    | 'U' => return .literal (← hexChar 8)
    | 'p' => if u then return .set (← propertyClass false) else refuse
    | 'P' => if u then return .set (← propertyClass true) else refuse
    | 'a' => return .literal '\x07'
    | 'f' => return .literal '\x0c'
    | 't' => return .literal '\t'
    | 'n' => return .literal '\n'
    | 'r' => return .literal '\r'
    | 'v' => return .literal '\x0b'
    | 'A' => return .look .textStart
    | 'z' => return .look .textEnd
    | 'b' => return .look (← boundary u)
    | 'B' => return .look (.notWordBoundary u)
    | '<' => return .look (.wordStart u)
    | '>' => return .look (.wordEnd u)
    | _ => if isMeta c || isEscapable c then return .literal c else refuse

/-- One end of a range, or a whole item of a class. -/
def classItem : Reader Escape := do
  let c ← next
  if c == '\\' then escape else return .literal c

/-- An item or a range of a bracketed class. -/
def classRange : Reader ClassSet := do
  let first ← classItem
  skipBlank
  let plain : Reader ClassSet := match first with
    | .literal c => pure (.char c)
    | .set s => pure s
    | .look _ => refuse
  match ← rest with
  | [] => refuse
  | '-' :: more =>
    let ahead := if (← flags).verbose then dropComments more.length more else more
    if ahead.head? == some ']' || ahead.head? == some '-' then plain
    else
      setRest more
      skipBlank
      match first, ← classItem with
      | .literal a, .literal b => if a ≤ b then return .range a.toNat b.toNat else refuse
      | _, _ => refuse
  | _ => plain

/-- A class such as `[:alpha:]` inside brackets, if there is one. -/
def asciiItem? (cs : List Char) : Option (ClassSet × List Char) :=
  match cs with
  | '[' :: ':' :: more =>
    let (negated, more) := match more with
      | '^' :: m => (true, m)
      | m => (false, m)
    let name := more.takeWhile (· != ':')
    match more.drop name.length with
    | ':' :: ']' :: after =>
      (asciiClass? (String.ofList name)).map fun p =>
        (if negated then .complement (.test p 96) else .test p 96, after)
    | _ => none
  | _ => none

inductive ClassOp where
  | inter
  | diff
  | symmDiff

def ClassOp.apply : ClassOp → ClassSet → ClassSet → ClassSet
  | inter, a, b => .inter a b
  | diff, a, b => .diff a b
  | symmDiff, a, b => .symmDiff a b

/-- The operand before an operator joined with the one after it. -/
def closeOp (pending : Option (ClassSet × ClassOp)) (s : ClassSet) : ClassSet :=
  match pending with
  | none => s
  | some (lhs, op) => op.apply lhs s

/-- Hyphens and a closing bracket at the beginning of a class stand for themselves. -/
def classStart : Reader ClassSet := do
  let hyphens := (← rest).takeWhile (· == '-')
  skip hyphens.length
  let s := if hyphens.isEmpty then ClassSet.empty else .char '-'
  if hyphens.isEmpty && (← peek?) == some ']' then
    skip 1
    return .char ']'
  return s

mutual

/-- A bracketed class after its opening bracket. -/
def bracketed : Nat → Reader ClassSet
  | 0 => refuse
  | fuel + 1 => do
    skipBlank
    let negated ← accept "^"
    skipBlank
    let s ← classItems fuel none (← classStart)
    return if negated then .complement s else s

/-- Items up to the closing bracket; operators join what stands on their two sides. -/
def classItems : Nat → Option (ClassSet × ClassOp) → ClassSet → Reader ClassSet
  | 0, _, _ => refuse
  | fuel + 1, pending, acc => do
    skipBlank
    match ← rest with
    | [] => refuse
    | ']' :: more => setRest more; return closeOp pending acc
    | '&' :: '&' :: more => setRest more; classItems fuel (some (closeOp pending acc, .inter)) .empty
    | '-' :: '-' :: more => setRest more; classItems fuel (some (closeOp pending acc, .diff)) .empty
    | '~' :: '~' :: more =>
      setRest more
      classItems fuel (some (closeOp pending acc, .symmDiff)) .empty
    | '[' :: more =>
      match asciiItem? ('[' :: more) with
      | some (s, after) => setRest after; classItems fuel pending (.union acc s)
      | none =>
        setRest more
        let s ← bracketed fuel
        classItems fuel pending (.union acc s)
    | _ =>
      let s ← classRange
      classItems fuel pending (.union acc s)

end

/-- One character up to case where case does not count; without Unicode only ASCII letters have one. -/
def literalPattern (f : Flags) (c : Char) : Pattern :=
  if f.ignoreCase && (f.unicode || c.toNat < 128) then
    let orbit := Text.caseOrbit c
    .set (fun d => orbit.contains d && (f.unicode || d.toNat < 128)) 80
  else .set (fun d => d == c) (32 * c.utf8Size)

/-- One character of a set; without Unicode the set has to stay inside ASCII. -/
def setPattern (f : Flags) (s : ClassSet) : Reader Pattern :=
  if f.unicode then return .set (s.holds f.ignoreCase) s.size
  else if s.isAscii then return .set (fun c => c.toNat < 128 && s.holds f.ignoreCase c) s.size
  else refuse

def setFlag (on : Bool) (f : Flags) : Char → Option Flags
  | 'i' => some { f with ignoreCase := on }
  | 'm' => some { f with multiLine := on }
  | 's' => some { f with dotAll := on }
  | 'U' => some { f with swapGreed := on }
  | 'u' => some { f with unicode := on }
  | 'x' => some { f with verbose := on }
  | 'R' => some { f with crlf := on }
  | _ => none

/-- The flags up to a colon or a parenthesis, each at most once; a minus sign turns those after it
off and must be followed by one. -/
def readFlags : List Char → Bool → List Char → Flags → Option (Flags × List Char × List Char)
  | seen, on, ')' :: more, f => if !on && seen.head? == some '-' then none else some (f, seen, ')' :: more)
  | seen, on, ':' :: more, f => if !on && seen.head? == some '-' then none else some (f, seen, ':' :: more)
  | seen, on, '-' :: more, f => if on then readFlags ('-' :: seen) false more f else none
  | seen, on, c :: more, f =>
    if seen.contains c then none
    else match setFlag on f c with
      | some f => readFlags (c :: seen) on more f
      | none => none
  | _, _, [], _ => none

/-- The name of a group, up to its closing angle bracket. -/
def groupName : Reader Unit := do
  let name := (← rest).takeWhile (· != '>')
  let valid := match name with
    | [] => false
    | c :: more => (c == '_' || Text.isAlphabetic c) &&
        more.all fun d => d == '_' || d == '.' || d == '[' || d == ']' || Text.isAlphabetic d || isNumber d
  if !valid || ((← rest).drop name.length).isEmpty then refuse
  let s := String.ofList name
  if (← get).names.contains s then refuse
  skip (name.length + 1)
  modify fun st => { st with names := s :: st.names }

/-- A number in a counted repetition, with blanks around it. -/
def countNumber : Reader (Option Nat) := do
  setRest ((← rest).dropWhile Text.isBlankChar)
  let digits := (← rest).takeWhile Char.isDigit
  skip digits.length
  setRest ((← rest).dropWhile Text.isBlankChar)
  match Text.decimal? digits with
  | some n => if n < bound32 then return some n else refuse
  | none => return none

/-- The bounds of a counted repetition after its opening brace. -/
def counts : Reader (Nat × Option Nat) := do
  let least ← countNumber
  match ← next with
  | '\x7d' =>
    match least with
    | some n => return (n, some n)
    | none => refuse
  | ',' =>
    match least with
    | none => refuse
    | some n =>
      skipBlank
      if ← accept "\x7d" then return (n, none)
      match ← countNumber with
      | some m => if (← accept "\x7d") && n ≤ m then return (n, some m) else refuse
      | none => refuse
  | _ => refuse

/-- The repetitions that follow an operand. -/
def repetitions : Nat → Pattern → Reader Pattern
  | 0, _ => refuse
  | fuel + 1, p => do
    skipBlank
    let bounds : Option (Nat × Option Nat) ← match ← peek? with
      | some '*' => skip 1; pure (some (0, none))
      | some '+' => skip 1; pure (some (1, none))
      | some '?' => skip 1; pure (some (0, some 1))
      | some '\x7b' => skip 1; some <$> counts
      | _ => pure none
    match bounds with
    | none => return p
    | some (least, most) =>
      let lazy ← accept "?"
      repetitions fuel (.rep least most (lazy == (← flags).swapGreed) p)

/-- A pattern of one position or character, no group. -/
def primitive (c : Char) : Reader Pattern := do
  let f ← flags
  match c with
  | '.' =>
    if !f.unicode then refuse
    else if f.dotAll then return .set (fun _ => true) 1000
    else if f.crlf then return .set (fun c => c != '\n' && c != '\r') 1000
    else return .set (fun c => c != '\n') 1000
  | '^' => return .look (if f.multiLine then .lineStart f.crlf else .textStart)
  | '$' => return .look (if f.multiLine then .lineEnd f.crlf else .textEnd)
  | '\\' =>
    match ← escape with
    | .literal c => return literalPattern f c
    | .set s => setPattern f s
    | .look l => return .look l
  | c => return literalPattern f c

def maxDepth : Nat := 250

mutual

/-- Alternatives, up to the end or a closing parenthesis. -/
def alternatives : Nat → Reader Pattern
  | 0 => refuse
  | fuel + 1 => do
    let first ← sequence fuel .empty
    if ← accept "|" then return .alt first (← alternatives fuel)
    return first

/-- What follows `before` in the same alternative. -/
def sequence : Nat → Pattern → Reader Pattern
  | 0, _ => refuse
  | fuel + 1, before => do
    skipBlank
    match ← peek? with
    | none | some '|' | some ')' => return before
    | some '*' | some '+' | some '?' | some '\x7b' => refuse
    | some '(' =>
      skip 1
      match ← group fuel with
      | none => sequence fuel before
      | some p => sequence fuel (.cat before (← repetitions fuel p))
    | some '[' =>
      skip 1
      let s ← bracketed fuel
      let p ← setPattern (← flags) s
      sequence fuel (.cat before (← repetitions fuel p))
    | some c =>
      skip 1
      let p ← primitive c
      sequence fuel (.cat before (← repetitions fuel p))

/-- A group after its opening parenthesis; one that only sets flags has no pattern. -/
def group : Nat → Reader (Option Pattern)
  | 0 => refuse
  | fuel + 1 => do
    let outer ← flags
    modify fun s => { s with depth := s.depth + 1 }
    if maxDepth < (← get).depth then refuse
    skipBlank
    let body (index : Option Nat) : Reader (Option Pattern) := do
      let p ← alternatives fuel
      if !(← accept ")") then refuse
      setFlags outer
      modify fun s => { s with depth := s.depth - 1 }
      match index with
      | none => return some p
      | some i => return some (.group i p)
    let numbered : Reader (Option Pattern) := do
      let i := (← get).groups + 1
      modify fun s => { s with groups := i }
      body (some i)
    match ← rest with
    | '?' :: '=' :: _ | '?' :: '!' :: _ | '?' :: '<' :: '=' :: _ | '?' :: '<' :: '!' :: _ => refuse
    | '?' :: 'P' :: '<' :: more => setRest more; groupName; numbered
    | '?' :: '<' :: more => setRest more; groupName; numbered
    | '?' :: more =>
      match readFlags [] true more outer with
      | none => refuse
      | some (_, [], ')' :: _) => refuse
      | some (f, _, ')' :: after) =>
        setRest after
        setFlags f
        modify fun s => { s with depth := s.depth - 1 }
        return none
      | some (f, _, ':' :: after) => setRest after; setFlags f; body none
      | some _ => refuse
    | _ => numbered

end

end Reader

/-- The tree of a whole pattern and the number of its groups. -/
def read? (text : String) : Option (Pattern × Nat) :=
  let cs := text.toList
  match (Reader.alternatives (4 * cs.length + 16)).run { rest := cs } with
  | some (p, s) => if s.rest.isEmpty then some (p, s.groups) else none
  | none => none

end CodeAudit.Regex
