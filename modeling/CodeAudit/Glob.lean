import CodeAudit.Digest
import CodeAudit.Regex.Search

/-!
Glob patterns over whole paths: `**` is special as a whole component, and there are classes,
alternatives and escapes; whether `*` and `?` also match a slash can be chosen. A path is matched
byte by byte.
-/
namespace CodeAudit

inductive GlobToken where
  | literal (c : Char)
  | any
  | zeroOrMore
  | recursiveHead
  | recursiveTail
  | recursiveMiddle
  | charClass (negated : Bool) (ranges : List (Char × Char))
  | alternates (branches : List (List GlobToken))
deriving Inhabited

inductive GlobError where
  | unclosedClass
  | invalidRange (lo hi : Char)
  | unopenedAlternates
  | unclosedAlternates
  | danglingEscape
deriving DecidableEq, Repr, Inhabited

def GlobError.reason : GlobError → String
  | unclosedClass => "unclosed character class; missing ']'"
  | invalidRange lo hi => s!"invalid range; '{lo}' > '{hi}'"
  | unopenedAlternates => "unopened alternate group; missing '\x7b' (maybe escape '\x7d' with '[\x7d]'?)"
  | unclosedAlternates => "unclosed alternate group; missing '\x7d' (maybe escape '\x7b' with '[\x7b]'?)"
  | danglingEscape => "dangling '\\'"

/-- The reason together with the pattern. -/
def GlobError.message (glob : String) (e : GlobError) : String :=
  s!"error parsing glob '{glob}': {e.reason}"

structure GlobOptions where
  /-- Whether `*` and `?` also match a slash. -/
  crossesSlash : Bool := true
  /-- Whether a bracket that is never closed stands for itself. -/
  allowsOpenClass : Bool := false
deriving DecidableEq, Repr, Inhabited

structure Glob where
  text : String
  tokens : List GlobToken
  program : Regex

namespace Glob

/-- The reader's state: the branches that are open, innermost first, each with its tokens last
first; how many branches there were when each open group began; and the character before. -/
structure State where
  branches : List (List GlobToken) := [[]]
  opened : List Nat := []
  previous : Option Char := none

def State.push (s : State) (t : GlobToken) : State :=
  match s.branches with
  | [] => { s with branches := [[t]] }
  | b :: rest => { s with branches := (t :: b) :: rest }

def State.stars (s : State) : State := (s.push .zeroOrMore).push .zeroOrMore

/-- Replaces the separator before a `**` by the token for it; a token for another `**` stays. -/
def State.recursive (s : State) (t : GlobToken) : State :=
  match s.branches with
  | (.recursiveHead :: b) :: rest => { s with branches := (.recursiveHead :: b) :: rest }
  | (.recursiveTail :: b) :: rest => { s with branches := (.recursiveTail :: b) :: rest }
  | (_ :: b) :: rest => { s with branches := (t :: b) :: rest }
  | _ => s

/-- Reads the rest of a class; `seen` holds its ranges so far, last first. -/
def readClass (first inRange : Bool) (seen : List (Char × Char)) :
    List Char → Except GlobError (List (Char × Char) × List Char)
  | [] => .error .unclosedClass
  | c :: rest =>
    if c = ']' ∧ !first then
      .ok ((if inRange then ('-', '-') :: seen else seen).reverse, rest)
    else if c = '-' ∧ !first ∧ !inRange then readClass false true seen rest
    else if inRange then
      match seen with
      | (lo, _) :: more =>
        if c < lo then .error (.invalidRange lo c) else readClass false false ((lo, c) :: more) rest
      | [] => readClass false false [(c, c)] rest
    else readClass false false ((c, c) :: seen) rest

/-- What `**` stands for, after its two stars; gives the rest that is left to read and the
character before it. -/
def readRecursive (s : State) (before : Option Char) (rest : List Char) : State × List Char × Option Char :=
  let empty := (s.branches.headD []).isEmpty
  let nested := 1 < s.branches.length
  let atStart := before == some '/' || (nested && (before == some ',' || before == some '\x7b'))
  match rest with
  | [] =>
    if empty then (s.push .recursiveHead, [], some '*')
    else if atStart then (s.recursive .recursiveTail, [], some '*')
    else (s.stars, [], some '*')
  | c :: more =>
    if empty then
      if c = '/' then (s.push .recursiveHead, more, some c) else (s.stars, rest, some '*')
    else if !atStart then (s.stars, rest, some '*')
    else if (c = ',' ∨ c = '\x7d') ∧ nested then (s.recursive .recursiveTail, rest, some '*')
    else if c = '/' then (s.recursive .recursiveMiddle, more, some c)
    else (s.stars, rest, some '*')

/-- Closes a group: its branches become one token of the branch around it. -/
def closeGroup (s : State) : Except GlobError State :=
  match s.opened with
  | [] => .error .unopenedAlternates
  | n :: opened =>
    let inner := (s.branches.take (s.branches.length - n)).reverse.map List.reverse
    let outer := s.branches.drop (s.branches.length - n)
    .ok ({ s with branches := outer, opened := opened }.push (.alternates inner))

def readTokens (options : GlobOptions) : Nat → State → List Char → Except GlobError State
  | 0, s, _ => .ok s
  | _, s, [] => .ok s
  | fuel + 1, s, c :: rest =>
    let next (s : State) := readTokens options fuel { s with previous := some c } rest
    match c with
    | '?' => next (s.push .any)
    | '*' =>
      match rest with
      | '*' :: more =>
        let (s, rest, previous) := readRecursive s s.previous more
        readTokens options fuel { s with previous := previous } rest
      | _ => next (s.push .zeroOrMore)
    | '[' =>
      let (negated, body) := match rest with
        | '!' :: more => (true, more)
        | '^' :: more => (true, more)
        | _ => (false, rest)
      match readClass true false [] body with
      | .error e =>
        if options.allowsOpenClass && e = .unclosedClass then next (s.push (.literal '[')) else .error e
      | .ok (ranges, rest) =>
        readTokens options fuel { s.push (.charClass negated ranges) with previous := some ']' } rest
    | '\x7b' => next { s with opened := s.branches.length :: s.opened, branches := [] :: s.branches }
    | '\x7d' =>
      match closeGroup s with
      | .error e => .error e
      | .ok s => next s
    | ',' => if s.opened.isEmpty then next (s.push (.literal ',')) else next { s with branches := [] :: s.branches }
    | '\\' =>
      match rest with
      | [] => .error .danglingEscape
      | d :: more => readTokens options fuel { s.push (.literal d) with previous := some d } more
    | _ => next (s.push (.literal c))

/-- A byte stands for the character of the same number. -/
def byteChars (s : String) : List Char := (Digest.utf8 s).map fun b => Char.ofNat b.toNat

def charBytes (c : Char) : List Nat := (String.utf8EncodeChar c).map fun b => b.toNat

/-- The byte ranges of a class: of a range of characters that take several bytes, only the last
byte of the first and the first byte of the last are joined. -/
def byteRanges (lo hi : Char) : List (Nat × Nat) :=
  let single := fun (b : Nat) => (b, b)
  if lo = hi then (charBytes lo).map single
  else
    let low := charBytes lo
    let high := charBytes hi
    low.dropLast.map single ++ [(low.getLastD 0, high.headD 0)] ++ (high.drop 1).map single

def classTest (negated : Bool) (ranges : List (Nat × Nat)) (c : Char) : Bool :=
  (ranges.any fun (a, b) => a ≤ c.toNat && c.toNat ≤ b) != negated

open Regex (Pattern)

def bytePattern (n : Nat) : Pattern := .set fun c => c.toNat == n

def anyBytes : Pattern := .rep 0 none true (.set fun _ => true)

def slash : Pattern := .set fun c => c == '/'

/-- One after the other; none stands for nothing at all. -/
def inSequence : Option Pattern → Option Pattern → Option Pattern
  | none, q => q
  | p, none => p
  | some p, some q => some (.cat p q)

/-- One or the other; what stands for nothing at all is no choice. -/
def inChoice : Option Pattern → Option Pattern → Option Pattern
  | none, q => q
  | p, none => p
  | some p, some q => some (.alt p q)

/-- What a star or a question mark stands for, as far as one byte is concerned. -/
def wildcard (options : GlobOptions) : Pattern := .set fun c => options.crossesSlash || c != '/'

mutual

def tokenPattern (options : GlobOptions) : GlobToken → Option Pattern
  | .literal c => some ((charBytes c).foldr (fun b p => .cat (bytePattern b) p) .empty)
  | .any => some (wildcard options)
  | .zeroOrMore => some (.rep 0 none true (wildcard options))
  | .recursiveHead => some (.alt (.rep 0 (some 1) true slash) (.cat anyBytes slash))
  | .recursiveTail => some (.cat slash anyBytes)
  | .recursiveMiddle => some (.alt slash (.cat slash (.cat anyBytes slash)))
  | .charClass negated ranges =>
    some (.set (classTest negated (ranges.flatMap fun (lo, hi) => byteRanges lo hi)))
  | .alternates branches => branchPattern options branches

def tokensPattern (options : GlobOptions) : List GlobToken → Option Pattern
  | [] => none
  | t :: rest => inSequence (tokenPattern options t) (tokensPattern options rest)

def branchPattern (options : GlobOptions) : List (List GlobToken) → Option Pattern
  | [] => none
  | b :: rest => inChoice (tokensPattern options b) (branchPattern options rest)

end

/-- The pattern of a whole path; a lone `**` matches everything. -/
def wholePattern (options : GlobOptions) : List GlobToken → Pattern
  | [.recursiveHead] => .empty
  | tokens => .cat (.look .textStart) (.cat ((tokensPattern options tokens).getD .empty) (.look .textEnd))

def parseWith (options : GlobOptions) (text : String) : Except GlobError Glob :=
  match readTokens options (text.length + 1) {} text.toList with
  | .error e => .error e
  | .ok s =>
    match s.branches with
    | [tokens] =>
      let tokens := tokens.reverse
      .ok ⟨text, tokens, ⟨Regex.Program.of (wholePattern options tokens) 0⟩⟩
    | _ => .error .unclosedAlternates

def parse (text : String) : Except GlobError Glob := parseWith {} text

/-- Whether the whole path matches. -/
def isMatch (g : Glob) (path : String) : Bool :=
  (g.program.findFrom? (byteChars path).toArray 0).isSome

/-- The literal tokens as a text, if all are literal. -/
def literalText? : List GlobToken → Option (List Char)
  | [] => some []
  | .literal c :: rest => (literalText? rest).map (c :: ·)
  | _ => none

/-- A pattern that is only compared with the file name of a path or with its extension. A path that
ends in a component of two dots has neither. -/
def needsFileName : List GlobToken → Bool
  | .recursiveHead :: rest =>
    match literalText? rest with
    | some cs => !cs.isEmpty && !cs.contains '/'
    | none => endsInDot (.recursiveHead :: rest)
  | tokens => (literalText? tokens).isNone && endsInDot tokens
where
  /-- An extension of a dot alone, where nothing but the extension or the whole pattern decides. -/
  endsInDot (tokens : List GlobToken) : Bool :=
    match tokens.reverse with
    | .literal '.' :: before =>
      match before with
      | [.zeroOrMore] => true
      | [.zeroOrMore, .recursiveHead] => true
      | _ =>
        let body := match tokens with
          | .recursiveHead :: rest => rest
          | all => all
        let body := match body with
          | .zeroOrMore :: rest => rest
          | all => all
        (literalText? body).isNone
    | _ => false

/-- Whether a path matches as a member of a set of globs. -/
def isMatchInSet (g : Glob) (path : String) : Bool :=
  g.isMatch path && !(needsFileName g.tokens && (Text.splitOn path '/').getLast? == some "..")

end Glob
end CodeAudit
