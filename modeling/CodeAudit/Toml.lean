import CodeAudit.Json
import CodeAudit.Text.Basic
import CodeAudit.Text.Ranges

/-!
TOML documents, read into JSON values; a date or time is read as an empty object, which is no value
that a setting could have. Tables may be opened once, and a key may be given once.
-/
namespace CodeAudit.Toml

/-- How a table came about, which decides how it may be extended. -/
inductive Origin where
  /-- Named by a header of its own. -/
  | header
  /-- Passed through by the header of a table inside it. -/
  | implied
  /-- Passed through by a dotted key. -/
  | dotted
deriving DecidableEq, Repr

inductive Entry where
  | value (v : Json)
  | table (origin : Origin) (entries : List (String × Entry))
  | tables (items : List (List (String × Entry)))
deriving Inhabited

abbrev Entries := List (String × Entry)

namespace Entry

mutual

def toJson : Entry → Json
  | value v => v
  | table _ entries => .obj (fieldsJson entries)
  | tables items => .arr (itemsJson items)

def fieldsJson : List (String × Entry) → List (String × Json)
  | [] => []
  | (k, e) :: rest => Json.insertField k (toJson e) (fieldsJson rest)

def itemsJson : List (List (String × Entry)) → List Json
  | [] => []
  | entries :: rest => .obj (fieldsJson entries) :: itemsJson rest

end

end Entry

def put (entries : Entries) (k : String) (e : Entry) : Entries :=
  match entries with
  | [] => [(k, e)]
  | (k', e') :: rest => if k = k' then (k, e) :: rest else (k', e') :: put rest k e

/-- Gives a value to a dotted key; tables in between may be extended unless a header named them. -/
def assign (v : Json) : List String → Entries → Option Entries
  | [], _ => none
  | [k], entries => if (entries.lookup k).isSome then none else some (entries ++ [(k, .value v)])
  | k :: rest, entries =>
    match entries.lookup k with
    | none => (assign v rest []).map fun inner => entries ++ [(k, .table .dotted inner)]
    | some (.table .header _) => none
    | some (.table origin inner) => (assign v rest inner).map fun inner => put entries k (.table origin inner)
    | some _ => none

/-- Opens the table of a header. -/
def openTable : List String → Entries → Option Entries
  | [], _ => none
  | [k], entries =>
    match entries.lookup k with
    | none => some (entries ++ [(k, .table .header [])])
    | some (.table .implied inner) => some (put entries k (.table .header inner))
    | some _ => none
  | k :: rest, entries =>
    match entries.lookup k with
    | none => (openTable rest []).map fun inner => entries ++ [(k, .table .implied inner)]
    | some (.table origin inner) => (openTable rest inner).map fun inner => put entries k (.table origin inner)
    | some (.tables items) =>
      match items.getLast? with
      | none => none
      | some last => (openTable rest last).map fun inner => put entries k (.tables (items.dropLast ++ [inner]))
    | some (.value _) => none

/-- Opens a new item of the array of tables of a header. -/
def openItem : List String → Entries → Option Entries
  | [], _ => none
  | [k], entries =>
    match entries.lookup k with
    | none => some (entries ++ [(k, .tables [[]])])
    | some (.tables items) => some (put entries k (.tables (items ++ [[]])))
    | some _ => none
  | k :: rest, entries =>
    match entries.lookup k with
    | none => (openItem rest []).map fun inner => entries ++ [(k, .table .implied inner)]
    | some (.table origin inner) => (openItem rest inner).map fun inner => put entries k (.table origin inner)
    | some (.tables items) =>
      match items.getLast? with
      | none => none
      | some last => (openItem rest last).map fun inner => put entries k (.tables (items.dropLast ++ [inner]))
    | some (.value _) => none

/-- Applies a change to the table that a path of a header leads to. -/
def inTable (f : Entries → Option Entries) : List String → Entries → Option Entries
  | [], entries => f entries
  | k :: rest, entries =>
    match entries.lookup k with
    | some (.table origin inner) => (inTable f rest inner).map fun inner => put entries k (.table origin inner)
    | some (.tables items) =>
      match items.getLast? with
      | none => none
      | some last => (inTable f rest last).map fun inner => put entries k (.tables (items.dropLast ++ [inner]))
    | _ => none

def isBlank (c : Char) : Bool := c == ' ' || c == '\t'

def skipBlank (cs : List Char) : List Char := cs.dropWhile isBlank

def isControl (c : Char) : Bool := (c.toNat < 32 && c != '\t') || c.toNat == 127

/-- Drops a comment up to the end of its line; other control characters are not allowed in it. -/
def skipComment? (cs : List Char) : Option (List Char) :=
  match cs with
  | '#' :: more =>
    let body := more.takeWhile fun c => c != '\n'
    let body := if body.getLast? == some '\r' then body.dropLast else body
    if body.any isControl then none else some (more.drop body.length)
  | _ => some cs

/-- The end of a line or of the document. -/
def lineEnd? : List Char → Option (List Char)
  | [] => some []
  | '\n' :: more => some more
  | '\r' :: '\n' :: more => some more
  | _ => none

def endOfLine? (cs : List Char) : Option (List Char) :=
  match skipComment? (skipBlank cs) with
  | none => none
  | some rest => lineEnd? rest

/-- Drops blanks, comments and line ends. -/
def skipLines? : Nat → List Char → Option (List Char)
  | 0, cs => some cs
  | fuel + 1, cs =>
    match skipComment? (skipBlank cs) with
    | none => none
    | some ('\n' :: more) => skipLines? fuel more
    | some ('\r' :: '\n' :: more) => skipLines? fuel more
    | some rest => some rest

/-- The character of an escape after its backslash. -/
def escape? : List Char → Option (Char × List Char)
  | 'b' :: rest => some ('\x08', rest)
  | 't' :: rest => some ('\t', rest)
  | 'n' :: rest => some ('\n', rest)
  | 'f' :: rest => some ('\x0c', rest)
  | 'r' :: rest => some ('\r', rest)
  | '"' :: rest => some ('"', rest)
  | '\\' :: rest => some ('\\', rest)
  | 'u' :: rest => hex 4 rest
  | 'U' :: rest => hex 8 rest
  | _ => none
where
  hex (count : Nat) (cs : List Char) : Option (Char × List Char) :=
    let digits := cs.take count
    let n := Text.hexValue digits
    if digits.length < count || digits.any (fun c => (Text.hexDigit? c).isNone) || !n.isValidChar then none
    else some (Char.ofNat n, cs.drop count)

/-- A basic string on one line, after its quote. -/
def basicString : Nat → List Char → List Char → Option (String × List Char)
  | 0, _, _ => none
  | fuel + 1, acc, cs =>
    match cs with
    | '"' :: rest => some (String.ofList acc.reverse, rest)
    | '\\' :: rest =>
      match escape? rest with
      | some (c, rest) => basicString fuel (c :: acc) rest
      | none => none
    | c :: rest => if isControl c then none else basicString fuel (c :: acc) rest
    | [] => none

def literalString (cs : List Char) : Option (String × List Char) :=
  let body := cs.takeWhile fun c => c != '\''
  match cs.drop body.length with
  | '\'' :: rest => if body.any isControl then none else some (String.ofList body, rest)
  | _ => none

/-- Quotes at the end of a text of several lines: two more than the closing three belong to it. -/
def closingQuotes (q : Char) (acc cs : List Char) : Option (String × List Char) :=
  let run := (cs.takeWhile (· == q)).length
  if run < 3 || 5 < run then none
  else some (String.ofList (acc.reverse ++ List.replicate (run - 3) q), cs.drop run)

/-- A basic string over several lines, after its three quotes. -/
def multiBasic : Nat → List Char → List Char → Option (String × List Char)
  | 0, _, _ => none
  | fuel + 1, acc, cs =>
    match cs with
    | [] => none
    | '"' :: '"' :: '"' :: rest => closingQuotes '"' acc ('"' :: '"' :: '"' :: rest)
    | '\\' :: rest =>
      match lineEnd? (skipBlank rest) with
      | some more =>
        if rest.isEmpty then none
        else multiBasic fuel acc (more.dropWhile fun c => c == ' ' || c == '\t' || c == '\n' || c == '\r')
      | none =>
        match escape? rest with
        | some (c, rest) => multiBasic fuel (c :: acc) rest
        | none => none
    | '\r' :: '\n' :: rest => multiBasic fuel ('\n' :: acc) rest
    | c :: rest => if isControl c && c != '\n' then none else multiBasic fuel (c :: acc) rest

/-- A literal string over several lines, after its three quotes. -/
def multiLiteral : Nat → List Char → List Char → Option (String × List Char)
  | 0, _, _ => none
  | fuel + 1, acc, cs =>
    match cs with
    | [] => none
    | '\'' :: '\'' :: '\'' :: rest => closingQuotes '\'' acc ('\'' :: '\'' :: '\'' :: rest)
    | '\r' :: '\n' :: rest => multiLiteral fuel ('\n' :: acc) rest
    | c :: rest => if isControl c && c != '\n' then none else multiLiteral fuel (c :: acc) rest

/-- A line end right after the opening quotes is not part of the text. -/
def dropFirstLineEnd : List Char → List Char
  | '\n' :: rest => rest
  | '\r' :: '\n' :: rest => rest
  | cs => cs

def string? (cs : List Char) : Option (String × List Char) :=
  match cs with
  | '"' :: '"' :: '"' :: rest => multiBasic (rest.length + 1) [] (dropFirstLineEnd rest)
  | '\'' :: '\'' :: '\'' :: rest => multiLiteral (rest.length + 1) [] (dropFirstLineEnd rest)
  | '"' :: rest => basicString (rest.length + 1) [] rest
  | '\'' :: rest => literalString rest
  | _ => none

def isBareKey (c : Char) : Bool := c.isAlphanum || c == '_' || c == '-'

def simpleKey? (cs : List Char) : Option (String × List Char) :=
  match cs with
  | '"' :: rest => basicString (rest.length + 1) [] rest
  | '\'' :: rest => literalString rest
  | _ =>
    let key := cs.takeWhile isBareKey
    if key.isEmpty then none else some (String.ofList key, cs.drop key.length)

/-- A key, dotted or not, with the blanks after it. -/
def key? : Nat → List Char → Option (List String × List Char)
  | 0, _ => none
  | fuel + 1, cs =>
    match simpleKey? (skipBlank cs) with
    | none => none
    | some (k, rest) =>
      match skipBlank rest with
      | '.' :: more => (key? fuel more).map fun (ks, rest) => (k :: ks, rest)
      | rest => some ([k], rest)

/-- Digits in which single underscores may stand between two digits. -/
def digits? (isDigit : Char → Bool) (cs : List Char) : Option (List Char) :=
  let pieces := Text.splitChars '_' cs
  if pieces.all fun p => !p.isEmpty && p.all isDigit then some pieces.flatten else none

def radix? (digits : List Char) (base : Nat) : Nat :=
  digits.foldl (fun n c => base * n + (Text.hexDigit? c).getD 0) 0

/-- Decimal digits without a leading zero. -/
def plainDigits? (cs : List Char) : Option (List Char) :=
  match digits? Char.isDigit cs with
  | some ds => if ds.head? == some '0' && 1 < ds.length then none else some ds
  | none => none

def integer? (cs : List Char) : Option Int :=
  match cs with
  | '0' :: 'x' :: ds => (digits? (fun c => (Text.hexDigit? c).isSome) ds).map fun d => radix? d 16
  | '0' :: 'o' :: ds => (digits? (fun c => '0' ≤ c && c ≤ '7') ds).map fun d => radix? d 8
  | '0' :: 'b' :: ds => (digits? (fun c => c == '0' || c == '1') ds).map fun d => radix? d 2
  | '-' :: ds => (plainDigits? ds).map fun d => -(Decimal.digitsValue d : Int)
  | '+' :: ds => (plainDigits? ds).map fun d => (Decimal.digitsValue d : Int)
  | ds => (plainDigits? ds).map fun d => (Decimal.digitsValue d : Int)

def float? (cs : List Char) : Option Float :=
  let (negative, body) := match cs with
    | '-' :: rest => (true, rest)
    | '+' :: rest => (false, rest)
    | _ => (false, cs)
  if body == ['i', 'n', 'f'] then some (if negative then -(1.0 / 0.0) else 1.0 / 0.0)
  else if body == ['n', 'a', 'n'] then some (0.0 / 0.0)
  else
    let mantissa := body.takeWhile fun c => c != 'e' && c != 'E'
    let tail := body.drop mantissa.length
    let (whole, fraction, pointed) := match Text.cutChars? ['.'] mantissa with
      | some (a, b) => (a, b, true)
      | none => (mantissa, [], false)
    let exponent := match tail with
      | [] => some 0
      | e :: '+' :: ds => (digits? Char.isDigit ds).bind fun d => Decimal.exponent? (e :: d)
      | e :: '-' :: ds => (digits? Char.isDigit ds).bind fun d => Decimal.exponent? (e :: '-' :: d)
      | e :: ds => (digits? Char.isDigit ds).bind fun d => Decimal.exponent? (e :: d)
    match plainDigits? whole, (if pointed then digits? Char.isDigit fraction else some []), exponent with
    | some w, some f, some e =>
      if !pointed && tail.isEmpty then none
      else some (Decimal.floatOf negative (Decimal.digitsValue (w ++ f)) (e - f.length))
    | _, _, _ => none

def twoDigits? (lo hi : Nat) : List Char → Option (List Char)
  | a :: b :: rest =>
    match Text.decimal? [a, b] with
    | some n => if lo ≤ n && n ≤ hi then some rest else none
    | none => none
  | _ => none

/-- A time of day, seconds with an optional fraction; gives what follows. -/
def time? (cs : List Char) : Option (List Char) := do
  let rest ← twoDigits? 0 23 cs
  let rest ← Text.dropHead? [':'] rest
  let rest ← twoDigits? 0 59 rest
  let rest ← Text.dropHead? [':'] rest
  let rest ← twoDigits? 0 60 rest
  match rest with
  | '.' :: more =>
    let ds := more.takeWhile Char.isDigit
    if ds.isEmpty then none else some (more.drop ds.length)
  | _ => some rest

def daysIn (year month : Nat) : Nat :=
  if month = 2 then if (year % 4 = 0 ∧ year % 100 ≠ 0) ∨ year % 400 = 0 then 29 else 28
  else if month = 4 ∨ month = 6 ∨ month = 9 ∨ month = 11 then 30
  else 31

/-- A calendar date; gives what follows. -/
def date? (cs : List Char) : Option (List Char) := do
  let year ← Text.decimal? (cs.take 4)
  let rest ← Text.dropHead? ['-'] (cs.drop 4)
  let month ← Text.decimal? (rest.take 2)
  let rest ← Text.dropHead? ['-'] (rest.drop 2)
  let day ← Text.decimal? (rest.take 2)
  if (cs.take 4).length = 4 ∧ 1 ≤ month ∧ month ≤ 12 ∧ 1 ≤ day ∧ day ≤ daysIn year month then some (rest.drop 2)
  else none

def zone? (cs : List Char) : Option (List Char) :=
  match cs with
  | [] => some []
  | 'Z' :: rest => some rest
  | 'z' :: rest => some rest
  | s :: rest =>
    if s = '+' ∨ s = '-' then do
      let rest ← twoDigits? 0 23 rest
      let rest ← Text.dropHead? [':'] rest
      twoDigits? 0 59 rest
    else none

/-- Whether the characters are a date, a time, or both. -/
def isDateTime (cs : List Char) : Bool :=
  match date? cs with
  | some [] => true
  | some (sep :: rest) =>
    (sep == 'T' || sep == 't' || sep == ' ') && ((time? rest).bind zone? == some [])
  | none => time? cs == some []

def isScalarChar (c : Char) : Bool := c.isAlphanum || "+-_.:".toList.contains c

/-- Numbers, truth values, dates and times. -/
def scalar? (cs : List Char) : Option (Json × List Char) :=
  let word := cs.takeWhile isScalarChar
  let rest := cs.drop word.length
  let (word, rest) := match date? word, rest with
    | some [], ' ' :: d :: more =>
      if d.isDigit then
        let tail := (d :: more).takeWhile isScalarChar
        (word ++ ' ' :: tail, (d :: more).drop tail.length)
      else (word, rest)
    | _, _ => (word, rest)
  if word == "true".toList then some (.bool true, rest)
  else if word == "false".toList then some (.bool false, rest)
  else match integer? word with
    | some n => some (.int n, rest)
    | none =>
      match float? word with
      | some x => some (.float x, rest)
      | none => if isDateTime word then some (.obj [], rest) else none

mutual

def value? : Nat → List Char → Option (Json × List Char)
  | 0, _ => none
  | fuel + 1, cs =>
    match cs with
    | '"' :: _ | '\'' :: _ => (string? cs).map fun (s, rest) => (.str s, rest)
    | '[' :: rest => (array? fuel [] rest).map fun (items, rest) => (.arr items, rest)
    | '\x7b' :: rest =>
      match skipBlank rest with
      | '\x7d' :: rest => some (.obj [], rest)
      | rest => (inline? fuel [] rest).map fun (entries, rest) => (.obj (Entry.fieldsJson entries), rest)
    | _ => scalar? cs

/-- The items of an array up to its bracket, which may follow a comma. -/
def array? : Nat → List Json → List Char → Option (List Json × List Char)
  | 0, _, _ => none
  | fuel + 1, acc, cs =>
    match skipLines? (cs.length + 1) cs with
    | none => none
    | some (']' :: rest) => some (acc.reverse, rest)
    | some cs =>
      match value? fuel cs with
      | none => none
      | some (v, rest) =>
        match skipLines? (rest.length + 1) rest with
        | some (',' :: rest) => array? fuel (v :: acc) rest
        | some (']' :: rest) => some ((v :: acc).reverse, rest)
        | _ => none

/-- The members of an inline table, all on one line. -/
def inline? : Nat → Entries → List Char → Option (Entries × List Char)
  | 0, _, _ => none
  | fuel + 1, acc, cs =>
    match key? (cs.length + 1) cs with
    | some (key, '=' :: rest) =>
      match value? fuel (skipBlank rest) with
      | none => none
      | some (v, rest) =>
        match assign v key acc with
        | none => none
        | some acc =>
          match skipBlank rest with
          | ',' :: rest => inline? fuel acc rest
          | '\x7d' :: rest => some (acc, rest)
          | _ => none
    | _ => none

end

/-- The document with the table that keys go to. -/
structure Document where
  root : Entries := []
  current : List String := []

/-- One header or one key with its value, up to the end of its line. -/
def statement? (doc : Document) (cs : List Char) : Option (Document × List Char) :=
  match cs with
  | '[' :: '[' :: rest =>
    match key? (rest.length + 1) rest with
    | some (key, ']' :: ']' :: rest) =>
      match openItem key doc.root, endOfLine? rest with
      | some root, some rest => some (⟨root, key⟩, rest)
      | _, _ => none
    | _ => none
  | '[' :: rest =>
    match key? (rest.length + 1) rest with
    | some (key, ']' :: rest) =>
      match openTable key doc.root, endOfLine? rest with
      | some root, some rest => some (⟨root, key⟩, rest)
      | _, _ => none
    | _ => none
  | _ =>
    match key? (cs.length + 1) cs with
    | some (key, '=' :: rest) =>
      match value? (2 * rest.length + 2) (skipBlank rest) with
      | none => none
      | some (v, rest) =>
        match inTable (assign v key) doc.current doc.root, endOfLine? rest with
        | some root, some rest => some ({ doc with root := root }, rest)
        | _, _ => none
    | _ => none

def statements? : Nat → Document → List Char → Option Document
  | 0, _, _ => none
  | fuel + 1, doc, cs =>
    match skipLines? (cs.length + 1) cs with
    | none => none
    | some [] => some doc
    | some cs =>
      match statement? doc cs with
      | none => none
      | some (doc, rest) => statements? fuel doc rest

/-- Reads a document; a byte order mark in front of it is ignored. -/
def parse? (text : String) : Option Json :=
  let cs := text.toList
  let cs := if cs.head? == some (Char.ofNat 0xFEFF) then cs.drop 1 else cs
  (statements? (cs.length + 1) {} cs).map fun doc => .obj (Entry.fieldsJson doc.root)

end CodeAudit.Toml
