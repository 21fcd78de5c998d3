/-!
Operations on text. Everything is defined on lists of characters and lifted to strings; a line
ends at a line feed, and one carriage return right before the line feed belongs to the line end.
-/
namespace CodeAudit.Text

/-- A predicate on strings stated on their characters. -/
abbrev Chars := List Char

/-- The characters with the property `White_Space`. -/
def isBlankChar (c : Char) : Bool :=
  let n := c.toNat
  (9 ≤ n && n ≤ 13) || n == 32 || n == 0x85 || n == 0xA0 || n == 0x1680 ||
    (0x2000 ≤ n && n ≤ 0x200A) || n == 0x2028 || n == 0x2029 || n == 0x202F || n == 0x205F ||
    n == 0x3000

/-- The pieces between the occurrences of `sep`; there is always at least one piece. -/
def splitChars (sep : Char) : Chars → List Chars
  | [] => [[]]
  | c :: rest =>
    if c = sep then [] :: splitChars sep rest
    else match splitChars sep rest with
      | [] => [[c]]
      | piece :: pieces => (c :: piece) :: pieces

theorem splitChars_ne_nil (sep : Char) (cs : Chars) : splitChars sep cs ≠ [] := by
  cases cs with
  | nil => simp [splitChars]
  | cons c rest =>
    unfold splitChars
    split
    · simp
    · split <;> simp

/-- A text that ends a first piece goes on in a second one. -/
theorem splitChars_append_sep (sep : Char) (cs rest : Chars) :
    splitChars sep (cs ++ sep :: rest) = splitChars sep cs ++ splitChars sep rest := by
  induction cs with
  | nil => simp [splitChars]
  | cons x cs ih =>
    rw [List.cons_append, splitChars, splitChars]
    split
    · rw [ih, List.cons_append]
    · rw [ih]
      cases hsplit : splitChars sep cs with
      | nil => exact absurd hsplit (splitChars_ne_nil sep cs)
      | cons piece pieces => rfl

def splitOn (s : String) (sep : Char) : List String :=
  (splitChars sep s.toList).map String.ofList

/-- A piece that was ended by a line feed, without a carriage return at its end. -/
def dropReturn (line : Chars) : Chars :=
  if line.getLast? = some '\r' then line.dropLast else line

/-- Line ends belong to all pieces but the last; an empty last piece is no line. -/
def finishLines : List Chars → List Chars
  | [] => []
  | [last] => if last.isEmpty then [] else [last]
  | piece :: rest => dropReturn piece :: finishLines rest

def lineChars (cs : Chars) : List Chars :=
  finishLines (splitChars '\n' cs)

def lines (s : String) : List String :=
  (lineChars s.toList).map String.ofList

def trimStartChars (cs : Chars) : Chars := cs.dropWhile isBlankChar

def trimEndWhile (p : Char → Bool) (cs : Chars) : Chars := (cs.reverse.dropWhile p).reverse

def trimEndChars (cs : Chars) : Chars := trimEndWhile isBlankChar cs

def trimChars (cs : Chars) : Chars := trimEndChars (trimStartChars cs)

def trimEnd (s : String) : String := String.ofList (trimEndChars s.toList)

def trim (s : String) : String := String.ofList (trimChars s.toList)

/-- Removes the characters of `p` from both ends. -/
def trimMatches (s : String) (p : Char → Bool) : String :=
  String.ofList (trimEndWhile p (s.toList.dropWhile p))

def isBlank (s : String) : Bool := s.toList.all isBlankChar

def startsWith (s head : String) : Bool := head.toList.isPrefixOf s.toList

def endsWith (s tail : String) : Bool := tail.toList.isSuffixOf s.toList

/-- What follows `head`, if the characters begin with it. -/
def dropHead? : (head cs : Chars) → Option Chars
  | [], cs => some cs
  | _ :: _, [] => none
  | h :: head, c :: cs => if h = c then dropHead? head cs else none

def afterHead? (s head : String) : Option String :=
  (dropHead? head.toList s.toList).map String.ofList

def beforeTail? (s tail : String) : Option String :=
  (dropHead? tail.toList.reverse s.toList.reverse).map fun cs => String.ofList cs.reverse

def isInfixOf (part : Chars) : Chars → Bool
  | [] => part.isEmpty
  | c :: rest => part.isPrefixOf (c :: rest) || isInfixOf part rest

def contains (s part : String) : Bool := isInfixOf part.toList s.toList

def containsChar (s : String) (c : Char) : Bool := s.toList.contains c

/-- The characters before and after the first occurrence of `part`. -/
def cutChars? (part : Chars) : Chars → Option (Chars × Chars)
  | [] => if part.isEmpty then some ([], []) else none
  | c :: rest =>
    match dropHead? part (c :: rest) with
    | some after => some ([], after)
    | none => (cutChars? part rest).map fun (before, after) => (c :: before, after)

def cut? (s part : String) : Option (String × String) :=
  (cutChars? part.toList s.toList).map fun (a, b) => (String.ofList a, String.ofList b)

/-- The text before and after the last occurrence of `part`. -/
def cutLast? (s part : String) : Option (String × String) :=
  (cutChars? part.toList.reverse s.toList.reverse).map fun (a, b) =>
    (String.ofList b.reverse, String.ofList a.reverse)

/-- The pieces between the occurrences of a nonempty separator, found from the left. -/
def splitByAux (part : Chars) : Nat → Chars → List Chars
  | 0, cs => [cs]
  | fuel + 1, cs =>
    match cutChars? part cs with
    | none => [cs]
    | some (before, after) => before :: splitByAux part fuel after

def splitBy (s part : String) : List String :=
  (splitByAux part.toList s.toList.length s.toList).map String.ofList

def replaceAll (s part new : String) : String :=
  String.intercalate new (splitBy s part)

/-- The maximal runs of characters outside `sep`, in order. -/
def runsOutside (sep : Char → Bool) (cs : Chars) : List Chars :=
  let step := fun (c : Char) (acc : Chars × List Chars) =>
    if sep c then ([], if acc.1.isEmpty then acc.2 else acc.1 :: acc.2) else (c :: acc.1, acc.2)
  let (open_, done) := cs.foldr step ([], [])
  if open_.isEmpty then done else open_ :: done

/-- The maximal runs of non-blank characters. -/
def words (s : String) : List String :=
  (runsOutside isBlankChar s.toList).map String.ofList

/-- The number of bytes of the UTF-8 encoding. -/
def byteCount : Chars → Nat
  | [] => 0
  | c :: rest => c.utf8Size + byteCount rest

/-- The byte offset of the first character satisfying `p`. -/
def byteIndex? (p : Char → Bool) : Chars → Option Nat
  | [] => none
  | c :: rest => if p c then some 0 else (byteIndex? p rest).map (c.utf8Size + ·)

/-- What is left after `n` bytes; a character that is only partly skipped is dropped whole. -/
def dropBytes : Nat → Chars → Chars
  | 0, cs => cs
  | _, [] => []
  | n + 1, c :: rest => dropBytes (n + 1 - c.utf8Size) rest

/-- The longest run of whole characters within the first `n` bytes. -/
def takeBytes : Nat → Chars → Chars
  | _, [] => []
  | n, c :: rest => if c.utf8Size ≤ n then c :: takeBytes (n - c.utf8Size) rest else []

def join (sep : String) (parts : List String) : String := String.intercalate sep parts

/-- A natural number in decimal digits only, no sign and no separators. -/
def decimal? (cs : Chars) : Option Nat :=
  if cs.isEmpty || cs.any (fun c => !c.isDigit) then none
  else some (cs.foldl (fun n c => 10 * n + (c.toNat - '0'.toNat)) 0)

/-- The order of texts is the order of their code points. -/
def leBool (a b : String) : Bool := !(b < a : Bool)

def sorted (xs : List String) : List String := xs.mergeSort leBool

/-- Sorted, each text once. -/
def sortedDistinct (xs : List String) : List String := (sorted xs).eraseReps

def repeatText (n : Nat) (s : String) : String := String.join (List.replicate n s)

end CodeAudit.Text
