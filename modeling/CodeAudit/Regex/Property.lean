import CodeAudit.Text.Category
import CodeAudit.Text.Script
import CodeAudit.Text.Case
import CodeAudit.Text.Basic

/-!
The named properties of characters that a pattern can refer to. Names are compared without regard
to case, blanks, hyphens and underscores, and a leading `is` is dropped.
-/
namespace CodeAudit.Regex

open Text (GeneralCategory)

/-- A name as it is looked up. -/
def normalName (s : String) : String :=
  let cs := (s.toList.filter fun c => !(c == ' ' || c == '-' || c == '_')).map Text.asciiLowerChar
  match cs with
  | 'i' :: 's' :: rest => if rest == ['c'] || rest == [] then String.ofList cs else String.ofList rest
  | _ => String.ofList cs

def isPunctuation (c : Char) : Bool :=
  Text.isAny [.connectorPunctuation, .dashPunctuation, .openPunctuation, .closePunctuation,
    .initialPunctuation, .finalPunctuation, .otherPunctuation] c

def isSymbol (c : Char) : Bool :=
  Text.isAny [.mathSymbol, .currencySymbol, .modifierSymbol, .otherSymbol] c

def isSeparator (c : Char) : Bool :=
  Text.isAny [.spaceSeparator, .lineSeparator, .paragraphSeparator] c

def isNumber (c : Char) : Bool := Text.isAny [.decimalNumber, .letterNumber, .otherNumber] c

def isCasedLetter (c : Char) : Bool :=
  Text.isAny [.uppercaseLetter, .lowercaseLetter, .titlecaseLetter] c

def isOtherCategory (c : Char) : Bool := Text.isAny [.control, .format, .privateUse, .unassigned] c

/-- The general categories and their groups, by code and by name. -/
def categoryTable : List (List String × (Char → Bool)) :=
  [(["lu", "uppercaseletter"], GeneralCategory.uppercaseLetter.set.contains),
   (["ll", "lowercaseletter"], GeneralCategory.lowercaseLetter.set.contains),
   (["lt", "titlecaseletter"], GeneralCategory.titlecaseLetter.set.contains),
   (["lc", "casedletter"], isCasedLetter),
   (["lm", "modifierletter"], GeneralCategory.modifierLetter.set.contains),
   (["lo", "otherletter"], GeneralCategory.otherLetter.set.contains),
   (["l", "letter"], Text.isLetter),
   (["mn", "nonspacingmark"], GeneralCategory.nonspacingMark.set.contains),
   (["mc", "spacingmark"], GeneralCategory.spacingMark.set.contains),
   (["me", "enclosingmark"], GeneralCategory.enclosingMark.set.contains),
   (["m", "mark", "combiningmark"], Text.isMark),
   (["nd", "decimalnumber", "digit"], GeneralCategory.decimalNumber.set.contains),
   (["nl", "letternumber"], GeneralCategory.letterNumber.set.contains),
   (["no", "othernumber"], GeneralCategory.otherNumber.set.contains),
   (["n", "number"], isNumber),
   (["pc", "connectorpunctuation"], GeneralCategory.connectorPunctuation.set.contains),
   (["pd", "dashpunctuation"], GeneralCategory.dashPunctuation.set.contains),
   (["ps", "openpunctuation"], GeneralCategory.openPunctuation.set.contains),
   (["pe", "closepunctuation"], GeneralCategory.closePunctuation.set.contains),
   (["pi", "initialpunctuation"], GeneralCategory.initialPunctuation.set.contains),
   (["pf", "finalpunctuation"], GeneralCategory.finalPunctuation.set.contains),
   (["po", "otherpunctuation"], GeneralCategory.otherPunctuation.set.contains),
   (["p", "punctuation", "punct"], isPunctuation),
   (["sm", "mathsymbol"], GeneralCategory.mathSymbol.set.contains),
   (["sc", "currencysymbol"], GeneralCategory.currencySymbol.set.contains),
   (["sk", "modifiersymbol"], GeneralCategory.modifierSymbol.set.contains),
   (["so", "othersymbol"], GeneralCategory.otherSymbol.set.contains),
   (["s", "symbol"], isSymbol),
   (["zs", "spaceseparator"], GeneralCategory.spaceSeparator.set.contains),
   (["zl", "lineseparator"], GeneralCategory.lineSeparator.set.contains),
   (["zp", "paragraphseparator"], GeneralCategory.paragraphSeparator.set.contains),
   (["z", "separator"], isSeparator),
   (["cc", "control", "cntrl"], GeneralCategory.control.set.contains),
   (["cf", "format"], GeneralCategory.format.set.contains),
   (["co", "privateuse"], GeneralCategory.privateUse.set.contains),
   (["cn", "unassigned"], GeneralCategory.unassigned.set.contains),
   (["cs", "surrogate"], fun _ => false),
   (["c", "other"], isOtherCategory),
   (["any"], fun _ => true),
   (["ascii"], fun c => c.toNat < 128),
   (["assigned"], fun c => !GeneralCategory.unassigned.set.contains c)]

def isHexDigit (c : Char) : Bool :=
  c.isDigit || ('a' ≤ c && c ≤ 'f') || ('A' ≤ c && c ≤ 'F')

def binaryTable : List (List String × (Char → Bool)) :=
  [(["alphabetic", "alpha"], Text.isAlphabetic),
   (["uppercase", "upper"], Text.isUppercase),
   (["lowercase", "lower"], Text.isLowercase),
   (["whitespace", "wspace", "space"], Text.isBlankChar),
   (["cased"], Text.isCased),
   (["asciihexdigit", "ahex"], isHexDigit),
   (["xidstart", "xids"], Text.isIdStart),
   (["xidcontinue", "xidc"], Text.isIdContinue),
   (["idstart", "ids"], fun c => Text.isIdStart c || Text.notIdStart.contains c),
   (["idcontinue", "idc"], fun c => Text.isIdContinue c || Text.notIdStart.contains c),
   (["joincontrol", "joinc"], fun c => c.toNat == 0x200C || c.toNat == 0x200D)]

def scriptAliases : List (String × String) :=
  [("arab", "arabic"), ("armn", "armenian"), ("beng", "bengali"), ("bopo", "bopomofo"),
   ("cyrl", "cyrillic"), ("deva", "devanagari"), ("ethi", "ethiopic"), ("geor", "georgian"),
   ("grek", "greek"), ("hang", "hangul"), ("hani", "han"), ("hebr", "hebrew"),
   ("hira", "hiragana"), ("kana", "katakana"), ("khmr", "khmer"), ("laoo", "lao"),
   ("latn", "latin"), ("mong", "mongolian"), ("mymr", "myanmar"), ("taml", "tamil"),
   ("telu", "telugu"), ("tibt", "tibetan"), ("zinh", "inherited"), ("qaai", "inherited"),
   ("zyyy", "common")]

def lookUp? (table : List (List String × (Char → Bool))) (name : String) : Option (Char → Bool) :=
  (table.find? fun e => e.1.contains name).map (·.2)

def script? (name : String) : Option (Char → Bool) :=
  (Text.Script.get? ((scriptAliases.lookup name).getD name)).map fun s => s.contains

/-- The property of one name: a binary property, a category or a script. -/
def property? (name : String) : Option (Char → Bool) :=
  let n := normalName name
  let binary := if n = "cf" ∨ n = "sc" ∨ n = "lc" then none else lookUp? binaryTable n
  (binary.or (lookUp? categoryTable n)).or (script? n)

/-- The property given by its kind and a value. -/
def propertyOf? (kind value : String) : Option (Char → Bool) :=
  let v := normalName value
  match normalName kind with
  | "generalcategory" | "gc" => lookUp? categoryTable v
  | "script" | "sc" | "scriptextensions" | "scx" => script? v
  | _ => none

/-- The bracketed ASCII classes. -/
def asciiClass? : String → Option (Char → Bool)
  | "alnum" => some Char.isAlphanum
  | "alpha" => some Char.isAlpha
  | "ascii" => some fun c => c.toNat < 128
  | "blank" => some fun c => c == ' ' || c == '\t'
  | "cntrl" => some fun c => c.toNat < 32 || c.toNat == 127
  | "digit" => some Char.isDigit
  | "graph" => some fun c => 33 ≤ c.toNat && c.toNat ≤ 126
  | "lower" => some Char.isLower
  | "print" => some fun c => 32 ≤ c.toNat && c.toNat ≤ 126
  | "punct" => some fun c => 33 ≤ c.toNat && c.toNat ≤ 126 && !c.isAlphanum
  | "space" => some fun c => c == ' ' || (9 ≤ c.toNat && c.toNat ≤ 13)
  | "upper" => some Char.isUpper
  | "word" => some fun c => c.isAlphanum || c == '_'
  | "xdigit" => some isHexDigit
  | _ => none

end CodeAudit.Regex
