import CodeAudit.Text.Category

/-!
A text between double quotes with escapes for everything that would not show: quotes, backslashes,
control characters, separators, marks that join the character before them, and code points without
a character.
-/
namespace CodeAudit.Text

/-- Marks and letters that extend the character before them. -/
def extendsPrevious (c : Char) : Bool :=
  isAny [.nonspacingMark, .enclosingMark] c ||
    [0x09BE, 0x09D7, 0x0B3E, 0x0B57, 0x0BBE, 0x0BD7, 0x0CC2, 0x0CD5, 0x0CD6, 0x0D3E, 0x0D57, 0x0DCF,
     0x0DDF, 0x1B35, 0x200C, 0x302E, 0x302F, 0xFF9E, 0xFF9F].contains c.toNat

def isVisible (c : Char) : Bool :=
  c == ' ' || !isAny [.control, .format, .privateUse, .unassigned, .lineSeparator,
    .paragraphSeparator, .spaceSeparator] c && !extendsPrevious c

def quotedChar (c : Char) : List Char :=
  if c = '"' then ['\\', '"']
  else if c = '\\' then ['\\', '\\']
  else if c = '\n' then ['\\', 'n']
  else if c = '\t' then ['\\', 't']
  else if c = '\r' then ['\\', 'r']
  else if c.toNat = 0 then ['\\', '0']
  else if (32 ≤ c.toNat ∧ c.toNat < 127) ∨ (127 < c.toNat ∧ isVisible c) then [c]
  else "\\u\x7b".toList ++ Nat.toDigits 16 c.toNat ++ ['\x7d']

def quoted (s : String) : String := "\"" ++ String.ofList (s.toList.flatMap quotedChar) ++ "\""

end CodeAudit.Text
