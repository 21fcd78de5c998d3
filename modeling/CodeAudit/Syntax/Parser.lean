import CodeAudit.Syntax.Tree

/-!
What is asked of a parser. A fault in a text is part of what is read from it; only where the grammar cannot be used or
the parser gives up is there no tree.
-/
namespace CodeAudit.Syntax

/-- The grammars that texts are read with. -/
inductive GrammarName where
  | typescript
  /-- Typed texts with markup. -/
  | tsx
  | javascript
  | python
  | java
  | go
deriving DecidableEq, Repr

/-- A text as it was read. -/
structure Reading where
  tree : Tree
  /-- The characters that the program covers. -/
  program : Span
  /-- Whether the text has no faults. -/
  sound : Bool

/-- Why a text was not read. -/
inductive ParserFault where
  /-- The grammar cannot be used, for the reason given. -/
  | grammar (message : String)
  /-- The parser gave up. -/
  | noTree
deriving DecidableEq, Repr

abbrev SyntaxParser := GrammarName → Source → Except ParserFault Reading

end CodeAudit.Syntax
