import CodeAudit.Outline.Script
import CodeAudit.Outline.Python
import CodeAudit.Outline.Java
import CodeAudit.Outline.Go
import CodeAudit.Ast.Cache
import CodeAudit.SourceFile
import CodeAudit.Syntax.Parser

/-!
From the text of a file to its tree, for the languages that have a grammar and with any parser. Parsed files may be kept
in a cache, which answers by path and content alone.
-/
namespace CodeAudit

open Syntax

/-- The languages with a grammar. -/
def Language.fidelity? : Language → Option Fidelity
  | .typescript | .javascript | .python | .java | .go => some .full
  | _ => none

/-- Why a file has no tree. -/
inductive OutlineError where
  | missingContent (path : String)
  | unsupported (language : Language)
  | grammar (language : Language) (message : String)
  | noTree (path : String)
deriving DecidableEq, Repr

def OutlineError.message : OutlineError → String
  | missingContent path => s!"File has no content: {path}"
  | unsupported language => s!"Unsupported language: {language.name}"
  | grammar language message => s!"Grammar could not be loaded for {language.name}: {message}"
  | noTree path => s!"Parser produced no tree for {path}"

def OutlineError.ofFault (path : String) (language : Language) : ParserFault → OutlineError
  | .grammar message => grammar language message
  | .noTree => noTree path

/-- The grammar that a file of the language is read with. One extension takes its own, also for untyped texts. -/
def Language.grammar? (path : String) : Language → Option GrammarName
  | .typescript => if Path.extension? path == some "tsx" then some .tsx else some .typescript
  | .javascript => if Path.extension? path == some "tsx" then some .tsx else some .javascript
  | .python => some .python
  | .java => some .java
  | .go => some .go
  | _ => none

/-- The outline of a tree of the grammar. -/
def Outline.ofTree : GrammarName → OutlineSource → Tree → Outline
  | .typescript | .tsx | .javascript => Script.ofModule
  | .python => Python.ofModule
  | .java => Java.ofModule
  | .go => Go.ofModule

namespace AstFile

variable (parser : SyntaxParser)

/-- The tree of a text in a language. -/
def ofContent (path content : String) (language : Language) : AstFile :=
  let hash := Digest.ofContent content
  match language.grammar? path with
  | none => failed path language hash (OutlineError.unsupported language).message
  | some grammar =>
    let src : OutlineSource := ⟨Source.ofText content, path⟩
    match parser grammar src.source with
    | .error fault => failed path language hash (OutlineError.ofFault path language fault).message
    | .ok reading =>
      let o := Outline.ofTree grammar src reading.tree
      ofTree path language (src.root reading.program (!reading.sound) o) o.imports o.exports hash .full

/-- The tree of a file; without content there is none. -/
def ofFile (f : SourceFile) (language : Language) : AstFile :=
  match f.content with
  | some content => ofContent parser f.path content language
  | none => failed f.path language "" (OutlineError.missingContent f.path).message

end AstFile

/-- Parsing with a cache: the answer for a text, and the cache after it. -/
def AstCache.parse (c : AstCache AstFile) (parser : SyntaxParser) (f : SourceFile) (language : Language) :
    AstFile × AstCache AstFile :=
  match f.content with
  | none => (AstFile.ofFile parser f language, c)
  | some content =>
    let hash := Digest.ofContent content
    match c.get f.path hash with
    | (some found, c) => (found, c)
    | (none, c) =>
      let parsed := AstFile.ofContent parser f.path content language
      (parsed, c.put f.path hash parsed)

end CodeAudit
