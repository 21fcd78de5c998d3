import CodeAudit.Path.Normal

/-!
Where an import leads: the file among the known ones that a specifier denotes. Relative specifiers
probe a fixed list of candidates; dotted module names match the ends of known paths.
-/
namespace CodeAudit.Path

def probeExtensions : List String :=
  ["ts", "tsx", "d.ts", "js", "jsx", "mjs", "cjs", "mts", "cts", "py", "java", "go"]

def indexNames : List String := ["index", "__init__"]

/-- Leading dots as steps up, one dot for the importer's own directory; the other dots part
directories. -/
def ofDottedModule (specifier : String) : String :=
  let dots := (specifier.toList.takeWhile (· = '.')).length
  let rest := (specifier.toList.drop dots).map fun c => if c = '.' then '/' else c
  (if dots ≤ 1 then "./" else Text.repeatText (dots - 1) "../") ++ String.ofList rest

/-- A specifier without the `.*` at its end, however many there are. -/
def dropStars (specifier : List Char) : List Char := (strip specifier.reverse).reverse
where
  strip : List Char → List Char
    | '*' :: '.' :: rest => strip rest
    | cs => cs

/-- The smallest of some texts. -/
def smallest? : List String → Option String
  | [] => none
  | p :: rest =>
    match smallest? rest with
    | none => some p
    | some q => some (if q < p then q else p)

/-- A dotted module name, imported by a file whose language has such names, denotes the smallest
known path that ends in it. -/
def resolveDotted (importer specifier : String) (known : List String) : Option String :=
  match extension? importer with
  | none => none
  | some ext =>
    if (ext ≠ "py" ∧ ext ≠ "java") ∨ Text.containsChar specifier '/' then none
    else
      let module :=
        String.ofList ((dropStars specifier.toList).map fun c => if c = '.' then '/' else c)
      let candidates := [module ++ "." ++ ext, module ++ "/__init__.py"]
      smallest? <| known.filter fun path =>
        candidates.any fun c => path == c || Text.endsWith path ("/" ++ c)

/-- The files that a relative specifier may denote, the preferred ones first: the path itself,
the path with an extension added or replaced, an index file in the directory of that name. -/
def candidates (base : String) : List String :=
  let stem := withoutExtension base
  base :: (probeExtensions.flatMap fun ext =>
      if stem ≠ base then [base ++ "." ++ ext, stem ++ "." ++ ext] else [base ++ "." ++ ext]) ++
    indexNames.flatMap fun name => probeExtensions.map fun ext => base ++ "/" ++ name ++ "." ++ ext

/-- The path that a relative specifier denotes, before any file is looked for. -/
def relativeBase (importer specifier : String) : String :=
  let dotted := (extension? importer == some "py" || extension? importer == some "pyi") &&
    !Text.containsChar specifier '/'
  let relative := if dotted then ofDottedModule specifier else specifier
  let dir := directory importer
  normalize (if dir = "" then relative else dir ++ "/" ++ relative)

/-- The known file (all known paths are in normal form) that an import leads to. -/
def resolveImport (importer specifier : String) (known : List String) : Option String :=
  let importer := normalize importer
  if Text.startsWith specifier "." then
    (candidates (relativeBase importer specifier)).find? fun c => known.contains c
  else resolveDotted importer specifier known

end CodeAudit.Path
