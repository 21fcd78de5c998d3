import CodeAudit.Analysis.Project
import CodeAudit.Keyed

/-!
Functions and the calls between them, matched by name: which functions nothing calls, and where
chains of calls grow too long. Functions are referred to by their place in the list of all.
-/
namespace CodeAudit.Calling

/-- The caller of code outside all functions. -/
def moduleCaller : String := "<module>"

structure FunctionRecord where
  id : String
  name : String
  file : String
  className : Option String
  location : Location
  isExported : Bool
  /-- Reached from outside: exported, public, a test or a well-known starting point. -/
  isEntryPoint : Bool
  /-- Called by a framework or the run time. -/
  isHook : Bool
deriving DecidableEq, Repr

/-- A call with the place of the function around it. -/
structure Call where
  file : String
  caller : Option Nat
  callee : String
  line : Nat
deriving DecidableEq, Repr

/-- A call as it is reported. -/
structure CallRecord where
  file : String
  caller : String
  callee : String
  line : Nat
  isResolved : Bool
deriving DecidableEq, Repr

structure Report where
  functions : List FunctionRecord
  calls : List CallRecord
  edges : Keyed String (List String)
  entryPoints : List String
  deadFunctions : List String
  deepChains : List (List String)

def entryNames : List String := ["main", "__init__", "constructor", "init", "__main__"]

def testFileMarkers : List String := [".test.", ".spec.", "_test.", "/test_", "/tests/", "__tests__/"]

def isTestFile (path : String) : Bool :=
  let lower := "/" ++ Text.asciiLowerCase path
  testFileMarkers.any fun m => Text.contains lower m

/-- `test` before an underscore or a capital, `Test` before a capital. -/
def isTestFunction (name : String) : Bool :=
  let capitalAfter (head : String) :=
    match Text.afterHead? name head with
    | some rest => rest.toList.head?.any Char.isUpper
    | none => false
  Text.startsWith name "test_" || capitalAfter "test" || capitalAfter "Test"

def hasDecorators (n : AstNode) : Bool :=
  match n.meta? "decorators" with
  | some (.texts items) => !items.isEmpty
  | _ => false

/-- A type around the code, and whether it is exported. -/
structure Enclosing where
  name : String
  isExported : Bool

structure Scope where
  file : String
  enclosing : Option Enclosing := none
  function : Option Nat := none

structure Harvest where
  functions : List FunctionRecord := []
  counts : IdCounts := []
  calls : List Call := []

def isPrivate (n : AstNode) (name : String) : Bool :=
  n.visibility? == some "private" || (Text.startsWith name "_" && !Text.startsWith name "__")

def functionRecord (s : Scope) (id name : String) (className : Option String) (n : AstNode) :
    FunctionRecord where
  id := id
  name := name
  file := s.file
  className := className
  location := n.location
  isExported := n.isExported
  isEntryPoint := n.isExported || (s.enclosing.any (·.isExported) && !isPrivate n name) ||
    entryNames.contains name || isTestFunction name || isTestFile s.file
  isHook := hasDecorators n || (Text.startsWith name "__" && Text.endsWith name "__") ||
    name == anonymousName

/-- Adds a function; the type around it goes into its id. -/
def Harvest.addFunction (h : Harvest) (s : Scope) (n : AstNode) : Harvest :=
  let name := n.name.getD anonymousName
  let className := (s.enclosing.map (·.name)).or n.className?
  let qualified := match className with
    | some c => c ++ "." ++ name
    | none => name
  let (id, counts) := h.counts.allocate (s.file ++ "::" ++ qualified)
  { h with functions := h.functions ++ [functionRecord s id name className n], counts := counts }

/-- Takes in one node and gives the scope for its children. A function inside a function belongs
to no type. -/
def Harvest.enter (h : Harvest) (s : Scope) (n : AstNode) : Scope × Harvest :=
  match n.kind with
  | .classType | .interfaceType | .enumType =>
    ({ s with enclosing := some ⟨n.name.getD anonymousName, n.isExported⟩ }, h)
  | .function => (⟨s.file, none, some h.functions.length⟩, h.addFunction s n)
  | .call =>
    match n.callee?.or n.name with
    | some callee => (s, { h with calls := h.calls ++ [⟨s.file, s.function, callee, n.location.startLine⟩] })
    | none => (s, h)
  | _ => (s, h)

mutual

def walk (s : Scope) (h : Harvest) (n : AstNode) : Harvest :=
  match n with
  | ⟨id, kind, name, location, children, parent, metadata⟩ =>
    let (s, h) := h.enter s ⟨id, kind, name, location, children, parent, metadata⟩
    walkAll s h children

def walkAll (s : Scope) (h : Harvest) : List AstNode → Harvest
  | [] => h
  | n :: rest => walkAll s (walk s h n) rest

end

/-- The functions and calls of some trees. -/
def Harvest.ofTrees (trees : List AstFile) : Harvest :=
  trees.foldl (fun h t => walkAll ⟨t.path, none, none⟩ h t.root.children) {}

/-- The places of the functions that a name may stand for in a file: those of the file itself, or
all of that name if the file has none. -/
def resolve (functions : List FunctionRecord) (file callee : String) : List Nat :=
  let named := functions.zipIdx.filter fun f => f.1.name = callee
  let here := named.filter fun f => f.1.file = file
  (if here.isEmpty then named else here).map (·.2)

/-- A call with its possible targets. -/
structure ResolvedCall where
  call : Call
  targets : List Nat

def Harvest.resolved (h : Harvest) : List ResolvedCall :=
  h.calls.map fun c => ⟨c, resolve h.functions c.file c.callee⟩

/-- Functions that a function calls, itself apart, in the order of their places. -/
def calleesOf (calls : List ResolvedCall) (i : Nat) : List Nat :=
  let targets := (calls.filter fun c => c.call.caller = some i).flatMap (·.targets)
  ((targets.filter (· ≠ i)).mergeSort fun a b => decide (a ≤ b)).eraseReps

/-- Whether anything but the function itself calls it. -/
def isCalled (calls : List ResolvedCall) (i : Nat) : Bool :=
  calls.any fun c => c.call.caller ≠ some i ∧ i ∈ c.targets

/-- Result of the search for a long chain. -/
inductive ChainSearch where
  | found (chain : List Nat)
  | absent
  | exhausted
deriving DecidableEq, Repr

/-- The number of functions in the longest chain within a limit: one more than its calls, in 64 bits. -/
def longestChain (limit : Nat) : Nat := (limit + 1) % bound64

/-- Follows calls depth first without repeating a function on the way, until more than `limit`
calls are chained. The trail holds each function with the callees still to follow, the last one
first. Every step costs one of the budget. -/
def searchChain (callees : Nat → List Nat) (limit : Nat) :
    (budget : Nat) → (trail : List (Nat × List Nat)) → ChainSearch
  | _, [] => .absent
  | 0, trail =>
    if longestChain limit < trail.length then .found (trail.map (·.1)).reverse else .exhausted
  | budget + 1, (v, todo) :: rest =>
    if longestChain limit < ((v, todo) :: rest).length then .found (((v, todo) :: rest).map (·.1)).reverse
    else match todo with
      | [] => searchChain callees limit budget rest
      | t :: ts =>
        if t ∈ ((v, ts) :: rest).map (·.1) then searchChain callees limit budget ((v, ts) :: rest)
        else searchChain callees limit budget ((t, callees t) :: (v, ts) :: rest)

def searchBudget : Nat := 100000

/-- The first chain of more than `limit` calls from a function, unless the budget runs out. -/
def deepChain? (callees : Nat → List Nat) (limit budget start : Nat) : Option (List Nat) :=
  match searchChain callees limit budget [(start, callees start)] with
  | .found chain => some chain
  | _ => none

/-- The functions from which chains are followed: entry points and those called at module level. -/
def roots (functions : List FunctionRecord) (calls : List ResolvedCall) : List Nat :=
  (functions.zipIdx.filter fun f => f.1.isEntryPoint ||
    calls.any fun c => c.call.caller.isNone ∧ f.2 ∈ c.targets).map (·.2)

def isDead (calls : List ResolvedCall) (f : FunctionRecord × Nat) : Bool :=
  !isCalled calls f.2 && !f.1.isEntryPoint && !f.1.isHook

def deadFinding (f : FunctionRecord) : Finding :=
  (Finding.new .deadCode s!"Function '{f.name}' is never called" .low f.location).withMetadata
    "function" (.str f.id)

def chainFinding (limit : Nat) (chain : List FunctionRecord) : Finding :=
  let start := (chain.head?.map (·.name)).getD ""
  let place := (chain.head?.map (·.location)).getD {}
  let shown := Text.join " -> " (chain.map (·.name))
  (Finding.new .deepCallChain s!"Call chain deeper than {limit} starting at '{start}': {shown}" .medium place
    |>.withMetadata "chain" (.strings (chain.map (·.id)))).withMetadata "depth" (.nat (chain.length - 1))

def callRecord (functions : List FunctionRecord) (c : ResolvedCall) : CallRecord where
  file := c.call.file
  caller := ((c.call.caller.bind fun i => functions[i]?).map (·.name)).getD moduleCaller
  callee := c.call.callee
  line := c.call.line
  isResolved := !c.targets.isEmpty

/-- Matches all calls of the parsed files with the functions in them. -/
def analyze (limit : Nat) (p : Project) : Analysis Report :=
  let h := Harvest.ofTrees p.parsed
  let calls := h.resolved
  let indexed := h.functions.zipIdx
  let table := (indexed.map fun f => calleesOf calls f.2).toArray
  let callees (i : Nat) : List Nat := table.getD i []
  let records (is : List Nat) : List FunctionRecord := is.filterMap fun i => h.functions[i]?
  let dead := (indexed.filter (isDead calls)).map (·.1)
  let chains := (roots h.functions calls).filterMap fun i =>
    (deepChain? callees limit searchBudget i).map records
  { report :=
      { functions := h.functions
        calls := calls.map (callRecord h.functions)
        edges := Keyed.ofList ((indexed.filter fun f => !(callees f.2).isEmpty).map fun f =>
          (f.1.id, (records (callees f.2)).map (·.id)))
        entryPoints := (h.functions.filter (·.isEntryPoint)).map (·.id)
        deadFunctions := dead.map (·.id)
        deepChains := chains.map fun c => c.map (·.id) }
    findings := dead.map deadFinding ++ chains.map (chainFinding limit) }

namespace Report

def function? (r : Report) (id : String) : Option FunctionRecord := r.functions.find? fun f => f.id = id

def calleesOf (r : Report) (id : String) : List String := (r.edges.get? id).getD []

end Report
end CodeAudit.Calling
