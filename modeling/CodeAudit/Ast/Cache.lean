import CodeAudit.Ast.File

/-!
Parsed files by path, the least recently used one given up first. A stored file answers only for
the content it was made from.
-/
namespace CodeAudit

/-- Entries stand from the most to the least recently used. -/
structure AstCache (α : Type) where
  capacity : Nat
  entries : List (String × String × α) := []
  hits : Nat := 0
  misses : Nat := 0

namespace AstCache

variable {α : Type}

/-- There is always room for one entry. -/
def empty (capacity : Nat) : AstCache α := { capacity := max capacity 1 }

def size (c : AstCache α) : Nat := c.entries.length

def isEmpty (c : AstCache α) : Bool := c.entries.isEmpty

/-- The stored content hash and value of a path. -/
def find? (c : AstCache α) (path : String) : Option (String × α) := c.entries.lookup path

def without (path : String) (entries : List (String × String × α)) : List (String × String × α) :=
  entries.filter fun e => e.1 != path

/-- Makes a stored path the most recently used one. -/
def touch (c : AstCache α) (path : String) : AstCache α :=
  match c.find? path with
  | none => c
  | some entry => { c with entries := (path, entry) :: without path c.entries }

/-- Looking up a path makes it the most recently used one, also when its content has changed. -/
def get (c : AstCache α) (path hash : String) : Option α × AstCache α :=
  match c.find? path with
  | some (stored, value) =>
    if stored = hash then (some value, { c.touch path with hits := c.hits + 1 })
    else (none, { c.touch path with misses := c.misses + 1 })
  | none => (none, { c with misses := c.misses + 1 })

/-- Stores a value in front; beyond the capacity the last entry goes. -/
def put (c : AstCache α) (path hash : String) (value : α) : AstCache α :=
  { c with entries := ((path, hash, value) :: without path c.entries).take c.capacity }

def invalidate (c : AstCache α) (path : String) : AstCache α :=
  { c with entries := without path c.entries }

def clear (c : AstCache α) : AstCache α := { c with entries := [] }

/-- The share of look-ups that were answered. -/
def hitRate (c : AstCache α) : Float :=
  if c.hits + c.misses = 0 then 0.0
  else Float.ofNat c.hits / Float.ofNat (c.hits + c.misses)

end AstCache
end CodeAudit
