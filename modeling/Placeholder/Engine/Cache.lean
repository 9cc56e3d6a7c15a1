import Placeholder.Table
import Placeholder.Template

/-! # The cache of read templates

A cache remembers the tags of templates. It never grows beyond its capacity:
when it is full, a further template makes it forget all others.
-/

namespace Placeholder

/-- The tags of templates that were read, up to a number of templates. -/
structure Cache where
  capacity : Nat
  templates : Table (List Tag) := Table.empty
deriving Repr

namespace Cache

/-- The cache that settings ask for, with room for at least one template. -/
def new (capacity : Nat) : Cache := { capacity := max capacity 1 }

/-- The tags of a template that is remembered. -/
def find? (c : Cache) (template : String) : Option (List Tag) := c.templates.find? template

/-- The cache with a further template. -/
def add (c : Cache) (template : String) (tags : List Tag) : Cache :=
  let kept := if c.capacity ≤ c.templates.size then Table.empty else c.templates
  { c with templates := kept.insert template tags }

end Cache

end Placeholder
