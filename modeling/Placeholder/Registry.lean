import Placeholder.Processor
import Placeholder.Processor.Builtin
import Placeholder.Table

/-! # Registries

A registry knows the processors by name: the ones that are always there, set up
by a configuration, and the ones that were registered. A registered processor
hides one of the first kind with the same name. The registry counts the uses in
which a processor failed.
-/

namespace Placeholder

/-- The processors that can be asked for by name. -/
structure Registry where
  config : Config
  /-- The moment that dates called `now` and `today` refer to. It stands still: where
  a clock is read at each of these dates, all of them see one moment here. -/
  now : Moment
  custom : Table Processor := Table.empty
  /-- The uses that failed so far. The number has no bound; a counter of 64 bits
  would begin again from zero after `2 ^ 64` failures. -/
  failures : Nat := 0

namespace Registry

/-- The processors of a configuration, before any is registered. -/
def new (config : Config) (now : Moment) : Registry := { config := config, now := now }

/-- A processor that is always there, set up by the configuration. -/
def builtin (r : Registry) (b : Builtin) : Processor where
  behaviour := .fallible fun _ use => b.run r.config r.now use.value use.args

/-- Registers a processor, in the place of an earlier one with this name. -/
def register (r : Registry) (name : String) (p : Processor) : Registry :=
  { r with custom := r.custom.insert name p }

/-- The processor with a name, a registered one first. -/
def find? (r : Registry) (name : String) : Option Processor :=
  (r.custom.find? name).or ((Builtin.ofName? name).map r.builtin)

/-- Whether there is a processor with a name. -/
def contains (r : Registry) (name : String) : Bool :=
  r.custom.contains name || (Builtin.ofName? name).isSome

/-- The registry after a use of the processor with a name: a registered one
keeps what happened, and a failure is counted. -/
def record (r : Registry) (name : String) (outcome : Processor.Outcome) : Registry :=
  { r with
    custom := if r.custom.contains name then r.custom.insert name outcome.after else r.custom
    failures := if outcome.failed then r.failures + 1 else r.failures }

/-- One use of the processor with a name, if there is one. -/
def apply (r : Registry) (name : String) (use : Use) : Option (String × Registry) :=
  (r.find? name).map fun p =>
    let outcome := p.run use
    (outcome.text, r.record name outcome)

/-! ## Listing -/

/-- A list in the order of its names with one entry set. -/
def insertSorted {α : Type} (name : String) (entry : α) : List (String × α) → List (String × α)
  | [] => [(name, entry)]
  | (n, e) :: rest =>
      if name < n then (name, entry) :: (n, e) :: rest
      else if name = n then (name, entry) :: rest
      else (n, e) :: insertSorted name entry rest

/-- All processors in the order of their names, each name once. -/
def listing (r : Registry) : List (String × Processor) :=
  let builtins := Builtin.all.foldl (fun l b => insertSorted b.name (r.builtin b) l) []
  r.custom.entries.foldl (fun l (name, p) => insertSorted name p l) builtins

/-- The names of all processors, in order. -/
def names (r : Registry) : List String := r.listing.map Prod.fst

end Registry

end Placeholder
