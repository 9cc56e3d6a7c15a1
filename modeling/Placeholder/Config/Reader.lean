import Placeholder.Config
import Placeholder.Text.Blank
import Placeholder.Yaml.Schema

/-! # Reading a configuration

A configuration is written as a YAML mapping of sections, which are mappings of
settings. Sections and settings that are not written keep their defaults; names
that do not occur in a configuration and names that occur twice are refused. A
section of which nothing is written has defaults only, and so has a text without
content.
-/

namespace Placeholder.Config

open Yaml (Node Document Style)

/-! ## Settings -/

/-- The text of a scalar, however it is written. -/
def readText? (d : Document) (node : Node) : Option String := do
  match ← d.resolve? node with
  | .scalar _ _ text => some text
  | _ => none

/-- The text of a scalar that is plain, or a literal block with a certain tag. -/
def readWord? (d : Document) (tag : Yaml.Tag) (node : Node) : Option String := do
  match ← d.resolve? node with
  | .scalar _ .plain text => some text
  | .scalar p .literal text => if p.tag = some tag then some text else none
  | _ => none

/-- A truth value. -/
def readBool? (d : Document) (node : Node) : Option Bool :=
  (readWord? d (.common "bool") node).bind Yaml.truth?

/-- A natural number of at most 64 bits. -/
def readNat? (d : Document) (node : Node) : Option Nat :=
  (readWord? d (.common "int") node).bind (Yaml.natural? (Nat.pow 2 64))

/-! ## Sections -/

/-- A part of a configuration: the nodes that its names have. -/
abbrev Section := Table Node

/-- The members of a mapping, whose names must be different and among those
given. -/
def readMembers? (d : Document) (names : List String) (t : Section) :
    List (Node × Node) → Option Section
  | [] => some t
  | (key, node) :: members => do
      let name ← readText? d key
      if names.contains name && !t.contains name then
        readMembers? d names (t.insert name node) members
      else none

/-- The part of a configuration that a node gives. -/
def readSection? (d : Document) (names : List String) (node : Node) : Option Section := do
  match ← d.resolve? node with
  | .mapping _ members => readMembers? d names Table.empty members
  | node => if node.isBlank then some Table.empty else none

/-- The value of a setting, or its default where none is written. -/
def setting? {α : Type} (t : Section) (name : String) (read? : Node → Option α) (default : α) :
    Option α :=
  match t.find? name with
  | some node => read? node
  | none => some default

/-- The settings of the processor `date`. -/
def readDate? (d : Document) (node : Node) : Option DateDefaults := do
  let t ← readSection? d ["format"] node
  let given : DateDefaults := {}
  some { pattern := ← setting? t "format" (readText? d) given.pattern }

/-- The settings of the processor `currency`. -/
def readMoney? (d : Document) (node : Node) : Option MoneyDefaults := do
  let t ← readSection? d ["locale", "code"] node
  let given : MoneyDefaults := {}
  some
    { locale := ← setting? t "locale" (readText? d) given.locale
      code := ← setting? t "code" (readText? d) given.code }

/-- The settings of the processor `number`. -/
def readNumber? (d : Document) (node : Node) : Option NumberDefaults := do
  let t ← readSection? d ["decimals", "decimal_separator", "thousands_separator"] node
  let given : NumberDefaults := {}
  some
    { decimals := ← setting? t "decimals" (readNat? d) given.decimals
      point := ← setting? t "decimal_separator" (readText? d) given.point
      separator := ← setting? t "thousands_separator" (readText? d) given.separator }

/-- The settings of the memory for templates. -/
def readCache? (d : Document) (node : Node) : Option CacheSettings := do
  let t ← readSection? d ["enabled", "capacity"] node
  let given : CacheSettings := {}
  some
    { enabled := ← setting? t "enabled" (readBool? d) given.enabled
      capacity := ← setting? t "capacity" (readNat? d) given.capacity }

/-! ## Configurations -/

/-- The configuration of a document. -/
def ofDocument? (d : Document) : Option Config :=
  match d.root with
  | none => some {}
  | some node => do
      let t ← readSection? d ["date", "currency", "number", "cache"] node
      some
        { date := ← setting? t "date" (readDate? d) {}
          money := ← setting? t "currency" (readMoney? d) {}
          number := ← setting? t "number" (readNumber? d) {}
          cache := ← setting? t "cache" (readCache? d) {} }

/-- The configuration of a text, before it is checked. -/
def parse? (text : String) : Option Config :=
  if (Text.trimList text.toList).isEmpty then some {}
  else (Document.ofText? text).bind ofDocument?

/-- The configuration that a text gives. -/
def ofYaml (text : String) : Except Failure Config :=
  match parse? text with
  | some c => c.validate
  | none => .error .badYaml

end Placeholder.Config
