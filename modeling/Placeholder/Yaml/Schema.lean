import Placeholder.Json.Value
import Placeholder.Number.Reader
import Placeholder.Yaml.Document

/-! # Values of YAML documents

What the nodes of a document denote. A plain scalar without a tag is null, a
truth value or a number if it is written like one, and else a text, as every other
scalar is. Four tags of the common ones demand a kind of value. A tag that begins
with an exclamation mark is of somebody's own: if the rest of it is a name, it denotes
nothing here, and else it counts as no tag.
-/

namespace Placeholder.Yaml

/-! ## Scalars -/

/-- Whether a word is written for null. -/
def isNull (text : String) : Bool := ["null", "Null", "NULL", "~"].contains text

/-- The truth value that a word is written for. -/
def truth? (text : String) : Option Bool :=
  if ["true", "True", "TRUE"].contains text then some true
  else if ["false", "False", "FALSE"].contains text then some false
  else none

/-- Whether zeros stand in front of the digits of a number, as in `007`; such a
scalar is a text. -/
def isPadded (cs : List Char) : Bool :=
  let digits := (Number.readSign cs).2
  1 < digits.length && digits.head? == some '0' && digits.all Number.isDigit

/-- The number that is written by some digits to a base. -/
def readNatural? (base : Nat) (cs : List Char) : Option Nat :=
  if cs.isEmpty then none
  else cs.foldlM (fun n c =>
    (Json.hexValue? c).bind fun d => if d < base then some (base * n + d) else none) 0

/-- The number that is written without a sign: to the base 16, 8 or 2 behind `0x`,
`0o` and `0b`, and else to the base 10. -/
def readMagnitude? : List Char → Option Nat
  | '0' :: 'x' :: digits => readNatural? 16 digits
  | '0' :: 'o' :: digits => readNatural? 8 digits
  | '0' :: 'b' :: digits => readNatural? 2 digits
  | digits => if isPadded digits then none else readNatural? 10 digits

/-- The integer that a scalar writes. -/
def integer? (text : String) : Option Int :=
  let (negative, digits) := Number.readSign text.toList
  (readMagnitude? digits).map fun n => if negative then Int.negOfNat n else n

/-- The natural number below `bound` that a scalar writes. A minus sign is no part of
one. -/
def natural? (bound : Nat) (text : String) : Option Nat := do
  if text.toList.head? = some '-' then none
  else
    let n ← integer? text
    if n < bound then some n.toNat else none

/-- The number with a point or an exponent, or without digits, that a scalar writes.
Numbers beyond binary64 are not there, and what is no finite number is null. -/
def decimal? (text : String) : Option Json.Value :=
  let (_, unsigned) := Number.readSign text.toList
  let word := String.ofList unsigned
  if [".inf", ".Inf", ".INF"].contains word then some .null
  else if [".nan", ".NaN", ".NAN"].contains text then some .null
  else
    match unsigned with
    | '+' :: _ | '-' :: _ => none
    | digits =>
        match Number.readBinary64? digits with
        | some (.finite _ _) => some (.number text)
        | _ => none

/-- An integer as a value, unless it does not fit into 64 bits. -/
def integerValue? (n : Int) : Option Json.Value :=
  if Int.negOfNat (Nat.pow 2 63) ≤ n ∧ n < Int.ofNat (Nat.pow 2 64) then some (.number (toString n)) else none

/-- Whether an integer fits into 128 bits. Greater ones are numbers like those with a
point. -/
def isWide (n : Int) : Bool :=
  Int.negOfNat (Nat.pow 2 127) ≤ n && n < Int.ofNat (Nat.pow 2 128)

/-- The integer that a scalar writes, if it is not too great to be one. -/
def wideInteger? (text : String) : Option Int := (integer? text).filter isWide

/-- The value of a plain scalar without a tag. -/
def plainValue? (text : String) : Option Json.Value :=
  if text.isEmpty || isNull text then some .null
  else
    match truth? text, wideInteger? text with
    | some b, _ => some (.bool b)
    | none, some n => integerValue? n
    | none, none =>
        if isPadded text.toList then some (.string text)
        else some ((decimal? text).getD (.string text))

/-- The value of a scalar without a tag. -/
def untaggedValue? (style : Style) (text : String) : Option Json.Value :=
  if style = .plain then plainValue? text else some (.string text)

/-- The value of a scalar. -/
def scalarValue? (tag : Option Tag) (style : Style) (text : String) : Option Json.Value :=
  match tag with
  | none => untaggedValue? style text
  | some tag =>
      if tag.isNamed then none
      else if tag.isOwn then untaggedValue? style text
      else if tag = .common "bool" then (truth? text).map .bool
      else if tag = .common "int" then (wideInteger? text).bind integerValue?
      else if tag = .common "float" then decimal? text
      else if tag = .common "null" then (if isNull text then some .null else none)
      else some (.string text)

/-! ## Documents -/

/-- How deep the collections of a document may be nested. -/
def maxDepth : Nat := 128

/-- How often the aliases of a document may be followed for every unit of its
size. -/
def maxRepetition : Nat := 100

/-- A computation that counts how often aliases were followed. -/
abbrev Counted (α : Type) := StateT Nat Option α

namespace Document

/-- The node itself, or the one that it is an alias of. -/
def follow (d : Document) : Node → Counted Node
  | .alias anchor => do
      modify (· + 1)
      if maxRepetition * d.size < (← get) then failure
      else
        match d.find? anchor with
        | some node => return node
        | none => failure
  | node => return node

/-- The text of a scalar, which is a name in a mapping. -/
def name (d : Document) (node : Node) : Counted String := do
  match ← d.follow node with
  | .scalar _ _ text => return text
  | _ => failure

/-- Whether a collection with this tag has a value. -/
def hasValue (p : Properties) : Bool := !p.tag.any Tag.isNamed

/-- The value of a node whose collections are nested at most `depth` deep. -/
def nodeValue (d : Document) (depth : Nat) (node : Node) : Counted Json.Value := do
  match depth, ← d.follow node with
  | _, .scalar p style text =>
      match scalarValue? p.tag style text with
      | some x => return x
      | none => failure
  | depth + 1, .sequence p elements =>
      if hasValue p then return .array (← elements.mapM (d.nodeValue depth)) else failure
  | depth + 1, .mapping p members =>
      if hasValue p then
        return .object (← members.mapM fun (k, x) => do
          return (← d.name k, ← d.nodeValue depth x))
      else failure
  | _, _ => failure

/-- The value of a document. -/
def value? (d : Document) : Option Json.Value :=
  match d.root with
  | none => some .null
  | some node => (d.nodeValue maxDepth node).run' 0

end Document

/-- The value of a text. -/
def parse? (text : String) : Option Json.Value := (Document.ofText? text).bind Document.value?

end Placeholder.Yaml
