import Placeholder.Yaml.Scalar

/-! # Written forms of tags and directives

A tag names the type of a node. It is written with a handle and the rest of the
tag, or between angle brackets as a whole. A directive stands in front of a
document: it gives the version of the language, or says what a handle stands
for.

A tag is a row of bytes. Bytes may be written as escapes, a character's worth at a
time, but they need not make up a character that there is. A zero byte ends what is
written of a tag.
-/

namespace Placeholder.Yaml

/-! ## Tags -/

/-- The tag of a node, by its bytes. -/
abbrev Tag := List UInt8

namespace Tag

/-- The tag that a text is. -/
def ofString (s : String) : Tag := s.toList.flatMap String.utf8EncodeChar

/-- A common tag, which all documents share. -/
def common (name : String) : Tag := ofString ("tag:yaml.org,2002:" ++ name)

/-- The exclamation mark. -/
def mark : UInt8 := 0x21

/-- Whether a tag is of somebody's own, not a common one. -/
def isOwn (t : Tag) : Bool := t.head? == some mark

/-- Whether a tag is of somebody's own and has a name: the rest of it is a text. -/
def isNamed (t : Tag) : Bool := t.isOwn && (t.drop 1).toByteArray.validateUTF8

/-- What is written of a tag, up to the first zero byte. -/
def untilZero (bytes : List UInt8) : Tag := bytes.takeWhile (· != 0)

end Tag

/-! ## Bytes of tags -/

/-- A character of a tag. Commas and square brackets belong to a tag only where the
whole of it is written. -/
def isTagChar (whole : Bool) (c : Char) : Bool :=
  isWordChar c || ";/?:@&=+$.!~*\x27()%".toList.contains c ||
    (whole && (c == ',' || c == '[' || c == ']'))

/-- The number of bytes of a character whose first byte this is. -/
def encodedLength? (byte : UInt8) : Option Nat :=
  if byte < 0x80 then some 1
  else if byte < 0xC0 then none
  else if byte < 0xE0 then some 2
  else if byte < 0xF0 then some 3
  else if byte < 0xF8 then some 4
  else none

/-- A byte, written as a percent sign and two hexadecimal digits. -/
def readByte? : List Char → Option (UInt8 × List Char)
  | '%' :: cs => (readHex? 2 cs).map fun byte => (UInt8.ofNat byte, cs.drop 2)
  | _ => none

/-- So many further bytes of a character. -/
def readFurtherBytes? : Nat → List Char → Option (List UInt8 × List Char)
  | 0, cs => some ([], cs)
  | n + 1, cs => do
      let (byte, cs) ← readByte? cs
      if 0x80 ≤ byte ∧ byte < 0xC0 then
        (readFurtherBytes? n cs).map fun (bytes, cs) => (byte :: bytes, cs)
      else none

/-- The bytes of a character and what follows them. Their number and their highest
bits must be right, but not the code point that they give. -/
def readEncoded? (cs : List Char) : Option (List UInt8 × List Char) := do
  let (byte, cs) ← readByte? cs
  let length ← encodedLength? byte
  (readFurtherBytes? (length - 1) cs).map fun (bytes, cs) => (byte :: bytes, cs)

/-- The bytes of a tag and what follows them. -/
def readBytes? (fuel : Nat) (whole : Bool) (cs : List Char) : Option (List UInt8 × List Char) :=
  match fuel, cs with
  | fuel + 1, c :: rest =>
      if c = '%' then do
        let (bytes, rest) ← readEncoded? (c :: rest)
        let (further, rest) ← readBytes? fuel whole rest
        some (bytes ++ further, rest)
      else if isTagChar whole c then
        (readBytes? fuel whole rest).map fun (bytes, rest) =>
          (String.utf8EncodeChar c ++ bytes, rest)
      else some ([], c :: rest)
  | _, _ => some ([], cs)

/-- As `readBytes?`, with the place behind the bytes. -/
def Cursor.readBytes? (c : Cursor) (whole : Bool) : Option (List UInt8 × Cursor) := do
  let (bytes, rest) ← Yaml.readBytes? (c.rest.length + 1) whole c.rest
  some (bytes, c.skip (c.rest.length - rest.length))

/-- What is written of a tag, which has at least one byte before any zero byte is
left out. -/
def Cursor.readTagText? (c : Cursor) (whole : Bool) : Option (Tag × Cursor) := do
  let (bytes, c) ← c.readBytes? whole
  if bytes.isEmpty then none else some (Tag.untilZero bytes, c)

/-! ## Handles and tags -/

/-- An exclamation mark, a run of word characters, and an exclamation mark if one
follows. -/
def Cursor.readHandle? (c : Cursor) : Option (List Char × Cursor) :=
  if !c.sees '!' then none
  else
    let (word, c) := c.skip.takeWhile isWordChar
    if c.sees '!' then some ('!' :: word ++ ['!'], c.skip) else some ('!' :: word, c)

/-- A tag as its handle and its rest. The handle is empty where the whole of the tag
is written, and for the tag `!`. -/
def readTag? (inFlow : Bool) (c : Cursor) : Option (String × Tag × Cursor) := do
  let (handle, rest, c) ←
    if c.sees '<' 1 then do
      let (rest, c) ← (c.skip 2).readTagText? true
      if c.sees '>' then some ("", rest, c.skip) else none
    else do
      let (handle, c) ← c.readHandle?
      if 1 < handle.length ∧ handle.getLast? = some '!' then
        let (rest, c) ← c.readTagText? false
        some (String.ofList handle, rest, c)
      else
        let (bytes, c) ← c.readBytes? false
        let rest := Tag.ofString (String.ofList (handle.drop 1)) ++ Tag.untilZero bytes
        some (if rest.isEmpty then ("", [Tag.mark], c) else ("!", rest, c))
  if endsWord c.peek || (inFlow && c.sees ',') then some (handle, rest, c) else none

/-! ## Directives -/

/-- What a directive says. -/
inductive Directive where
  /-- The version of the language. -/
  | version (major minor : Nat)
  /-- What a handle stands for. -/
  | handle (handle : String) (meaning : Tag)
deriving DecidableEq, Repr

/-- One of the two numbers of a version, of at most nine digits. -/
def readVersionNumber? (c : Cursor) : Option (Nat × Cursor) :=
  let (digits, c) := c.takeWhile Char.isDigit
  if digits.isEmpty || 9 < digits.length then none else some (Number.digitsValue digits, c)

/-- A version, with blanks before it. -/
def readVersion? (c : Cursor) : Option (Directive × Cursor) := do
  let (major, c) ← readVersionNumber? (c.skipWhile isBlank)
  if c.sees '.' then
    let (minor, c) ← readVersionNumber? c.skip
    some (.version major minor, c)
  else none

/-- A handle and its meaning, with blanks before each. -/
def readHandleMeaning? (c : Cursor) : Option (Directive × Cursor) := do
  let (handle, c) ← (c.skipWhile isBlank).readHandle?
  if handle.length ≠ 1 ∧ handle.getLast? ≠ some '!' then none
  else if !c.peek.any isBlank then none
  else
    let (meaning, c) ← (c.skipWhile isBlank).readTagText? true
    if endsWord c.peek then some (.handle (String.ofList handle) meaning, c) else none

/-- A directive behind its percent sign, to the end of the line. -/
def readDirective? (c : Cursor) : Option (Directive × Cursor) := do
  let (name, c) := c.takeWhile isWordChar
  if !endsWord c.peek then none
  else
    let (directive, c) ←
      if name = "YAML".toList then readVersion? c
      else if name = "TAG".toList then readHandleMeaning? c
      else none
    some (directive, ← c.skipToLineEnd?)

end Placeholder.Yaml
