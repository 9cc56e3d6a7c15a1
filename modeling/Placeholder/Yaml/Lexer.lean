import Placeholder.Yaml.Token

/-! # From texts to tokens

That a scalar is a key is seen only at the colon behind it, so the token in front of
a key is put in afterwards. A key must end in the line in which it begins and may be
at most `maxKeyLength` bytes long.

The state of the lexer is a place in the text with the tokens before it. Every step
skips what stands between two tokens, ends the blocks that are over, and reads one
token.
-/

namespace Placeholder.Yaml

/-- How many bytes a key may take. -/
def maxKeyLength : Nat := 1024

/-- A place where a key may have begun: how many tokens are before it, where it is,
and whether only a key can stand there. -/
structure PossibleKey where
  position : Nat
  place : Cursor
  required : Bool
deriving Repr

/-- What is known in the midst of a text: the place, the tokens before it with the
last one first, the indentation of the innermost block, those of the blocks
around it, the possible key of every open bracket with that of the innermost
bracket first, and whether a key may begin here. -/
structure Lexer where
  cursor : Cursor
  tokens : List Token := []
  indent : Int := -1
  outer : List Int := []
  keys : List (Option PossibleKey) := [none]
  keyAllowed : Bool := true
deriving Repr

namespace Lexer

/-! ## Tokens, keys and blocks -/

/-- Whether a bracket is open. -/
def inFlow (s : Lexer) : Bool := 1 < s.keys.length

/-- One more token, which ends at a certain place. -/
def push (token : Token) (cursor : Cursor) (s : Lexer) : Lexer :=
  { s with tokens := token :: s.tokens, cursor := cursor }

/-- One more token, with so many tokens before it. -/
def insert (position : Nat) (token : Token) (s : Lexer) : Lexer :=
  let later := s.tokens.length - position
  { s with tokens := s.tokens.take later ++ token :: s.tokens.drop later }

/-- Settles whether a key may begin at the next token. -/
def allowKey (allowed : Bool) (s : Lexer) : Lexer := { s with keyAllowed := allowed }

/-- Gives up the possible key of the innermost bracket. -/
def dropKey? (s : Lexer) : Option Lexer :=
  if s.keys.head?.join.any PossibleKey.required then none
  else some { s with keys := none :: s.keys.drop 1 }

/-- Notes that a key may begin here. -/
def noteKey? (s : Lexer) : Option Lexer :=
  if !s.keyAllowed then some s
  else do
    let s ← s.dropKey?
    let key : PossibleKey :=
      { position := s.tokens.length, place := s.cursor
        required := !s.inFlow && s.indent == s.cursor.column }
    some { s with keys := some key :: s.keys.drop 1 }

/-- Gives up the possible keys that began too long ago. -/
def dropOldKeys? (s : Lexer) : Option Lexer :=
  let old (key : PossibleKey) : Bool :=
    key.place.line < s.cursor.line || key.place.offset + maxKeyLength < s.cursor.offset
  if s.keys.any fun key => key.any fun key => old key && key.required then none
  else some { s with keys := s.keys.map fun key => key.filter fun key => !old key }

/-- Begins a block at a column, with so many tokens before it, unless the block that
is open begins there. -/
def openBlock (position column : Nat) (start : Token) (s : Lexer) : Lexer :=
  if !s.inFlow && s.indent < column then
    { s.insert position start with indent := column, outer := s.indent :: s.outer }
  else s

/-- Ends the blocks that begin to the right of a column. -/
def closeBlocksTo (column : Int) (tokens : List Token) (indent : Int) :
    List Int → List Token × Int × List Int
  | [] => (tokens, indent, [])
  | next :: outer =>
      if column < indent then closeBlocksTo column (.blockEnd :: tokens) next outer
      else (tokens, indent, next :: outer)

/-- As `closeBlocksTo`. Inside brackets, indentation has no meaning. -/
def closeBlocks (column : Int) (s : Lexer) : Lexer :=
  if s.inFlow then s
  else
    let (tokens, indent, outer) := closeBlocksTo column s.tokens s.indent s.outer
    { s with tokens := tokens, indent := indent, outer := outer }

/-! ## From token to token -/

/-- Skips blanks, comments and line breaks. A tab is a blank only where no key may
begin, or inside brackets. A key may begin behind a line break. A line may begin
with a byte order mark, which takes a column. -/
def skipGap (fuel : Nat) (s : Lexer) : Lexer :=
  match fuel with
  | 0 => s
  | fuel + 1 =>
      let c := s.cursor
      let c := if c.column == 0 && c.sees '\ufeff' then c.skip else c
      let c := c.skipWhile fun ch => ch == ' ' || (ch == '\t' && (s.inFlow || !s.keyAllowed))
      let c := if c.sees '#' then c.skipLine else c
      if c.peek.any isBreak then
        skipGap fuel { s with cursor := c.skipBreak, keyAllowed := s.keyAllowed || !s.inFlow }
      else { s with cursor := c }

/-- A token between documents. -/
def readMark? (token : Token) (cursor : Cursor) (s : Lexer) : Option Lexer := do
  let s ← (s.closeBlocks (-1)).dropKey?
  some ((s.push token cursor).allowKey false)

/-- An opening bracket. -/
def readOpening? (token : Token) (s : Lexer) : Option Lexer := do
  let s ← s.noteKey?
  let s := s.push token s.cursor.skip
  some { s with keys := none :: s.keys, keyAllowed := true }

/-- A closing bracket. -/
def readClosing? (token : Token) (s : Lexer) : Option Lexer := do
  let s ← s.dropKey?
  let s := s.push token s.cursor.skip
  some { s with keys := if s.inFlow then s.keys.drop 1 else s.keys, keyAllowed := false }

/-- The comma between two entries in brackets. -/
def readFlowEntry? (s : Lexer) : Option Lexer := do
  let s ← s.dropKey?
  some ((s.push .flowEntry s.cursor.skip).allowKey true)

/-- Begins a block at this column, if one may begin here. -/
def openBlockHere? (start : Token) (s : Lexer) : Option Lexer :=
  if s.inFlow then some s
  else if s.keyAllowed then some (s.openBlock s.tokens.length s.cursor.column start)
  else none

/-- The dash before an entry of a block. -/
def readBlockEntry? (s : Lexer) : Option Lexer := do
  let s ← s.openBlockHere? .blockSequence
  let s ← s.dropKey?
  some ((s.push .blockEntry s.cursor.skip).allowKey true)

/-- The question mark before a key. -/
def readKey? (s : Lexer) : Option Lexer := do
  let s ← s.openBlockHere? .blockMapping
  let s ← s.dropKey?
  some ((s.push .key s.cursor.skip).allowKey !s.inFlow)

/-- The colon before a value. The possible key in front of it is one. -/
def readValue? (s : Lexer) : Option Lexer := do
  let s ← match s.keys with
    | some key :: keys =>
        let s := s.insert key.position .key
        let s := s.openBlock key.position key.place.column .blockMapping
        some { s with keys := none :: keys, keyAllowed := false }
    | _ => do
        let s ← s.openBlockHere? .blockMapping
        some (s.allowKey !s.inFlow)
  some (s.push .value s.cursor.skip)

/-- The name of an anchor behind its mark. -/
def readName? (make : String → Token) (s : Lexer) : Option Lexer := do
  let s ← s.noteKey?
  let (name, c) := s.cursor.skip.takeWhile isWordChar
  let ends := endsWord c.peek || c.peek.any fun ch => "?:,]\x7d%@\x60".toList.contains ch
  if name.isEmpty || !ends then none
  else some ((s.push (make (String.ofList name)) c).allowKey false)

/-- A tag. -/
def readTag? (s : Lexer) : Option Lexer := do
  let s ← s.noteKey?
  let (handle, rest, c) ← Yaml.readTag? s.inFlow s.cursor
  some ((s.push (.tag handle rest) c).allowKey false)

/-- A scalar that is written as a block of lines. -/
def readBlock? (style : Style) (s : Lexer) : Option Lexer := do
  let s ← s.dropKey?
  let (text, c) ← Yaml.readBlock? (style == .literal) s.indent s.cursor.skip
  some ((s.push (.scalar style (String.ofList text)) c).allowKey true)

/-- A scalar between quotes. -/
def readQuoted? (style : Style) (s : Lexer) : Option Lexer := do
  let s ← s.noteKey?
  let c := s.cursor.skip
  let (text, c) ← Yaml.readQuoted? (c.rest.length + 1) (style == .singleQuoted) [] c
  some ((s.push (.scalar style (String.ofList text)) c).allowKey false)

/-- A plain scalar. A key may begin behind it if it ends behind a line break. -/
def readPlain? (s : Lexer) : Option Lexer := do
  let s ← s.noteKey?
  let (text, c, behindBreak) ←
    Yaml.readPlain? (s.cursor.rest.length + 1) s.inFlow (s.indent + 1).toNat [] {} s.cursor
  some ((s.push (.scalar .plain (String.ofList text)) c).allowKey behindBreak)

/-- Whether a plain scalar can begin here. A dash, a question mark and a colon begin
one where they have no meaning of their own. -/
def startsPlain (s : Lexer) : Bool :=
  s.cursor.peek.any fun ch =>
    (!isBlank ch && !isBreak ch &&
      !"-?:,[]\x7b\x7d#&*!|>\x27\x22%@\x60".toList.contains ch) ||
    (ch == '-' && !(s.cursor.peek 1).any isBlank) ||
    ((ch == '?' || ch == ':') && !s.inFlow && !endsWord (s.cursor.peek 1))

/-- The next token, which begins here. -/
def readToken? (s : Lexer) : Option Lexer := do
  let c := s.cursor
  let ch ← c.peek
  let isWord := endsWord (c.peek 1)
  if c.column == 0 && ch == '%' then
    let (directive, c) ← readDirective? c.skip
    s.readMark? (.directive directive) c
  else if c.atMark '-' then s.readMark? .documentStart (c.skip 3)
  else if c.atMark '.' then s.readMark? .documentEnd (c.skip 3)
  else if ch == '[' then s.readOpening? .flowSequence
  else if ch == '\x7b' then s.readOpening? .flowMapping
  else if ch == ']' then s.readClosing? .flowSequenceEnd
  else if ch == '\x7d' then s.readClosing? .flowMappingEnd
  else if ch == ',' then s.readFlowEntry?
  else if ch == '-' && isWord then s.readBlockEntry?
  else if ch == '?' && (s.inFlow || isWord) then s.readKey?
  else if ch == ':' && (s.inFlow || isWord) then s.readValue?
  else if ch == '*' then s.readName? .alias
  else if ch == '&' then s.readName? .anchor
  else if ch == '!' then s.readTag?
  else if ch == '|' && !s.inFlow then s.readBlock? .literal
  else if ch == '>' && !s.inFlow then s.readBlock? .folded
  else if ch == '\x27' then s.readQuoted? .singleQuoted
  else if ch == '\x22' then s.readQuoted? .doubleQuoted
  else if s.startsPlain then s.readPlain?
  else none

/-- The rest of the tokens. Every token takes a character, so the number of
characters is a bound on the number of steps. -/
def readTokens? : Nat → Lexer → Option (List Token)
  | 0, _ => none
  | fuel + 1, s => do
      let s ← (s.skipGap (s.cursor.rest.length + 1)).dropOldKeys?
      let s := s.closeBlocks s.cursor.column
      if s.cursor.rest.isEmpty then
        let s ← (s.closeBlocks (-1)).dropKey?
        some s.tokens.reverse
      else readTokens? fuel (← s.readToken?)

end Lexer

/-- The tokens of a text. -/
def Token.list? (text : String) : Option (List Token) := do
  let cs ← prepare? text.toList
  Lexer.readTokens? (cs.length + 1) { cursor := { rest := cs } }

end Placeholder.Yaml
