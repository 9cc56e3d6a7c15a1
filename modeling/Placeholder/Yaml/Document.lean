import Placeholder.Table
import Placeholder.Yaml.Lexer
import Placeholder.Yaml.Node

/-! # Reading a YAML document

The nodes that the tokens of a text make up. A text holds at most one document.

The readers of nodes call each other, so they take a bound on the number of
steps: at most two steps in a row take no token, so a little more than three times
the number of tokens is enough.
-/

namespace Placeholder.Yaml

/-- The tokens that are left, the meanings of tag handles, and the numbers of the
anchors so far. -/
structure Tokens where
  rest : List Token
  handles : Table Tag := Table.empty
  anchors : Table Nat := Table.empty
deriving Repr

/-- A reader takes tokens off and gives a result, or fails. -/
abbrev Reader (α : Type) := StateT Tokens Option α

namespace Reader

/-- The next token, which stays where it is. -/
def next : Reader (Option Token) := do return (← get).rest.head?

/-- Takes off the next token. -/
def advance : Reader Unit := modify fun s => { s with rest := s.rest.drop 1 }

/-- Whether the next token is one of these. -/
def sees (tokens : List Token) : Reader Bool := do return (← next).any tokens.contains

/-- Takes off a token that has to be there. -/
def expect (token : Token) : Reader Unit := do
  if ← sees [token] then advance else failure

/-! ## Properties -/

/-- The number of the anchor with a name. -/
def anchorNumber (name : String) : Reader Nat := do
  match (← get).anchors.find? name with
  | some n => return n
  | none => failure

/-- Gives an anchor a number. -/
def addAnchor (name : String) : Reader Nat := do
  let n := (← get).anchors.size
  modify fun s => { s with anchors := s.anchors.insert name n }
  return n

/-- The tag that a handle and a rest stand for. -/
def tagOf (handle : String) (rest : Tag) : Reader Tag := do
  if handle.isEmpty then return rest
  else
    match (← get).handles.find? handle with
    | some meaning => return meaning ++ rest
    | none => failure

/-- An anchor, if there is one. -/
def readAnchor : Reader (Option String) := do
  match ← next with
  | some (.anchor name) => do
      advance
      return some name
  | _ => return none

/-- A tag, if there is one. -/
def readTag : Reader (Option Tag) := do
  match ← next with
  | some (.tag handle rest) => do
      advance
      return some (← tagOf handle rest)
  | _ => return none

/-- The properties of a node: an anchor and a tag, in either order. -/
def readProperties : Reader Properties := do
  let before ← readAnchor
  let tag ← readTag
  let name ← if before.isSome then pure before else readAnchor
  match name with
  | some name => return { anchor := some (← addAnchor name), tag := tag }
  | none => return { tag := tag }

/-- The node that properties alone make. -/
def bare (p : Properties) : Reader Node :=
  if p.anchor.isNone && p.tag.isNone then failure else pure (.scalar p .plain "")

/-! ## Nodes -/

mutual

/-- A node. `inBlock` tells whether a block may begin here, and `afterKey` whether
the entries of a sequence may stand here without any indentation. -/
def readNode (fuel : Nat) (inBlock afterKey : Bool) : Reader Node :=
  match fuel with
  | 0 => failure
  | fuel + 1 => do
      match ← next with
      | some (.alias name) => do
          advance
          return .alias (← anchorNumber name)
      | _ => do
          let p ← readProperties
          match ← next with
          | some (.scalar style text) => do
              advance
              return .scalar p style text
          | some .flowSequence => do
              advance
              return .sequence p (← readFlowElements fuel true)
          | some .flowMapping => do
              advance
              return .mapping p (← readFlowMembers fuel true)
          | some .blockSequence =>
              if inBlock then do
                advance
                return .sequence p (← readBlockElements fuel)
              else bare p
          | some .blockMapping =>
              if inBlock then do
                advance
                return .mapping p (← readBlockMembers fuel)
              else bare p
          | some .blockEntry =>
              if afterKey then return .sequence p (← readEntries fuel) else bare p
          | _ => bare p

/-- A node, or a blank one in front of one of these tokens. -/
def readNodeBefore (fuel : Nat) (ends : List Token) (inBlock afterKey : Bool) : Reader Node :=
  match fuel with
  | 0 => failure
  | fuel + 1 => do
      if ← sees ends then return .blank else readNode fuel inBlock afterKey

/-- A value behind its colon, or a blank node where there is no colon. -/
def readValueBefore (fuel : Nat) (ends : List Token) (inBlock : Bool) : Reader Node :=
  match fuel with
  | 0 => failure
  | fuel + 1 => do
      if ← sees [.value] then do
        advance
        readNodeBefore fuel ends inBlock inBlock
      else return .blank

/-- The elements of a block sequence and its end. -/
def readBlockElements (fuel : Nat) : Reader (List Node) :=
  match fuel with
  | 0 => failure
  | fuel + 1 => do
      if ← sees [.blockEnd] then do
        advance
        return []
      else do
        expect .blockEntry
        let x ← readNodeBefore fuel [.blockEntry, .blockEnd] true false
        return x :: (← readBlockElements fuel)

/-- The elements of a sequence whose dashes stand below the key of the sequence. -/
def readEntries (fuel : Nat) : Reader (List Node) :=
  match fuel with
  | 0 => failure
  | fuel + 1 => do
      if ← sees [.blockEntry] then do
        advance
        let x ← readNodeBefore fuel [.blockEntry, .key, .value, .blockEnd] true false
        return x :: (← readEntries fuel)
      else return []

/-- The members of a block mapping and its end. -/
def readBlockMembers (fuel : Nat) : Reader (List (Node × Node)) :=
  match fuel with
  | 0 => failure
  | fuel + 1 => do
      if ← sees [.blockEnd] then do
        advance
        return []
      else do
        expect .key
        let k ← readNodeBefore fuel [.key, .value, .blockEnd] true true
        let x ← readValueBefore fuel [.key, .value, .blockEnd] true
        return (k, x) :: (← readBlockMembers fuel)

/-- The elements of a sequence in brackets, and the closing bracket. -/
def readFlowElements (fuel : Nat) (first : Bool) : Reader (List Node) :=
  match fuel with
  | 0 => failure
  | fuel + 1 => do
      if !first && !(← sees [.flowSequenceEnd]) then expect .flowEntry
      if ← sees [.flowSequenceEnd] then do
        advance
        return []
      else if ← sees [.key] then do
        advance
        let pair ← readPair fuel
        return .mapping {} [pair] :: (← readFlowElements fuel false)
      else do
        let x ← readNode fuel false false
        return x :: (← readFlowElements fuel false)

/-- The one member of a mapping that is an element of a sequence in brackets. A token
that shows that the key is missing is taken off in place of the key. -/
def readPair (fuel : Nat) : Reader (Node × Node) :=
  match fuel with
  | 0 => failure
  | fuel + 1 => do
      let ends := [Token.flowEntry, .flowSequenceEnd]
      let k ← if ← sees (.value :: ends) then do
          advance
          pure Node.blank
        else readNode fuel false false
      let x ← readValueBefore fuel ends false
      return (k, x)

/-- The members of a mapping in braces, and the closing brace. -/
def readFlowMembers (fuel : Nat) (first : Bool) : Reader (List (Node × Node)) :=
  match fuel with
  | 0 => failure
  | fuel + 1 => do
      let ends := [Token.flowEntry, .flowMappingEnd]
      if !first && !(← sees [.flowMappingEnd]) then expect .flowEntry
      if ← sees [.flowMappingEnd] then do
        advance
        return []
      else if ← sees [.key] then do
        advance
        let k ← readNodeBefore fuel (.value :: ends) false false
        let x ← readValueBefore fuel ends false
        return (k, x) :: (← readFlowMembers fuel false)
      else do
        let k ← readNode fuel false false
        return (k, .blank) :: (← readFlowMembers fuel false)

end

/-! ## Documents -/

/-- Puts the meanings of the handles that every document has behind those that it
gives itself. -/
def addCommonHandles : Reader Unit :=
  modify fun s =>
    let add (handle : String) (meaning : Tag) (t : Table Tag) : Table Tag :=
      if t.contains handle then t else t.insert handle meaning
    { s with handles := add "!!" (.common "") (add "!" [Tag.mark] s.handles) }

/-- The directives of a document. At most one may give the version, which is 1.1 or
1.2, and none may give a handle again. -/
def readDirectives (fuel : Nat) (versionGiven : Bool) : Reader Unit :=
  match fuel with
  | 0 => failure
  | fuel + 1 => do
      match ← next with
      | some (.directive (.version major minor)) =>
          if versionGiven || major != 1 || (minor != 1 && minor != 2) then failure
          else do
            advance
            readDirectives fuel true
      | some (.directive (.handle handle meaning)) =>
          if (← get).handles.contains handle then failure
          else do
            advance
            modify fun s => { s with handles := s.handles.insert handle meaning }
            readDirectives fuel versionGiven
      | _ => addCommonHandles

/-- The node of a document. The three dashes in front of it must not be missing behind
directives, and the node may be missing behind the dashes. -/
def readRoot (fuel : Nat) : Reader Node := do
  let count := (← get).rest.length
  readDirectives fuel false
  let directed := (← get).rest.length < count
  if directed && !(← sees [.documentStart]) then failure
  match ← next with
  | some .documentStart => do
      advance
      match ← next with
      | none | some .documentStart | some .documentEnd | some (.directive _) => return .blank
      | _ => readNode fuel true false
  | _ => readNode fuel true false

/-- The only document of the tokens. -/
def readDocument (fuel : Nat) : Reader Document := do
  let root ← if (← next).isNone then pure none else some <$> readRoot fuel
  modify fun s => { s with rest := s.rest.dropWhile (· == .documentEnd) }
  if (← next).isSome then failure else return .ofRoot root

end Reader

/-- The document of a text. -/
def Document.ofText? (text : String) : Option Document := do
  let tokens ← Token.list? text
  let (document, _) ← (Reader.readDocument (4 * tokens.length + 8)).run { rest := tokens }
  some document

end Placeholder.Yaml
