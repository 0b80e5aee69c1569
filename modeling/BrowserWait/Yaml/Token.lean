import BrowserWait.Yaml.Scalar

/-!
# Tokens of a YAML text

A text is cut into tokens, and its indentation is turned into tokens of its own: a list or a mapping in a block begins
where its dashes or keys are indented further than the block around it, and ends where a line is indented less. A key
on one line is known by the colon behind it only, so that the place where one may have begun is remembered until then.
-/

namespace BrowserWait.Yaml

/-- The tokens of a text. -/
inductive Token where
  /-- The mark in front of a document. -/
  | documentStart
  /-- The mark behind a document. -/
  | documentEnd
  | listBlock
  | mappingBlock
  /-- The end of a list or a mapping in a block. -/
  | blockEnd
  | openList
  | closeList
  | openMapping
  | closeMapping
  | comma
  | dash
  /-- What stands in front of a key, written as a question mark or not. -/
  | key
  | colon
  | scalar (text : String) (plain : Bool)
deriving DecidableEq, Repr, Inhabited

/-- A place where a key may have begun. -/
structure KeyStart where
  /-- Whether a block goes on here, so that there has to be a key. -/
  required : Bool
  /-- The number of tokens in front of it. -/
  position : Nat
  line : Nat
  column : Nat
  /-- The number of bytes in front of it on its line. -/
  offset : Nat
deriving DecidableEq, Repr, Inhabited

namespace KeyStart

/-- The number of bytes that a key has room for. -/
def maxLength : Nat := 1024

/-- Whether a colon here would make a key of what stands between. -/
def reaches (start : KeyStart) (cursor : Cursor) : Bool :=
  start.line == cursor.line && cursor.offset ≤ start.offset + maxLength

end KeyStart

/-- A text that is cut into tokens up to some position. -/
structure Lexer where
  cursor : Cursor
  tokens : Array Token := #[]
  /-- The columns of the blocks around the position, the innermost first. -/
  blocks : List Nat := []
  /-- Whether a key may begin at the position. -/
  keyMayBegin : Bool := true
  /-- Where a key may have begun, inside the innermost brackets. -/
  keyStart : Option KeyStart := none
  /-- Where keys may have begun outside of each pair of brackets around the position, the innermost first. -/
  outerStarts : List (Option KeyStart) := []
deriving Repr, Inhabited

namespace Lexer

/-- Whether the position is between brackets. -/
def inFlow (lexer : Lexer) : Bool := !lexer.outerStarts.isEmpty

/-- The first column inside the innermost block. -/
def margin (lexer : Lexer) : Nat :=
  match lexer.blocks with
  | [] => 0
  | column :: _ => column + 1

/-- The text with one more token, which is so many characters long. -/
def push (token : Token) (length : Nat) (lexer : Lexer) : Lexer :=
  { lexer with tokens := lexer.tokens.push token, cursor := lexer.cursor.skip length }

/-! ## Blocks -/

/-- Begins a block whose keys or dashes stand in a column, unless the innermost block is indented as far. The block
begins in front of the token at an index. -/
def openBlock (token : Token) (column index : Nat) (lexer : Lexer) : Lexer :=
  if lexer.inFlow || column < lexer.margin then lexer
  else { lexer with blocks := column :: lexer.blocks, tokens := lexer.tokens.insertIdxIfInBounds index token }

/-- Ends some of the blocks, unless there are brackets around the position. -/
def closeBlocks (isClosed : Nat → Bool) (lexer : Lexer) : Lexer :=
  if lexer.inFlow then lexer
  else
    let closed := lexer.blocks.takeWhile isClosed
    { lexer with
      blocks := lexer.blocks.dropWhile isClosed
      tokens := lexer.tokens ++ closed.map fun _ => Token.blockEnd }

/-! ## Keys -/

/-- Gives up a place where a key may have begun, unless there has to be one. -/
def withoutKeyStart? (lexer : Lexer) : Option Lexer :=
  match lexer.keyStart with
  | some start => if start.required then none else some { lexer with keyStart := none }
  | none => some lexer

/-- Remembers the position as a place where a key may have begun, if one may begin there. -/
def withKeyStart? (lexer : Lexer) : Option Lexer :=
  if lexer.keyMayBegin then do
    let lexer ← lexer.withoutKeyStart?
    let { line, column, offset, .. } := lexer.cursor
    let required := !lexer.inFlow && lexer.blocks.head? == some column
    return { lexer with keyStart := some { required, position := lexer.tokens.size, line, column, offset } }
  else some lexer

/-- Gives up the places that no colon at the position could make a key of, unless there has to be one. -/
def withoutLostStarts? (lexer : Lexer) : Option Lexer := do
  let reachable? : Option KeyStart → Option (Option KeyStart)
    | some start =>
      if start.reaches lexer.cursor then some (some start) else if start.required then none else some none
    | none => some none
  return {
    lexer with
    keyStart := ← reachable? lexer.keyStart
    outerStarts := ← lexer.outerStarts.mapM reachable? }

/-! ## Marks and scalars -/

/-- Reads a mark in front of or behind a document, where all blocks end. -/
def documentMark? (token : Token) (lexer : Lexer) : Option Lexer := do
  let lexer ← (lexer.closeBlocks fun _ => true).withoutKeyStart?
  return { lexer.push token 3 with keyMayBegin := false }

/-- Reads an opening bracket; a key may begin with it, and behind it. -/
def opening? (token : Token) (lexer : Lexer) : Option Lexer := do
  let lexer ← lexer.withKeyStart?
  return {
    lexer.push token 1 with
    keyMayBegin := true
    keyStart := none
    outerStarts := lexer.keyStart :: lexer.outerStarts }

/-- Reads a closing bracket; a key that began with the opening one may end with it. -/
def closing? (token : Token) (lexer : Lexer) : Option Lexer := do
  let lexer ← lexer.withoutKeyStart?
  return {
    lexer.push token 1 with
    keyMayBegin := false
    keyStart := lexer.outerStarts.head?.join
    outerStarts := lexer.outerStarts.tail }

/-- Reads a comma. -/
def comma? (lexer : Lexer) : Option Lexer := do
  let lexer ← lexer.withoutKeyStart?
  return { lexer.push .comma 1 with keyMayBegin := true }

/-- Begins a block at the position, unless it is between brackets; outside of them a key has to be possible there. -/
def openBlockHere? (token : Token) (lexer : Lexer) : Option Lexer :=
  if lexer.inFlow then some lexer
  else if lexer.keyMayBegin then some (lexer.openBlock token lexer.cursor.column lexer.tokens.size)
  else none

/-- Reads a dash in front of an item. -/
def dash? (lexer : Lexer) : Option Lexer := do
  let lexer ← (← lexer.openBlockHere? .listBlock).withoutKeyStart?
  return { lexer.push .dash 1 with keyMayBegin := true }

/-- Reads a question mark in front of a key. -/
def questionMark? (lexer : Lexer) : Option Lexer := do
  let lexer ← (← lexer.openBlockHere? .mappingBlock).withoutKeyStart?
  return { lexer.push .key 1 with keyMayBegin := !lexer.inFlow }

/-- Reads a colon, which makes a key of what began where a key may have begun. -/
def colon? (lexer : Lexer) : Option Lexer :=
  match lexer.keyStart with
  | some start =>
    let tokens := lexer.tokens.insertIdxIfInBounds start.position .key
    let lexer := { lexer with tokens, keyStart := none, keyMayBegin := false }
    some ((lexer.openBlock .mappingBlock start.column start.position).push .colon 1)
  | none => do
    let lexer ← lexer.openBlockHere? .mappingBlock
    return { lexer.push .colon 1 with keyMayBegin := !lexer.inFlow }

/-- Reads a scalar in quotes with one of the readers of their text. -/
def quoted? (read : (fuel : Nat) → Cursor → Option (List Char × Cursor)) (lexer : Lexer) : Option Lexer := do
  let lexer ← lexer.withKeyStart?
  let (text, after) ← read lexer.cursor.rest.length lexer.cursor.next
  return { lexer.push (.scalar (String.ofList text) false) 0 with cursor := after, keyMayBegin := false }

/-- Reads a plain scalar. -/
def plain? (lexer : Lexer) : Option Lexer := do
  let lexer ← lexer.withKeyStart?
  let (text, after, isMultiline) ←
    Cursor.plain? lexer.inFlow lexer.margin (lexer.cursor.rest.length + 1) false lexer.cursor
  return { lexer.push (.scalar (String.ofList text) true) 0 with cursor := after, keyMayBegin := isMultiline }

/-! ## Texts -/

/-- Goes on to the next content. -/
def withoutGap? (lexer : Lexer) : Option Lexer := do
  let (cursor, keyMayBegin) := lexer.cursor.skipGap lexer.inFlow (lexer.cursor.rest.length + 1) lexer.keyMayBegin
  let lexer ← { lexer with cursor, keyMayBegin }.withoutLostStarts?
  return lexer.closeBlocks (cursor.column < ·)

/-- Reads the token at the position. -/
def token? (lexer : Lexer) : Option Lexer :=
  if lexer.cursor.atStartMark then lexer.documentMark? .documentStart
  else if lexer.cursor.atEndMark then lexer.documentMark? .documentEnd
  else
    match lexer.cursor.rest with
    | [] => none
    | '[' :: _ => lexer.opening? .openList
    | ']' :: _ => lexer.closing? .closeList
    | '\x7b' :: _ => lexer.opening? .openMapping
    | '\x7d' :: _ => lexer.closing? .closeMapping
    | ',' :: _ => lexer.comma?
    | '\'' :: _ => lexer.quoted? Cursor.singleQuoted?
    | '"' :: _ => lexer.quoted? Cursor.doubleQuoted?
    | c :: rest =>
      let isAlone := Cursor.startsWithGap rest
      if c = '-' && isAlone then lexer.dash?
      else if c = '?' && (lexer.inFlow || isAlone) then lexer.questionMark?
      else if c = ':' && (lexer.inFlow || isAlone) then lexer.colon?
      else if Cursor.startsPlain lexer.inFlow lexer.cursor.rest then lexer.plain?
      else none

/-- Reads tokens up to the end of the text. -/
def run? : (fuel : Nat) → Lexer → Option Lexer
  | 0, _ => none
  | fuel + 1, lexer => do
    let lexer ← lexer.withoutGap?
    if lexer.cursor.rest.isEmpty then (lexer.closeBlocks fun _ => true).withoutKeyStart?
    else run? fuel (← lexer.token?)

end Lexer

/-- The tokens of a text. -/
def Token.ofText? (text : String) : Option (List Token) := do
  let cursor ← Cursor.ofText? text
  let lexer ← Lexer.run? (cursor.rest.length + 1) { cursor }
  return lexer.tokens.toList

end BrowserWait.Yaml
