/-!
# Positions in a YAML text

A position in a text knows its line and its column, because indentation gives a YAML text its structure. Lines end
with line feeds and with the separators for lines and paragraphs. Gaps are the blanks, line ends and comments between
two pieces of content.
-/

namespace BrowserWait.Yaml

/-- What is left of a text, and where it stands. -/
structure Cursor where
  rest : List Char
  line : Nat := 0
  /-- The number of characters in front of it on its line. -/
  column : Nat := 0
  /-- The number of bytes in front of it on its line. -/
  offset : Nat := 0
deriving Repr, Inhabited

namespace Cursor

/-- Whether a character separates words on a line. -/
def isBlank (c : Char) : Bool := c == ' ' || c == '\t'

/-- Whether a character ends a line. -/
def isLineEnd (c : Char) : Bool := c == '\n' || c == '\u2028' || c == '\u2029'

/-- Whether a text ends or goes on with a blank or a line end. -/
def startsWithGap : List Char → Bool
  | [] => true
  | c :: _ => isBlank c || isLineEnd c

/-- The position behind one character. -/
def next (cursor : Cursor) : Cursor :=
  match cursor.rest with
  | [] => cursor
  | c :: rest =>
    if isLineEnd c then { rest, line := cursor.line + 1 }
    else { rest, line := cursor.line, column := cursor.column + 1, offset := cursor.offset + c.utf8Size }

/-- The position behind some characters. -/
def skip : (count : Nat) → Cursor → Cursor
  | 0, cursor => cursor
  | count + 1, cursor => skip count cursor.next

/-- Whether a character may stand in a text. -/
def isPrintable (c : Char) : Bool :=
  let n := c.toNat
  [0x09, 0x0A, 0x0D, 0x85].contains n || (0x20 ≤ n && n ≤ 0x7E) || (0xA0 ≤ n && n ≤ 0xFFFD) || 0x10000 ≤ n

/-- A text with carriage returns and the like written as line feeds. -/
def withLineFeeds : List Char → List Char
  | [] => []
  | '\r' :: '\n' :: rest => '\n' :: withLineFeeds rest
  | '\r' :: rest | '\u0085' :: rest => '\n' :: withLineFeeds rest
  | c :: rest => c :: withLineFeeds rest

/-- The beginning of a text, unless a character may not stand in one. -/
def ofText? (text : String) : Option Cursor :=
  if text.toList.all isPrintable then some { rest := withLineFeeds text.toList } else none

/-- Whether a text begins with a mark three times over, and a gap behind it. -/
def startsWithMark (mark : Char) : List Char → Bool
  | a :: b :: c :: rest => a == mark && b == mark && c == mark && startsWithGap rest
  | _ => false

/-- Whether a line begins here with the mark in front of a document. -/
def atStartMark (cursor : Cursor) : Bool := cursor.column == 0 && startsWithMark '-' cursor.rest

/-- Whether a line begins here with the mark behind a document. -/
def atEndMark (cursor : Cursor) : Bool := cursor.column == 0 && startsWithMark '.' cursor.rest

/-- Whether a line begins here with a mark in front of or behind a document. -/
def atMark (cursor : Cursor) : Bool := cursor.atStartMark || cursor.atEndMark

/-- The position at the end of a line. -/
def skipToLineEnd (cursor : Cursor) : Cursor := cursor.skip (cursor.rest.takeWhile (!isLineEnd ·)).length

/-- The position of the next content, and whether a key may begin there: in a block, one may on a new line. A tab is
no gap in a block where a key may begin, and a byte order mark is one at the beginning of a line. -/
def skipGap (inFlow : Bool) : (fuel : Nat) → (keyMayBegin : Bool) → Cursor → Cursor × Bool
  | 0, keyMayBegin, cursor => (cursor, keyMayBegin)
  | fuel + 1, keyMayBegin, cursor =>
    match cursor.rest with
    | [] => (cursor, keyMayBegin)
    | c :: _ =>
      if isLineEnd c then skipGap inFlow fuel (keyMayBegin || !inFlow) cursor.next
      else if c = '#' then skipGap inFlow fuel keyMayBegin cursor.skipToLineEnd
      else if c = ' ' || (c = '\t' && (inFlow || !keyMayBegin)) || (c = '\uFEFF' && cursor.column = 0) then
        skipGap inFlow fuel keyMayBegin cursor.next
      else (cursor, keyMayBegin)

end Cursor

end BrowserWait.Yaml
