import BrowserWait.Json.Reader
import BrowserWait.Yaml.Cursor

/-!
# Scalars in a YAML text

Plain, single-quoted and double-quoted scalars. A line end inside a scalar stands for a space, and further line ends
directly behind it stand for themselves; blanks around line ends stand for nothing.
-/

namespace BrowserWait.Yaml

namespace Cursor

/-! ## Gaps inside scalars -/

/-- A gap inside a scalar: the blanks on its first line, and the line ends behind them. -/
structure Gap where
  blanks : List Char := []
  lineEnds : List Char := []
deriving Repr, Inhabited

namespace Gap

/-- Whether a gap goes on to another line. -/
def isMultiline (gap : Gap) : Bool := !gap.lineEnds.isEmpty

/-- What a gap stands for. -/
def text (gap : Gap) : List Char :=
  match gap.lineEnds with
  | [] => gap.blanks
  | ['\n'] => [' ']
  | '\n' :: more => more
  | lineEnds => lineEnds

end Gap

/-- The line ends from a position behind a line end up to the next word, and the position of that word. No tab may
stand in front of the margin. -/
def skipLines? (margin : Nat) : (fuel : Nat) → Cursor → Option (List Char × Cursor)
  | 0, cursor => some ([], cursor)
  | fuel + 1, cursor =>
    match cursor.rest with
    | [] => some ([], cursor)
    | c :: _ =>
      if isLineEnd c then do
        let (more, word) ← skipLines? margin fuel cursor.next
        return (c :: more, word)
      else if c = '\t' && cursor.column < margin then none
      else if isBlank c then skipLines? margin fuel cursor.next
      else some ([], cursor)

/-- The gap here, which may be empty, and the position of the next word. -/
def gap? (margin : Nat) (cursor : Cursor) : Option (Gap × Cursor) :=
  let blanks := cursor.rest.takeWhile isBlank
  let behind := cursor.skip blanks.length
  match behind.rest with
  | [] => some ({ blanks := blanks }, behind)
  | c :: rest =>
    if isLineEnd c then do
      let (more, word) ← skipLines? margin (rest.length + 1) behind.next
      return ({ lineEnds := c :: more }, word)
    else some ({ blanks := blanks }, behind)

/-! ## Quoted scalars -/

/-- The text of a single-quoted scalar behind its opening quote, and the position behind its closing one. -/
def singleQuoted? : (fuel : Nat) → Cursor → Option (List Char × Cursor)
  | 0, _ => none
  | fuel + 1, cursor =>
    if cursor.atMark then none
    else
      match cursor.rest with
      | [] => none
      | '\'' :: '\'' :: _ => do
        let (more, after) ← singleQuoted? fuel (cursor.skip 2)
        return ('\'' :: more, after)
      | '\'' :: _ => some ([], cursor.next)
      | c :: _ =>
        if isBlank c || isLineEnd c then do
          let (gap, word) ← gap? 0 cursor
          let (more, after) ← singleQuoted? fuel word
          return (gap.text ++ more, after)
        else do
          let (more, after) ← singleQuoted? fuel cursor.next
          return (c :: more, after)

/-- The character with a number, unless the number is no character's. -/
def character? (n : Nat) : Option Char := if n.isValidChar then some (Char.ofNat n) else none

/-- The character of hexadecimal digits. -/
def hexCharacter? (digits : List Char) : Option Char := do
  let values ← digits.mapM Json.hexValue?
  character? (values.foldl (fun value digit => value * 16 + digit) 0)

/-- The character of an escape and the number of characters it takes behind the backslash. -/
def escape? : List Char → Option (Char × Nat)
  | '0' :: _ => some ('\x00', 1)
  | 'a' :: _ => some ('\x07', 1)
  | 'b' :: _ => some ('\x08', 1)
  | 't' :: _ | '\t' :: _ => some ('\t', 1)
  | 'n' :: _ => some ('\n', 1)
  | 'v' :: _ => some ('\x0b', 1)
  | 'f' :: _ => some ('\x0c', 1)
  | 'r' :: _ => some ('\r', 1)
  | 'e' :: _ => some ('\x1b', 1)
  | ' ' :: _ => some (' ', 1)
  | '"' :: _ => some ('"', 1)
  | '/' :: _ => some ('/', 1)
  | '\\' :: _ => some ('\\', 1)
  | 'N' :: _ => some ('\u0085', 1)
  | '_' :: _ => some ('\u00a0', 1)
  | 'L' :: _ => some ('\u2028', 1)
  | 'P' :: _ => some ('\u2029', 1)
  | 'x' :: rest => if rest.length < 2 then none else (hexCharacter? (rest.take 2)).map (·, 3)
  | 'u' :: rest => if rest.length < 4 then none else (hexCharacter? (rest.take 4)).map (·, 5)
  | 'U' :: rest => if rest.length < 8 then none else (hexCharacter? (rest.take 8)).map (·, 9)
  | _ => none

/-- Whether a text begins with an escaped line end. -/
def startsWithJoin : List Char → Bool
  | '\\' :: c :: _ => isLineEnd c
  | _ => false

/-- The text of a double-quoted scalar behind its opening quote, and the position behind its closing one. An escaped
line end stands for nothing, and so do the blanks behind it. -/
def doubleQuoted? : (fuel : Nat) → Cursor → Option (List Char × Cursor)
  | 0, _ => none
  | fuel + 1, cursor =>
    if cursor.atMark then none
    else if startsWithJoin cursor.rest then do
      let (lineEnds, word) ← skipLines? 0 cursor.rest.length (cursor.skip 2)
      let (more, after) ← doubleQuoted? fuel word
      return (lineEnds ++ more, after)
    else
      match cursor.rest with
      | [] => none
      | '"' :: _ => some ([], cursor.next)
      | '\\' :: rest => do
        let (c, length) ← escape? rest
        let (more, after) ← doubleQuoted? fuel (cursor.skip (length + 1))
        return (c :: more, after)
      | c :: _ =>
        if isBlank c || isLineEnd c then do
          let (gap, word) ← gap? 0 cursor
          let (more, after) ← doubleQuoted? fuel word
          return (gap.text ++ more, after)
        else do
          let (more, after) ← doubleQuoted? fuel cursor.next
          return (c :: more, after)

/-! ## Plain scalars -/

/-- The characters that have a meaning between brackets. -/
def isFlowMark (c : Char) : Bool := [',', '[', ']', '\x7b', '\x7d'].contains c

/-- The characters that cannot begin a plain scalar. -/
def isReserved (c : Char) : Bool :=
  ['-', '?', ':', ',', '[', ']', '\x7b', '\x7d', '#', '&', '*', '!', '|', '>', '\'', '"', '%', '@', '\x60'].contains c

/-- Whether a plain scalar can begin with a text. -/
def startsPlain (inFlow : Bool) : List Char → Bool
  | [] => false
  | c :: rest =>
    !isBlank c && !isLineEnd c &&
      (!isReserved c || ((c == '-' || (!inFlow && (c == '?' || c == ':'))) && !startsWithGap rest))

/-- Whether a text goes on with a colon that is stuck to a mark, as no plain scalar between brackets may. -/
def startsWithStuckColon : List Char → Bool
  | ':' :: c :: _ => c == '?' || isFlowMark c
  | _ => false

/-- Whether a word of a plain scalar ends in front of a text. -/
def endsWord (inFlow : Bool) : List Char → Bool
  | [] => true
  | c :: rest => isBlank c || isLineEnd c || (c == ':' && startsWithGap rest) || (inFlow && isFlowMark c)

/-- The word here, which may be empty, and the position behind it. -/
def word? (inFlow : Bool) : (fuel : Nat) → Cursor → Option (List Char × Cursor)
  | 0, cursor => some ([], cursor)
  | fuel + 1, cursor =>
    if inFlow && startsWithStuckColon cursor.rest then none
    else if endsWord inFlow cursor.rest then some ([], cursor)
    else
      match cursor.rest with
      | [] => some ([], cursor)
      | c :: _ => do
        let (more, after) ← word? inFlow fuel cursor.next
        return (c :: more, after)

/-- Whether a plain scalar may go on behind a gap: not at a mark between documents, not at a comment, and in a block
not in front of the margin. -/
def continuesPlain (inFlow : Bool) (margin : Nat) (cursor : Cursor) : Bool :=
  !cursor.atMark && cursor.rest.head? != some '#' && (inFlow || margin ≤ cursor.column)

/-- The text of a plain scalar that goes on here behind a gap, the position behind it and the gap after it, and
whether the last gap goes on to another line. -/
def plain? (inFlow : Bool) (margin : Nat) : (fuel : Nat) → (isMultiline : Bool) → Cursor →
    Option (List Char × Cursor × Bool)
  | 0, isMultiline, cursor => some ([], cursor, isMultiline)
  | fuel + 1, isMultiline, cursor => do
    let (word, behind) ← word? inFlow (cursor.rest.length + 1) cursor
    if word.isEmpty then return ([], cursor, isMultiline)
    let (gap, following) ← gap? margin behind
    if continuesPlain inFlow margin following then
      let (more, after, isMultiline) ← plain? inFlow margin fuel gap.isMultiline following
      return (if more.isEmpty then word else word ++ gap.text ++ more, after, isMultiline)
    else return (word, following, gap.isMultiline)

end Cursor

end BrowserWait.Yaml
