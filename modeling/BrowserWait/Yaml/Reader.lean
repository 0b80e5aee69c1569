import BrowserWait.Yaml.Basic
import BrowserWait.Yaml.Token

/-!
# Reading YAML texts

A text with one YAML document is read into a value, or refused: block and flow mappings, block and flow lists, plain
and quoted scalars, comments. There are no anchors, tags and directives, and no scalars in blocks of their own.
-/

namespace BrowserWait.Yaml

/-! ## Between brackets -/

/-- Whether an entry between brackets ends in front of some tokens. -/
def endsFlowEntry : List Token → Bool
  | .comma :: _ | .closeList :: _ | .closeMapping :: _ => true
  | _ => false

mutual

/-- The value that tokens begin with, other than a block, and the tokens behind it. -/
def flowValue? : (fuel : Nat) → List Token → Option (Yaml × List Token)
  | 0, _ => none
  | _ + 1, .scalar text plain :: rest => some (scalar text plain, rest)
  | fuel + 1, .openList :: rest => do
    let (items, rest) ← flowItems? fuel rest
    return (list items, rest)
  | fuel + 1, .openMapping :: rest => do
    let (entries, rest) ← flowEntries? fuel rest
    return (mapping entries, rest)
  | _ + 1, _ => none

/-- The items of a list up to its closing bracket, and the tokens behind it. An item with a key is a mapping. -/
def flowItems? : (fuel : Nat) → List Token → Option (List Yaml × List Token)
  | 0, _ => none
  | _ + 1, .closeList :: rest => some ([], rest)
  | fuel + 1, tokens => do
    let (item, rest) ← match tokens with
      | .key :: rest => do
        let (key, rest) ← flowItemKey? fuel rest
        let (value, rest) ← flowMember? fuel rest
        some (mapping [(key, value)], rest)
      | _ => flowValue? fuel tokens
    match rest with
    | .comma :: rest =>
      let (more, rest) ← flowItems? fuel rest
      return (item :: more, rest)
    | .closeList :: rest => return ([item], rest)
    | _ => none

/-- The entries of a mapping up to its closing brace, and the tokens behind it. -/
def flowEntries? : (fuel : Nat) → List Token → Option (List (Yaml × Yaml) × List Token)
  | 0, _ => none
  | _ + 1, .closeMapping :: rest => some ([], rest)
  | fuel + 1, tokens => do
    let (entry, rest) ← match tokens with
      | .key :: rest => do
        let (key, rest) ← flowKey? fuel rest
        let (value, rest) ← flowMember? fuel rest
        some ((key, value), rest)
      | _ => do
        let (key, rest) ← flowValue? fuel tokens
        some ((key, missing), rest)
    match rest with
    | .comma :: rest =>
      let (more, rest) ← flowEntries? fuel rest
      return (entry :: more, rest)
    | .closeMapping :: rest => return ([entry], rest)
    | _ => none

/-- The key of an entry of a mapping, which may be missing, and the tokens behind it. -/
def flowKey? : (fuel : Nat) → List Token → Option (Yaml × List Token)
  | 0, _ => none
  | fuel + 1, tokens =>
    match tokens with
    | .colon :: _ | .comma :: _ | .closeMapping :: _ => some (missing, tokens)
    | _ => flowValue? fuel tokens

/-- The key of an item of a list, and the tokens behind it. A missing key takes the token that follows it. -/
def flowItemKey? : (fuel : Nat) → List Token → Option (Yaml × List Token)
  | 0, _ => none
  | fuel + 1, tokens =>
    match tokens with
    | .colon :: rest | .comma :: rest | .closeList :: rest => some (missing, rest)
    | _ => flowValue? fuel tokens

/-- The colon and the value behind a key, which may be missing, and the tokens behind them. -/
def flowMember? : (fuel : Nat) → List Token → Option (Yaml × List Token)
  | 0, _ => none
  | fuel + 1, .colon :: rest => if endsFlowEntry rest then some (missing, rest) else flowValue? fuel rest
  | _ + 1, tokens => some (missing, tokens)

end

/-! ## In blocks -/

/-- Whether what a dash, a key or a colon stands for is missing in front of some tokens. -/
def endsBlockEntry : List Token → Bool
  | .key :: _ | .colon :: _ | .blockEnd :: _ => true
  | _ => false

mutual

/-- The value that tokens begin with, and the tokens behind it. -/
def blockValue? : (fuel : Nat) → List Token → Option (Yaml × List Token)
  | 0, _ => none
  | fuel + 1, .listBlock :: rest => do
    let (items, rest) ← blockItems? fuel rest
    return (list items, rest)
  | fuel + 1, .mappingBlock :: rest => do
    let (entries, rest) ← blockEntries? fuel rest
    return (mapping entries, rest)
  | fuel + 1, tokens => flowValue? fuel tokens

/-- The items of a list up to the end of its block, and the tokens behind it. -/
def blockItems? : (fuel : Nat) → List Token → Option (List Yaml × List Token)
  | 0, _ => none
  | _ + 1, .blockEnd :: rest => some ([], rest)
  | fuel + 1, .dash :: rest => do
    let (item, rest) ← match rest with
      | .dash :: _ | .blockEnd :: _ => some (missing, rest)
      | _ => blockValue? fuel rest
    let (more, rest) ← blockItems? fuel rest
    return (item :: more, rest)
  | _ + 1, _ => none

/-- The items of a list without a block of its own, as behind a key in the column of the dashes, and the tokens behind
it. -/
def bareItems? : (fuel : Nat) → List Token → Option (List Yaml × List Token)
  | 0, _ => none
  | fuel + 1, .dash :: rest => do
    let (item, rest) ← match rest with
      | .dash :: _ => some (missing, rest)
      | _ => if endsBlockEntry rest then some (missing, rest) else blockValue? fuel rest
    let (more, rest) ← bareItems? fuel rest
    return (item :: more, rest)
  | _ + 1, tokens => some ([], tokens)

/-- The entries of a mapping up to the end of its block, and the tokens behind it. -/
def blockEntries? : (fuel : Nat) → List Token → Option (List (Yaml × Yaml) × List Token)
  | 0, _ => none
  | _ + 1, .blockEnd :: rest => some ([], rest)
  | fuel + 1, .key :: rest => do
    let (key, rest) ← blockMember? fuel rest
    let (value, rest) ← match rest with
      | .colon :: rest => blockMember? fuel rest
      | _ => some (missing, rest)
    let (more, rest) ← blockEntries? fuel rest
    return ((key, value) :: more, rest)
  | _ + 1, _ => none

/-- The key or the value of an entry, which may be missing, and the tokens behind it. -/
def blockMember? : (fuel : Nat) → List Token → Option (Yaml × List Token)
  | 0, _ => none
  | fuel + 1, tokens =>
    match tokens with
    | .dash :: _ => do
      let (items, rest) ← bareItems? fuel tokens
      return (list items, rest)
    | _ => if endsBlockEntry tokens then some (missing, tokens) else blockValue? fuel tokens

end

/-! ## Documents -/

/-- The value of the document that tokens begin with, and the tokens behind it. -/
def document? (fuel : Nat) (tokens : List Token) : Option (Yaml × List Token) :=
  match tokens with
  | [] => some (missing, [])
  | .documentStart :: rest =>
    match rest with
    | [] | .documentStart :: _ | .documentEnd :: _ => some (missing, rest)
    | _ => blockValue? fuel rest
  | _ => blockValue? fuel tokens

/-- The value of a text with one document, behind which nothing may stand but marks of its end. -/
def parse? (text : String) : Option Yaml := do
  let tokens ← Token.ofText? text
  let (value, rest) ← document? (4 * tokens.length + 4) tokens
  if rest.all (· == .documentEnd) then some value else none

end BrowserWait.Yaml
