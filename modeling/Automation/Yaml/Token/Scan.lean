import Automation.Yaml.Token.Scalar
import Automation.Yaml.Token.Tag

/-!
# From a YAML text to its tokens

A `Scan` walks over a text and collects tokens. Two things are not local in YAML: indentation, kept
as the stack of the columns of the open block collections, and keys, which are recognised only at
their colon. A place where a key may have started is kept until the colon, the end of the line or
the thousandth character; at the colon the `key` token is put in front of what was collected since.

A text that is no YAML has no tokens. One with an escape or a number that stands for nothing has
those in front of it, and then the mark `Token.broken`.
-/

namespace Automation.Yaml

/-- A place where a key may have started. -/
structure KeyStart where
  /-- the number of tokens in front of it -/
  tokenNumber : Nat
  /-- whether nothing but a key may stand there -/
  required : Bool
  index : Nat
  line : Nat
  column : Nat

/-- The tokens of a text up to a place. -/
structure Scan where
  cursor : Cursor
  tokens : Array Token := #[]
  /-- the number of open flow collections -/
  flowLevel : Nat := 0
  /-- the column of the innermost block collection, and those around it -/
  indent : Int := -1
  outerIndents : List Int := []
  /-- whether a key may start here -/
  keyAllowed : Bool := true
  /-- the possible keys, by flow level -/
  keyStarts : List (Nat × KeyStart) := []
  done : Bool := false

namespace Scan

def emit (s : Scan) (t : Token) : Scan := { s with tokens := s.tokens.push t }

def inFlow (s : Scan) : Bool := s.flowLevel != 0

/-- The place behind blanks, comments and line breaks. In block context a key may start behind a
line break. -/
def skipToToken : Nat → Scan → Scan
  | 0, s => s
  | fuel + 1, s =>
    let c := s.cursor.skipSpaces.skipComment
    if (c.peek).any isBreak then
      skipToToken fuel
        { s with cursor := c.lineBreak.2, keyAllowed := s.keyAllowed || !s.inFlow }
    else { s with cursor := c }

/-- Whether a possible key is on another line or too far back. -/
def isStale (s : Scan) (k : KeyStart) : Bool :=
  k.line != s.cursor.line || 1024 < s.cursor.index - k.index

/-- Gives up the possible keys that are on another line or too far back. -/
def dropStaleKeys (s : Scan) : Outcome Scan :=
  if s.keyStarts.any fun k => s.isStale k.2 && k.2.required then invalid
  else .ok { s with keyStarts := s.keyStarts.filter fun k => !s.isStale k.2 }

/-- Gives up the possible key of this flow level. -/
def dropKey (s : Scan) : Outcome Scan :=
  if s.keyStarts.any fun k => k.1 == s.flowLevel && k.2.required then invalid
  else .ok { s with keyStarts := s.keyStarts.filter fun k => k.1 != s.flowLevel }

/-- Notes that a key may start here. -/
def noteKey (s : Scan) : Outcome Scan :=
  if s.keyAllowed then do
    let required := !s.inFlow && s.indent == (s.cursor.column : Int)
    let s ← s.dropKey
    let start : KeyStart :=
      { tokenNumber := s.tokens.size, required, index := s.cursor.index, line := s.cursor.line
        column := s.cursor.column }
    return { s with keyStarts := (s.flowLevel, start) :: s.keyStarts }
  else .ok s

/-- Closes the block collections that are indented more than the given column. -/
def closeBlocks (column : Int) : Nat → Scan → Scan
  | 0, s => s
  | fuel + 1, s =>
    if !s.inFlow && s.indent > column then
      closeBlocks column fuel
        { s.emit .blockEnd with
          indent := s.outerIndents.headD (-1), outerIndents := s.outerIndents.drop 1 }
    else s

def unwind (s : Scan) (column : Int) : Scan := s.closeBlocks column (s.outerIndents.length + 1)

/-- Opens a block collection at a column, unless one is open there. -/
def openBlock (s : Scan) (column : Nat) : Option Scan :=
  if s.indent < (column : Int) then
    some { s with indent := column, outerIndents := s.indent :: s.outerIndents }
  else none

/-- The end of the text closes everything. -/
def streamEnd (s : Scan) : Outcome Scan := do
  let s ← (s.unwind (-1)).dropKey
  return { s.emit .streamEnd with keyAllowed := false, keyStarts := [], done := true }

/-- A token at the start of a line between documents. -/
def betweenDocuments (s : Scan) : Outcome Scan := do
  let s ← (s.unwind (-1)).dropKey
  return { s with keyAllowed := false }

def directive (s : Scan) : Outcome Scan := do
  let s ← s.betweenDocuments
  let (t, c) ← s.cursor.directive
  return { s.emit t with cursor := c }

def documentMark (s : Scan) (t : Token) : Outcome Scan := do
  let s ← s.betweenDocuments
  return { s.emit t with cursor := s.cursor.skip 3 }

def openFlow (s : Scan) (t : Token) : Outcome Scan := do
  let s ← s.noteKey
  return { s.emit t with
    cursor := s.cursor.advance, flowLevel := s.flowLevel + 1, keyAllowed := true }

/-- A closing bracket without an opening one is no YAML. -/
def closeFlow (s : Scan) (t : Token) : Outcome Scan := do
  if !s.inFlow then invalid
  else
    let s ← s.dropKey
    return { s.emit t with
      cursor := s.cursor.advance, flowLevel := s.flowLevel - 1, keyAllowed := false }

def flowEntry (s : Scan) : Outcome Scan := do
  let s ← s.dropKey
  return { s.emit .flowEntry with cursor := s.cursor.advance, keyAllowed := true }

/-- The start of a block collection if the place is indented more than the one around it. -/
def startBlock (s : Scan) (t : Token) : Scan :=
  match s.openBlock s.cursor.column with
  | some opened => opened.emit t
  | none => s

def blockEntry (s : Scan) : Outcome Scan := do
  if !s.inFlow && !s.keyAllowed then invalid
  else
    let s := if s.inFlow then s else s.startBlock .blockSequenceStart
    let s ← s.dropKey
    return { s.emit .blockEntry with cursor := s.cursor.advance, keyAllowed := true }

def explicitKey (s : Scan) : Outcome Scan := do
  if !s.inFlow && !s.keyAllowed then invalid
  else
    let s := if s.inFlow then s else s.startBlock .blockMappingStart
    let s ← s.dropKey
    return { s.emit .key with cursor := s.cursor.advance, keyAllowed := !s.inFlow }

/-- A colon: what was collected since the possible key is the key, else the key was explicit. -/
def value (s : Scan) : Outcome Scan :=
  match s.keyStarts.find? fun k => k.1 == s.flowLevel with
  | some (_, start) =>
    let s := { s with
      keyStarts := s.keyStarts.filter fun k => k.1 != s.flowLevel
      tokens := s.tokens.insertIdxIfInBounds start.tokenNumber .key }
    let s :=
      if s.inFlow then s
      else match s.openBlock start.column with
        | some opened =>
          { opened with
            tokens := opened.tokens.insertIdxIfInBounds start.tokenNumber .blockMappingStart }
        | none => s
    .ok { s.emit .value with cursor := s.cursor.advance, keyAllowed := false }
  | none =>
    if !s.inFlow && !s.keyAllowed then invalid
    else do
      let s := if s.inFlow then s else s.startBlock .blockMappingStart
      let s ← s.dropKey
      return { s.emit .value with cursor := s.cursor.advance, keyAllowed := !s.inFlow }

/-- A token that may be a key or stand in front of one. -/
def keyLike (s : Scan) (read : Cursor → Outcome (Token × Cursor)) : Outcome Scan := do
  let s ← s.noteKey
  let (t, c) ← read s.cursor
  return { s.emit t with cursor := c, keyAllowed := false }

def plain (s : Scan) : Outcome Scan := do
  let s ← s.noteKey
  let (t, lineStart, c) := s.cursor.plainScalar s.inFlow (s.indent + 1).toNat
  return { s.emit t with cursor := c, keyAllowed := lineStart }

def blockScalar (s : Scan) (folded : Bool) : Outcome Scan := do
  let s ← s.dropKey
  let (t, c) ← s.cursor.blockScalar folded s.indent
  return { s.emit t with cursor := c, keyAllowed := true }

/-- Whether a plain scalar may start with a character in front of another. -/
def startsPlain (inFlow : Bool) (c : Char) (next : Option Char) : Bool :=
  if endsToken (some c) then false
  else if "-?:,[]\x7b\x7d#&*!|>'\"%@\x60".toList.contains c then
    !endsToken next && (c == '-' || (!inFlow && (c == '?' || c == ':')))
  else true

/-- The next token. -/
def step (s : Scan) : Outcome Scan := do
  let start := if s.cursor.index == 0 && s.cursor.sees (Char.ofNat 0xFEFF) then s.cursor.advance
    else s.cursor
  let s ← (skipToToken (start.rest.length + 1) { s with cursor := start }).dropStaleKeys
  let s := s.unwind s.cursor.column
  let c := s.cursor
  let next := c.peek 1
  match c.peek with
  | none => s.streamEnd
  | some ch =>
    if ch == '%' && c.column == 0 then s.directive
    else if c.column == 0 && c.seesDocumentMark then
      s.documentMark (if ch == '-' then .documentStart else .documentEnd)
    else if ch == '[' then s.openFlow .flowSequenceStart
    else if ch == '\x7b' then s.openFlow .flowMappingStart
    else if ch == ']' then s.closeFlow .flowSequenceEnd
    else if ch == '\x7d' then s.closeFlow .flowMappingEnd
    else if ch == ',' then s.flowEntry
    else if ch == '-' && endsToken next then s.blockEntry
    else if ch == '?' && (s.inFlow || endsToken next) then s.explicitKey
    else if ch == ':' && (s.inFlow || endsToken next) then s.value
    else if ch == '*' then
      s.keyLike fun c => do
        let (name, c) ← c.anchorName
        return (.repeated name, c)
    else if ch == '&' then
      s.keyLike fun c => do
        let (name, c) ← c.anchorName
        return (.anchor name, c)
    else if ch == '!' then s.keyLike Cursor.tag
    else if ch == '|' && !s.inFlow then s.blockScalar false
    else if ch == '>' && !s.inFlow then s.blockScalar true
    else if ch == '\'' then s.keyLike (Cursor.quotedScalar false)
    else if ch == '"' then s.keyLike (Cursor.quotedScalar true)
    else if startsPlain s.inFlow ch next then s.plain
    else invalid

/-- The tokens up to one that cannot be made. Of those behind a place where a key may have started,
none is known as long as the next one is not. -/
def cutOff (s : Scan) (f : Fault) : Scan :=
  let known := (s.keyStarts.filter fun k => !s.isStale k.2).foldl
    (fun n k => min n k.2.tokenNumber) s.tokens.size
  { s with tokens := (s.tokens.take known).push (.broken f), done := true }

/-- All tokens from a place on. Each step takes a character or ends the text. -/
def run : Nat → Scan → Outcome Scan
  | 0, s => .ok s
  | fuel + 1, s =>
    match s.step with
    | .ok s => if s.done then .ok s else run fuel s
    | .error (.fault f) => .ok (s.cutOff f)
    | .error failure => .error failure

end Scan

/-- The tokens of a text. -/
def tokens (text : String) : Outcome (List Token) := do
  let codes := Text.codes text.toList
  if codes.all isAllowed then
    let s ← Scan.run (codes.length + 1) { cursor := { rest := codes.map Char.ofNat } }
    return s.tokens.toList
  else invalid

end Automation.Yaml
