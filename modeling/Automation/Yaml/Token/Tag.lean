import Automation.Text.Blank
import Automation.Yaml.Cursor
import Automation.Yaml.Token

/-!
# Tags, anchors and directives of a YAML text

The marks that name things: `&name`, `*name`, `!handle!suffix` and the lines that start with a
percent sign.
-/

namespace Automation.Yaml.Cursor

/-- A character of a tag, escapes apart. -/
def isTagChar (c : Char) : Bool :=
  c.isAlphanum || "-;/?:@&=+$,_.!~*'()[]".toList.contains c

/-- The bytes of a run of percent escapes. -/
def uriBytes : Nat → Cursor → Outcome (List UInt8 × Cursor)
  | 0, c => .ok ([], c)
  | fuel + 1, c =>
    match c.rest with
    | '%' :: a :: b :: _ =>
      match Text.hexValue? a, Text.hexValue? b with
      | some a, some b => do
        let (more, c) ← uriBytes fuel (c.skip 3)
        return (UInt8.ofNat (a * 16 + b) :: more, c)
      | _, _ => invalid
    | '%' :: _ => invalid
    | _ => .ok ([], c)

/-- The characters of a tag, with its escapes read as UTF-8. -/
def tagChars : Nat → Cursor → Outcome (List Char × Cursor)
  | 0, c => .ok ([], c)
  | fuel + 1, c =>
    let (plain, c) := c.span isTagChar
    if c.sees '%' then do
      let (bytes, c) ← uriBytes (c.rest.length + 1) c
      match String.fromUTF8? ⟨bytes.toArray⟩ with
      | some text =>
        let (more, c) ← tagChars fuel c
        return (plain ++ text.toList ++ more, c)
      | none => invalid
    else .ok (plain, c)

/-- A tag without its handle; it has at least one character. -/
def tagSuffix (c : Cursor) : Outcome (String × Cursor) := do
  let (text, next) ← tagChars (c.rest.length + 1) c
  if next.index = c.index then invalid else return (String.ofList (Text.ofChars text), next)

/-- A handle: an exclamation mark alone or a word between two of them. -/
def tagHandle (c : Cursor) : Outcome (String × Cursor) :=
  if !c.sees '!' then invalid
  else
    let after := c.advance
    if after.sees ' ' then .ok ("!", after)
    else
      let (word, next) := after.span isWordChar
      if next.sees '!' then .ok (String.ofList ('!' :: word ++ ['!']), next.advance)
      else invalid

/-- A tag. -/
def tag (c : Cursor) : Outcome (Token × Cursor) := do
  let (name, next) ←
    if c.peek 1 == some '<' then do
      let (suffix, next) ← tagSuffix (c.skip 2)
      if next.sees '>' then pure (TagName.mk none suffix, next.advance) else invalid
    else if endsToken (c.peek 1) then pure (TagName.mk none "!", c.advance)
    else do
      let word := c.advance.rest.takeWhile fun ch => !endsWord (some ch)
      let (handle, next) ← if word.contains '!' then c.tagHandle else pure ("!", c.advance)
      let (suffix, next) ← next.tagSuffix
      pure (TagName.mk (some handle) suffix, next)
  if endsWord next.peek then return (.tag name, next) else invalid

/-- The name of an anchor or alias. -/
def anchorName (c : Cursor) : Outcome (String × Cursor) :=
  let (name, next) := c.advance.span isWordChar
  let follows : Bool :=
    endsToken next.peek || next.peek.any fun ch => "?:,]\x7d%@\x60".toList.contains ch
  if name.isEmpty || !follows then invalid else .ok (String.ofList name, next)

/-- A decimal number of a directive. One with too many digits is a fault. -/
def directiveNumber (c : Cursor) : Outcome (Nat × Cursor) :=
  let (digits, next) := c.span Char.isDigit
  if digits.isEmpty then invalid
  else if Literal.isTooLong digits then Outcome.fault .value
  else .ok (digits.foldl (fun n d => n * 10 + (d.toNat - 48)) 0, next)

/-- A directive, to the end of its line. -/
def directive (c : Cursor) : Outcome (Token × Cursor) := do
  let (name, c) := c.advance.span isWordChar
  if name.isEmpty || !endsWord c.peek then invalid
  else
    let (d, c) ←
      if name = "YAML".toList then do
        let (major, c) ← c.skipSpaces.directiveNumber
        if !c.sees '.' then invalid
        else
          let (minor, c) ← c.advance.directiveNumber
          if endsWord c.peek then pure (Directive.version major minor, c) else invalid
      else if name = "TAG".toList then do
        let (handle, c) ← c.skipSpaces.tagHandle
        if !c.sees ' ' then invalid
        else
          let (start, c) ← c.skipSpaces.tagSuffix
          if endsWord c.peek then pure (Directive.tagHandle handle start, c) else invalid
      else pure (Directive.other, c.skipWhile fun ch => !isBreak ch)
    let c := c.skipSpaces.skipComment
    if endsLine c.peek then return (.directive d, c.lineBreak.2) else invalid

end Automation.Yaml.Cursor
