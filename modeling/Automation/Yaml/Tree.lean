import Automation.Yaml.Cursor
import Automation.Yaml.Token

/-!
# From tokens to the tree of a document

A `Tree` is what a YAML text says before any name in it is looked up: scalars, sequences and
mappings with their tags and anchors, and aliases. The grammar is one function for each kind of
collection; a position where a node may be left out holds an empty scalar.
-/

namespace Automation.Yaml

/-- What stands in front of a node. The tag is absolute; none leaves the kind of the node to its
form. -/
structure Properties where
  anchor : Option String := none
  tag : Option String := none
  deriving Repr

/-- A node of a document as written. -/
inductive Tree where
  | repeated (name : String)
  /-- With `byForm` the text decides what the scalar is, as it does for a plain one. -/
  | scalar (properties : Properties) (text : String) (byForm : Bool)
  | sequence (properties : Properties) (items : List Tree)
  | mapping (properties : Properties) (pairs : List (Tree × Tree))

namespace Tree

/-- What stands where a node was left out. -/
def empty : Tree := .scalar {} "" true

/-- Which nodes may stand at a place. -/
inductive Context where
  /-- inside brackets -/
  | flow
  /-- any node -/
  | block
  /-- any node, and a sequence that is not indented -/
  | blockOrIndentless
  deriving DecidableEq

/-- There is no tree when a token cannot stand where it does; where the tokens are cut off there is
the fault that did so. -/
def stop {α : Type} : List Token → Outcome α
  | .broken f :: _ => Outcome.fault f
  | _ => invalid

/-- The absolute form of a tag, whose handle has to be known. -/
def absolute (handles : List (String × String)) (t : TagName) : Outcome String :=
  match t.handle with
  | none => .ok t.suffix
  | some handle =>
    match handles.lookup handle with
    | some start => .ok (start ++ t.suffix)
    | none => invalid

/-- The anchor and the tag in front of a node, in either order. -/
def properties (handles : List (String × String)) :
    List Token → Outcome (Properties × List Token)
  | .anchor a :: .tag t :: rest => do return (⟨some a, some (← absolute handles t)⟩, rest)
  | .tag t :: .anchor a :: rest => do return (⟨some a, some (← absolute handles t)⟩, rest)
  | .anchor a :: rest => .ok (⟨some a, none⟩, rest)
  | .tag _ :: .broken f :: _ => Outcome.fault f
  | .tag t :: rest => do return (⟨none, some (← absolute handles t)⟩, rest)
  | rest => .ok ({}, rest)

/-- A scalar. The tag `!` leaves its kind to its form, however it is written. -/
def ofScalar (p : Properties) (text : String) (plain : Bool) : Tree :=
  .scalar { p with tag := if p.tag == some "!" then none else p.tag } text
    ((plain && p.tag.isNone) || p.tag == some "!")

/-- The tag of a collection; `!` leaves its kind to its form. -/
def collection (p : Properties) : Properties :=
  { p with tag := if p.tag == some "!" then none else p.tag }

/-- Whether a place in a block mapping is left out. -/
def endsBlockItem : List Token → Bool
  | .key :: _ | .value :: _ | .blockEnd :: _ => true
  | _ => false

mutual
/-- A node, and the tokens behind it. -/
def node (handles : List (String × String)) (context : Context) :
    Nat → List Token → Outcome (Tree × List Token)
  | 0, _ => invalid
  | _ + 1, .repeated name :: rest => .ok (.repeated name, rest)
  | fuel + 1, tokens => do
    let (p, tokens) ← properties handles tokens
    match tokens with
    | .blockEntry :: _ =>
      if context = .blockOrIndentless then
        let (items, rest) ← indentlessItems handles fuel tokens
        return (.sequence (collection p) items, rest)
      else if p.anchor.isSome || p.tag.isSome then return (ofScalar p "" p.tag.isNone, tokens)
      else invalid
    | .scalar text style :: rest => return (ofScalar p text (style = .plain), rest)
    | .flowSequenceStart :: rest =>
      let (items, rest) ← flowItems handles fuel true rest
      return (.sequence (collection p) items, rest)
    | .flowMappingStart :: rest =>
      let (pairs, rest) ← flowPairs handles fuel true rest
      return (.mapping (collection p) pairs, rest)
    | .blockSequenceStart :: rest =>
      if context = .flow then invalid
      else
        let (items, rest) ← blockItems handles fuel rest
        return (.sequence (collection p) items, rest)
    | .blockMappingStart :: rest =>
      if context = .flow then invalid
      else
        let (pairs, rest) ← blockPairs handles fuel rest
        return (.mapping (collection p) pairs, rest)
    | .broken f :: _ => Outcome.fault f
    | _ =>
      if p.anchor.isSome || p.tag.isSome then return (ofScalar p "" p.tag.isNone, tokens)
      else invalid

/-- The items of an indented block sequence, to its end. -/
def blockItems (handles : List (String × String)) :
    Nat → List Token → Outcome (List Tree × List Token)
  | 0, _ => invalid
  | _ + 1, .blockEnd :: rest => .ok ([], rest)
  | fuel + 1, .blockEntry :: rest => do
    let (item, rest) ←
      match rest with
      | .blockEntry :: _ | .blockEnd :: _ => pure (empty, rest)
      | _ => node handles .block fuel rest
    let (items, rest) ← blockItems handles fuel rest
    return (item :: items, rest)
  | _, rest => stop rest

/-- The items of a block sequence that is not indented. -/
def indentlessItems (handles : List (String × String)) :
    Nat → List Token → Outcome (List Tree × List Token)
  | 0, _ => invalid
  | fuel + 1, .blockEntry :: rest => do
    let (item, rest) ←
      match rest with
      | .blockEntry :: _ | .key :: _ | .value :: _ | .blockEnd :: _ => pure (empty, rest)
      | _ => node handles .block fuel rest
    let (items, rest) ← indentlessItems handles fuel rest
    return (item :: items, rest)
  | _, rest => .ok ([], rest)

/-- The pairs of a block mapping, to its end. -/
def blockPairs (handles : List (String × String)) :
    Nat → List Token → Outcome (List (Tree × Tree) × List Token)
  | 0, _ => invalid
  | _ + 1, .blockEnd :: rest => .ok ([], rest)
  | fuel + 1, .key :: rest => do
    let (key, rest) ←
      if endsBlockItem rest then pure (empty, rest)
      else node handles .blockOrIndentless fuel rest
    let (value, rest) ←
      match rest with
      | .value :: rest =>
        if endsBlockItem rest then pure (empty, rest)
        else node handles .blockOrIndentless fuel rest
      | _ => pure (empty, rest)
    let (pairs, rest) ← blockPairs handles fuel rest
    return ((key, value) :: pairs, rest)
  | _, rest => stop rest

/-- The items of a flow sequence, to its end. A pair without braces is a mapping of its own. -/
def flowItems (handles : List (String × String)) :
    Nat → Bool → List Token → Outcome (List Tree × List Token)
  | 0, _, _ => invalid
  | _ + 1, _, .flowSequenceEnd :: rest => .ok ([], rest)
  | fuel + 1, first, tokens => do
    let tokens ←
      if first then pure tokens
      else match tokens with
        | .flowEntry :: rest => pure rest
        | rest => stop rest
    match tokens with
    | .flowSequenceEnd :: rest => return ([], rest)
    | .key :: rest =>
      let (key, rest) ←
        match rest with
        | .value :: _ | .flowEntry :: _ | .flowSequenceEnd :: _ => pure (empty, rest)
        | _ => node handles .flow fuel rest
      let (value, rest) ←
        match rest with
        | .value :: rest =>
          match rest with
          | .flowEntry :: _ | .flowSequenceEnd :: _ => pure (empty, rest)
          | _ => node handles .flow fuel rest
        | _ => pure (empty, rest)
      let (items, rest) ← flowItems handles fuel false rest
      return (.mapping {} [(key, value)] :: items, rest)
    | _ =>
      let (item, rest) ← node handles .flow fuel tokens
      let (items, rest) ← flowItems handles fuel false rest
      return (item :: items, rest)

/-- The pairs of a flow mapping, to its end. A node without a colon is a key. -/
def flowPairs (handles : List (String × String)) :
    Nat → Bool → List Token → Outcome (List (Tree × Tree) × List Token)
  | 0, _, _ => invalid
  | _ + 1, _, .flowMappingEnd :: rest => .ok ([], rest)
  | fuel + 1, first, tokens => do
    let tokens ←
      if first then pure tokens
      else match tokens with
        | .flowEntry :: rest => pure rest
        | rest => stop rest
    match tokens with
    | .flowMappingEnd :: rest => return ([], rest)
    | .key :: rest =>
      let (key, rest) ←
        match rest with
        | .value :: _ | .flowEntry :: _ | .flowMappingEnd :: _ => pure (empty, rest)
        | _ => node handles .flow fuel rest
      let (value, rest) ←
        match rest with
        | .value :: rest =>
          match rest with
          | .flowEntry :: _ | .flowMappingEnd :: _ => pure (empty, rest)
          | _ => node handles .flow fuel rest
        | _ => pure (empty, rest)
      let (pairs, rest) ← flowPairs handles fuel false rest
      return ((key, value) :: pairs, rest)
    | _ =>
      let (key, rest) ← node handles .flow fuel tokens
      let (pairs, rest) ← flowPairs handles fuel false rest
      return ((key, empty) :: pairs, rest)
end

/-- The handles that every document knows. -/
def defaultHandles : List (String × String) := [("!", "!"), ("!!", "tag:yaml.org,2002:")]

/-- The handles that directives introduce, and the tokens behind them. At most one directive gives
a version, and the major version is one. -/
def directives (versioned : Bool) (handles : List (String × String)) :
    List Token → Outcome (List (String × String) × List Token)
  | .directive d :: rest =>
    match d with
    | .version major _ =>
      if versioned || major != 1 then invalid else directives true handles rest
    | .tagHandle handle start =>
      if (handles.lookup handle).isSome then invalid
      else directives versioned (handles ++ [(handle, start)]) rest
    | .other => directives versioned handles rest
  | rest => .ok (handles, rest)

/-- The end of a document, behind which nothing but marks of the end may stand. Of what comes
otherwise the directives are looked at first. -/
def finish (tree : Tree) : List Token → Outcome (Option Tree)
  | .documentEnd :: rest => finish tree rest
  | [.streamEnd] => .ok (some tree)
  | rest => do stop (← directives false [] rest).2

/-- The tree of the only document of a text; no tree when there is no document at all. -/
def ofTokens (tokens : List Token) : Outcome (Option Tree) :=
  let fuel := 3 * tokens.length + 3
  match tokens with
  | [.streamEnd] => .ok none
  | .directive _ :: _ | .documentStart :: _ => do
    let (handles, rest) ← directives false [] tokens
    match rest with
    | .documentStart :: rest =>
      match rest with
      | .directive _ :: _ | .documentStart :: _ | .documentEnd :: _ | .streamEnd :: _ =>
        finish empty rest
      | _ => do
        let (tree, rest) ← node (handles ++ defaultHandles) .block fuel rest
        finish tree rest
    | rest => stop rest
  | _ => do
    let (tree, rest) ← node defaultHandles .block fuel tokens
    finish tree rest

end Tree

end Automation.Yaml
