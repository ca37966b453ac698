import Automation.Failure

/-!
# Tokens of YAML

The marks and words that a YAML text consists of. The block marks stand for changes of indentation,
and a `key` mark is put in front of a key once its colon has been seen. A text may hold a token that
cannot be made; its tokens end with the mark `broken` then, and the fault arises for whoever comes
to that mark.
-/

namespace Automation.Yaml

/-- How a scalar was written. -/
inductive ScalarStyle where
  | plain | singleQuoted | doubleQuoted | literal | folded
  deriving DecidableEq, Repr

/-- A line that starts with a percent sign. -/
inductive Directive where
  | version (major minor : Nat)
  | tagHandle (handle start : String)
  | other
  deriving DecidableEq, Repr

/-- A tag: its handle, unless it is verbatim, and the rest. -/
structure TagName where
  handle : Option String
  suffix : String
  deriving DecidableEq, Repr

inductive Token where
  | streamEnd
  | directive (d : Directive)
  | documentStart
  | documentEnd
  | blockSequenceStart
  | blockMappingStart
  | blockEnd
  | flowSequenceStart
  | flowSequenceEnd
  | flowMappingStart
  | flowMappingEnd
  | key
  | value
  | blockEntry
  | flowEntry
  | repeated (name : String)
  | anchor (name : String)
  | tag (name : TagName)
  | scalar (text : String) (style : ScalarStyle)
  /-- the end of the tokens of a text whose next token cannot be made -/
  | broken (f : Fault)
  deriving DecidableEq, Repr

end Automation.Yaml
