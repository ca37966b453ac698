import Automation.Template.Token
import Automation.Value.Order

/-!
# Template expressions

The expressions that a template may hold: constants, names, fields of mappings, comparisons and
boolean operators. All other forms of the grammar are read as `Expr.unsupported`, because an
expression that is never evaluated may have any form; but what has no form of the grammar is no
expression.

Each reader takes a bound on its depth and gives what it read and the tokens behind it; a bound of
twenty for each token, and for each character of a formatted text, is never reached (`parse?`).
-/

namespace Automation.Template

open Text

inductive Expr where
  | constant (d : Datum)
  | name (s : String)
  | field (e : Expr) (name : String)
  | negation (e : Expr)
  | allOf (es : List Expr)
  | anyOf (es : List Expr)
  /-- comparisons of neighbours; those without a supported operator have none -/
  | compare (first : Expr) (rest : List (Option Comparison × Expr))
  | unsupported
  deriving Repr, Inhabited

/-- The words that cannot be names. -/
def keywords : List String := ["False", "None", "True", "and", "as", "assert", "async", "await",
  "break", "class", "continue", "def", "del", "elif", "else", "except", "finally", "for", "from",
  "global", "if", "import", "in", "is", "lambda", "nonlocal", "not", "or", "pass", "raise",
  "return", "try", "while", "with", "yield"]

/-- A name in front of tokens. -/
def name? : List Token → Option (String × List Token)
  | .name s :: rest => if keywords.contains s then none else some (s, rest)
  | .identifier s :: rest => some (s, rest)
  | _ => none

/-- The tokens behind a mark or a keyword that they start with. -/
def behind? (word : String) : List Token → Option (List Token)
  | .mark m :: rest => if m = word then some rest else none
  | .name s :: rest => if s = word then some rest else none
  | _ => none

/-- The tokens behind a name and a mark that they start with. -/
def behindName? (mark : String) (tokens : List Token) : Option (List Token) := do
  behind? mark (← name? tokens).2

/-- Neighbouring constants of text, put together, with the formatted texts among them. Texts and byte
strings do not mix. -/
def joinTexts (v : Value) : List Token → Option (Value × List (Bool × List Char) × List Token)
  | .constant (.value (.str s)) :: rest =>
    match v with
    | .str t => joinTexts (.str (t ++ s)) rest
    | _ => none
  | .constant (.value (.bytes s)) :: rest =>
    match v with
    | .bytes t => joinTexts (.bytes (t ++ s)) rest
    | _ => none
  | .formatted isRaw raw :: rest =>
    match v with
    | .str _ => (joinTexts v rest).map fun r => (r.1, (isRaw, raw) :: r.2.1, r.2.2)
    | _ => none
  | rest => some (v, [], rest)

/-- A comparison operator; one that is not supported has no comparison. -/
def comparison? : List Token → Option (Option Comparison × List Token)
  | .mark "==" :: rest => some (some .equal, rest)
  | .mark "!=" :: rest => some (some .unequal, rest)
  | .mark "<" :: rest => some (some .less, rest)
  | .mark "<=" :: rest => some (some .lessEqual, rest)
  | .mark ">" :: rest => some (some .greater, rest)
  | .mark ">=" :: rest => some (some .greaterEqual, rest)
  | .name "in" :: rest => some (none, rest)
  | .name "not" :: .name "in" :: rest => some (none, rest)
  | .name "is" :: .name "not" :: rest => some (none, rest)
  | .name "is" :: rest => some (none, rest)
  | _ => none

/-- The operators of arithmetic between two operands. -/
def arithmetic : List String := ["+", "-", "*", "/", "%", "@", "//", "<<", ">>", "&", "|", "^"]

/-! ## Parts of lists -/

/-- How far a list of parameters has come. -/
inductive Parameters where
  /-- to its start -/
  | start
  /-- to parameters that may be given by position, perhaps with a default -/
  | positional (hasDefault : Bool)
  /-- beyond the slash, behind which they may be given by name too -/
  | beyondSlash (hasDefault : Bool)
  /-- to a star without a name, which wants a parameter behind it -/
  | bareStar
  /-- to parameters that are given by name -/
  | byName
  /-- to the parameter that takes all other names, which is the last -/
  | complete
  deriving DecidableEq

/-- What the parts of a list in brackets, or of one that a word ends, may be. -/
inductive Part where
  /-- of a tuple, a list or a set -/
  | element
  /-- of a dictionary -/
  | pair
  /-- of a dictionary or a set, whichever the first part makes it -/
  | member
  /-- of what a generator yields -/
  | yielded
  | subscript
  /-- of what a comprehension assigns to -/
  | target
  /-- of a call: by position, or behind an argument by name, or behind an unpacked mapping -/
  | argument
  | argumentByName
  | argumentBehindMapping
  | parameter (p : Parameters)
  deriving DecidableEq

/-- Whether a list may end behind a part. -/
def Part.mayEnd (p : Part) : Bool := p != .parameter .bareStar

/-- Whether a part in front of tokens is an expression or a pair that is not unpacked or named, so
that a comprehension may follow. -/
def isPlain (tokens : List Token) : Bool :=
  (behind? "*" tokens).isNone && (behind? "**" tokens).isNone && (behindName? "=" tokens).isNone

/-- The parameters behind a slash. -/
def Parameters.slash? : Parameters → Option Parameters
  | .positional hasDefault => some (.beyondSlash hasDefault)
  | _ => none

/-- The parameters behind a star, given whether a name follows it. -/
def Parameters.star? (isNamed : Bool) : Parameters → Option Parameters
  | .start => some (if isNamed then .byName else .bareStar)
  | .positional _ => some (if isNamed then .byName else .bareStar)
  | .beyondSlash _ => some (if isNamed then .byName else .bareStar)
  | _ => none

/-- The parameters behind a name, given whether it has a default. By position, all behind one with a
default have one. -/
def Parameters.named? (hasDefault : Bool) : Parameters → Option Parameters
  | .start => some (.positional hasDefault)
  | .positional before => if before && !hasDefault then none else some (.positional hasDefault)
  | .beyondSlash before => if before && !hasDefault then none else some (.beyondSlash hasDefault)
  | .bareStar => some .byName
  | .byName => some .byName
  | .complete => none

/-- The parameters behind two stars with a name. -/
def Parameters.twoStars? : Parameters → Option Parameters
  | .bareStar => none
  | .complete => none
  | _ => some .complete

/-! ## Readers -/

/-- The tokens of the expression in a field of a formatted text, in parentheses. -/
def fieldTokens? (text : List Char) : Option (List Token) :=
  if text.all fun c => c = ' ' || c = '\t' || c = '\n' || c = '\x0c' then none
  else tokens? ('(' :: text ++ [')'])

/-- The text behind an equals sign and blanks, if it starts with one. -/
def dropEquals : List Char → List Char
  | '=' :: cs => cs.dropWhile fun c => c = ' ' || ('\t' ≤ c && c ≤ '\r')
  | cs => cs

/-- The text behind the letter of a conversion, if it starts with an exclamation mark. -/
def dropConversion? : List Char → Option (List Char)
  | '!' :: c :: cs => if c = 's' || c = 'r' || c = 'a' then some cs else none
  | ['!'] => none
  | cs => some cs

mutual
/-- A choice between two values, a function, or a disjunction. -/
def expression : Nat → List Token → Option (Expr × List Token)
  | 0, _ => none
  | depth + 1, .name "lambda" :: rest => do
    let rest ← listing depth (.parameter .start) ":" rest
    let (_, rest) ← expression depth rest
    return (.unsupported, rest)
  | depth + 1, tokens => do
    let (e, rest) ← disjunction depth tokens
    match rest with
    | .name "if" :: rest => do
      let (_, rest) ← disjunction depth rest
      let (_, rest) ← expression depth (← behind? "else" rest)
      return (.unsupported, rest)
    | rest => return (e, rest)

/-- Conjunctions with `or` between them. -/
def disjunction : Nat → List Token → Option (Expr × List Token)
  | 0, _ => none
  | depth + 1, tokens => do
    let (e, rest) ← conjunction depth tokens
    let (more, rest) ← moreDisjuncts depth rest
    return (if more.isEmpty then e else .anyOf (e :: more), rest)

/-- Further conjunctions behind `or`. -/
def moreDisjuncts : Nat → List Token → Option (List Expr × List Token)
  | 0, _ => none
  | depth + 1, .name "or" :: rest => do
    let (e, rest) ← conjunction depth rest
    let (more, rest) ← moreDisjuncts depth rest
    return (e :: more, rest)
  | _ + 1, tokens => some ([], tokens)

/-- Negations with `and` between them. -/
def conjunction : Nat → List Token → Option (Expr × List Token)
  | 0, _ => none
  | depth + 1, tokens => do
    let (e, rest) ← inversion depth tokens
    let (more, rest) ← moreConjuncts depth rest
    return (if more.isEmpty then e else .allOf (e :: more), rest)

/-- Further negations behind `and`. -/
def moreConjuncts : Nat → List Token → Option (List Expr × List Token)
  | 0, _ => none
  | depth + 1, .name "and" :: rest => do
    let (e, rest) ← inversion depth rest
    let (more, rest) ← moreConjuncts depth rest
    return (e :: more, rest)
  | _ + 1, tokens => some ([], tokens)

/-- A comparison behind any number of `not`. -/
def inversion : Nat → List Token → Option (Expr × List Token)
  | 0, _ => none
  | depth + 1, .name "not" :: rest => do
    let (e, rest) ← inversion depth rest
    return (.negation e, rest)
  | depth + 1, tokens => do
    let (e, rest) ← operand depth tokens
    let (more, rest) ← comparisons depth rest
    return (if more.isEmpty then e else .compare e more, rest)

/-- Operators of comparison, each with its right side. -/
def comparisons : Nat → List Token → Option (List (Option Comparison × Expr) × List Token)
  | 0, _ => none
  | depth + 1, tokens =>
    match comparison? tokens with
    | some (op, rest) => do
      let (e, rest) ← operand depth rest
      let (more, rest) ← comparisons depth rest
      return ((op, e) :: more, rest)
    | none => some ([], tokens)

/-- One side of a comparison, with or without arithmetic. -/
def operand : Nat → List Token → Option (Expr × List Token)
  | 0, _ => none
  | depth + 1, tokens => do
    let (e, rest) ← factor depth tokens
    match rest with
    | .mark m :: more =>
      if arithmetic.contains m then do
        let (_, rest) ← operand depth more
        return (.unsupported, rest)
      else return (e, rest)
    | rest => return (e, rest)

/-- A primary behind any number of signs, with or without a power. -/
def factor : Nat → List Token → Option (Expr × List Token)
  | 0, _ => none
  | depth + 1, .name "await" :: rest => do
    let (_, rest) ← primary depth rest
    return (.unsupported, ← power depth rest)
  | depth + 1, .mark "+" :: rest => (factor depth rest).map fun r => (.unsupported, r.2)
  | depth + 1, .mark "-" :: rest => (factor depth rest).map fun r => (.unsupported, r.2)
  | depth + 1, .mark "~" :: rest => (factor depth rest).map fun r => (.unsupported, r.2)
  | depth + 1, tokens => do
    let (e, behind) ← primary depth tokens
    let rest ← power depth behind
    return (if rest.length = behind.length then e else .unsupported, rest)

/-- The tokens behind a power, if there is one. -/
def power : Nat → List Token → Option (List Token)
  | 0, _ => none
  | depth + 1, .mark "**" :: rest => (factor depth rest).map (·.2)
  | _ + 1, tokens => some tokens

/-- An atom with its fields, calls and subscripts. -/
def primary : Nat → List Token → Option (Expr × List Token)
  | 0, _ => none
  | depth + 1, tokens => do
    let (e, rest) ← atom depth tokens
    trailers depth e rest

/-- The fields, calls and subscripts of an expression. -/
def trailers : Nat → Expr → List Token → Option (Expr × List Token)
  | 0, _, _ => none
  | depth + 1, e, .mark "." :: rest => do
    let (s, rest) ← name? rest
    trailers depth (.field e s) rest
  | depth + 1, _, .mark "(" :: rest => do
    trailers depth .unsupported (← display depth .argument ")" rest)
  | depth + 1, _, .mark "[" :: rest => do
    trailers depth .unsupported (← parts depth .subscript "]" rest)
  | _ + 1, e, tokens => some (e, tokens)

/-- A constant, a name, or something in brackets. -/
def atom : Nat → List Token → Option (Expr × List Token)
  | 0, _ => none
  | depth + 1, tokens =>
    match tokens with
    | .name "True" :: rest => some (.constant (.value (.bool true)), rest)
    | .name "False" :: rest => some (.constant (.value (.bool false)), rest)
    | .name "None" :: rest => some (.constant (.value .null), rest)
    | .constant (.value (.str s)) :: rest => texts depth (.str s) rest
    | .constant (.value (.bytes s)) :: rest => texts depth (.bytes s) rest
    | .constant d :: rest => some (.constant d, rest)
    | .formatted isRaw raw :: rest => texts depth (.str "") (.formatted isRaw raw :: rest)
    | .mark "..." :: rest => some (.constant .ellipsis, rest)
    | .mark "(" :: rest => parenthesized depth rest
    | .mark "[" :: rest => (display depth .element "]" rest).map (.unsupported, ·)
    | .mark "\x7b" :: rest => (display depth .member "\x7d" rest).map (.unsupported, ·)
    | tokens => (name? tokens).map fun r => (.name r.1, r.2)

/-- Neighbouring texts, the first of which is read. -/
def texts : Nat → Value → List Token → Option (Expr × List Token)
  | 0, _, _ => none
  | depth + 1, v, tokens => do
    let (v, formatted, rest) ← joinTexts v tokens
    if formatted.isEmpty then return (.constant (.value v), rest)
    else if formatted.all fun f => fields depth f.1 0 f.2 = some [] then return (.unsupported, rest)
    else none

/-- What stands in parentheses, and the tokens behind them. Mere grouping changes nothing. -/
def parenthesized : Nat → List Token → Option (Expr × List Token)
  | 0, _ => none
  | _ + 1, .mark ")" :: rest => some (.unsupported, rest)
  | depth + 1, .name "yield" :: .name "from" :: rest => do
    let (_, rest) ← expression depth rest
    return (.unsupported, ← behind? ")" rest)
  | depth + 1, .name "yield" :: rest => (listing depth .yielded ")" rest).map (.unsupported, ·)
  | depth + 1, .mark "*" :: rest => do
    let (_, rest) ← operand depth rest
    return (.unsupported, ← listing depth .element ")" (← behind? "," rest))
  | depth + 1, tokens => do
    let (e, rest) ← assigned depth tokens
    match rest with
    | .mark ")" :: rest => return (e, rest)
    | .mark "," :: rest => return (.unsupported, ← listing depth .element ")" rest)
    | rest => return (.unsupported, ← behind? ")" (← clauses depth rest))

/-- An expression, perhaps one that is assigned to a name. -/
def assigned : Nat → List Token → Option (Expr × List Token)
  | 0, _ => none
  | depth + 1, tokens =>
    match behindName? ":=" tokens with
    | some rest => (expression depth rest).map fun r => (.unsupported, r.2)
    | none => expression depth tokens

/-- The tokens behind a list of any number of parts and what ends it, with commas between the parts
and perhaps behind the last. -/
def listing : Nat → Part → String → List Token → Option (List Token)
  | 0, _, _, _ => none
  | depth + 1, kind, close, tokens =>
    match behind? close tokens with
    | some rest => if kind.mayEnd then some rest else none
    | none => parts depth kind close tokens

/-- The tokens behind a list of at least one part and what ends it. -/
def parts : Nat → Part → String → List Token → Option (List Token)
  | 0, _, _, _ => none
  | depth + 1, kind, close, tokens => do
    let (kind, rest) ← part depth kind tokens
    match behind? "," rest with
    | some rest => listing depth kind close rest
    | none => if kind.mayEnd then behind? close rest else none

/-- The tokens behind a list, or behind a comprehension, in brackets. -/
def display : Nat → Part → String → List Token → Option (List Token)
  | 0, _, _, _ => none
  | depth + 1, kind, close, tokens =>
    match behind? close tokens with
    | some rest => some rest
    | none => do
      let (kind, rest) ← part depth kind tokens
      match behind? "," rest, behind? close rest with
      | some rest, _ => listing depth kind close rest
      | none, some rest => some rest
      | none, none =>
        if isPlain tokens then behind? close (← clauses depth rest) else none

/-- The tokens behind the clauses of a comprehension: at least one that assigns, each with any number
of conditions. -/
def clauses : Nat → List Token → Option (List Token)
  | 0, _ => none
  | depth + 1, .name "async" :: rest => do clause depth (← behind? "for" rest)
  | depth + 1, .name "for" :: rest => clause depth rest
  | _ + 1, _ => none

/-- The tokens behind a clause that assigns and all clauses that follow. -/
def clause : Nat → List Token → Option (List Token)
  | 0, _ => none
  | depth + 1, tokens => do
    let (_, rest) ← disjunction depth (← parts depth .target "in" tokens)
    moreClauses depth rest

/-- The tokens behind conditions and further clauses, if there are any. -/
def moreClauses : Nat → List Token → Option (List Token)
  | 0, _ => none
  | depth + 1, .name "if" :: rest => do
    let (_, rest) ← disjunction depth rest
    moreClauses depth rest
  | depth + 1, .name "for" :: rest => clause depth rest
  | depth + 1, .name "async" :: rest => do clause depth (← behind? "for" rest)
  | _ + 1, tokens => some tokens

/-- What the parts behind a part of a list may be, and the tokens behind it. -/
def part : Nat → Part → List Token → Option (Part × List Token)
  | 0, _, _ => none
  | depth + 1, .element, .mark "*" :: rest => (operand depth rest).map (.element, ·.2)
  | depth + 1, .element, tokens => (assigned depth tokens).map (.element, ·.2)
  | depth + 1, .pair, .mark "**" :: rest => (operand depth rest).map (.pair, ·.2)
  | depth + 1, .pair, tokens => do
    let (_, rest) ← expression depth tokens
    let (_, rest) ← expression depth (← behind? ":" rest)
    return (.pair, rest)
  | depth + 1, .member, .mark "*" :: rest => (operand depth rest).map (.element, ·.2)
  | depth + 1, .member, .mark "**" :: rest => (operand depth rest).map (.pair, ·.2)
  | depth + 1, .member, tokens => do
    let (_, rest) ← assigned depth tokens
    match behind? ":" rest with
    | some rest =>
      if (behindName? ":=" tokens).isSome then none
      else (expression depth rest).map (.pair, ·.2)
    | none => return (.element, rest)
  | depth + 1, .yielded, .mark "*" :: rest => (operand depth rest).map (.yielded, ·.2)
  | depth + 1, .yielded, tokens => (expression depth tokens).map (.yielded, ·.2)
  | depth + 1, .subscript, .mark "*" :: rest => (expression depth rest).map (.subscript, ·.2)
  | depth + 1, .subscript, .mark ":" :: rest => (bounds depth rest).map (.subscript, ·)
  | depth + 1, .subscript, tokens => do
    let (_, rest) ← assigned depth tokens
    match behind? ":" rest with
    | some rest =>
      if (behindName? ":=" tokens).isSome then none else (bounds depth rest).map (.subscript, ·)
    | none => return (.subscript, rest)
  | depth + 1, .target, .mark "*" :: rest =>
    if (behind? "*" rest).isSome then none else (target depth rest).map (.target, ·)
  | depth + 1, .target, tokens => (target depth tokens).map (.target, ·)
  | depth + 1, .argument, .mark "*" :: rest => (expression depth rest).map (.argument, ·.2)
  | depth + 1, .argument, .mark "**" :: rest =>
    (expression depth rest).map (.argumentBehindMapping, ·.2)
  | depth + 1, .argument, tokens =>
    match behindName? "=" tokens with
    | some rest => (expression depth rest).map (.argumentByName, ·.2)
    | none => (assigned depth tokens).map (.argument, ·.2)
  | depth + 1, .argumentByName, .mark "*" :: rest =>
    (expression depth rest).map (.argumentByName, ·.2)
  | depth + 1, .argumentByName, .mark "**" :: rest =>
    (expression depth rest).map (.argumentBehindMapping, ·.2)
  | depth + 1, .argumentByName, tokens => do
    let (_, rest) ← expression depth (← behindName? "=" tokens)
    return (.argumentByName, rest)
  | depth + 1, .argumentBehindMapping, .mark "**" :: rest =>
    (expression depth rest).map (.argumentBehindMapping, ·.2)
  | depth + 1, .argumentBehindMapping, tokens => do
    let (_, rest) ← expression depth (← behindName? "=" tokens)
    return (.argumentBehindMapping, rest)
  | _ + 1, .parameter p, .mark "/" :: rest => p.slash?.map (.parameter ·, rest)
  | _ + 1, .parameter p, .mark "**" :: rest => do
    let (_, rest) ← name? rest
    return (.parameter (← p.twoStars?), rest)
  | _ + 1, .parameter p, .mark "*" :: rest =>
    match name? rest with
    | some (_, rest) => (p.star? true).map (.parameter ·, rest)
    | none => (p.star? false).map (.parameter ·, rest)
  | depth + 1, .parameter p, tokens =>
    match behindName? "=" tokens with
    | some rest => do
      let (_, rest) ← expression depth rest
      return (.parameter (← p.named? true), rest)
    | none => do
      let (_, rest) ← name? tokens
      return (.parameter (← p.named? false), rest)

/-- The tokens behind the upper bound and the step of a slice, if there are any. -/
def bounds : Nat → List Token → Option (List Token)
  | 0, _ => none
  | depth + 1, tokens => do
    let rest ← bound depth tokens
    match behind? ":" rest with
    | some rest => bound depth rest
    | none => some rest

/-- The tokens behind a bound of a slice, if there is one. -/
def bound : Nat → List Token → Option (List Token)
  | 0, _ => none
  | depth + 1, tokens =>
    if [":", ",", "]"].any fun m => (behind? m tokens).isSome then some tokens
    else (expression depth tokens).map (·.2)

/-- The tokens behind what a comprehension assigns to: a primary that a field or a subscript ends,
or a name, or such targets in brackets. -/
def target : Nat → List Token → Option (List Token)
  | 0, _ => none
  | depth + 1, tokens => do
    let (e, behindAtom) ← atom depth tokens
    let (_, rest) ← trailers depth e behindAtom
    if rest.length < behindAtom.length then
      match (tokens.take (tokens.length - rest.length)).getLast? with
      | some (.mark ")") => none
      | _ => some rest
    else match tokens with
      | .mark "(" :: .mark "*" :: rest => do
        let rest ← target depth rest
        listing depth .target ")" (← behind? "," rest)
      | .mark "(" :: rest => listing depth .target ")" rest
      | .mark "[" :: rest => listing depth .target "]" rest
      | tokens => (name? tokens).map (·.2)

/-- The rest of a formatted text behind its literal characters and its fields: nothing, or a closing
brace where it is the format of a field. The second number says how deep formats are nested. -/
def fields : Nat → Bool → Nat → List Char → Option (List Char)
  | 0, _, _, _ => none
  | depth + 1, isRaw, level, cs => do
    let (literal, rest) ← literalPart? isRaw (level != 0) false cs
    if !isRaw && (unescape false literal.length literal).isNone then none
    else match rest with
      | '\x7b' :: rest =>
        if level < 2 then do fields depth isRaw level (← field depth isRaw level rest) else none
      | rest => some rest

/-- The text behind a field, from behind its opening brace. -/
def field : Nat → Bool → Nat → List Char → Option (List Char)
  | 0, _, _, _ => none
  | depth + 1, isRaw, level, cs => do
    let (text, rest) ← fieldText? 0 none [] cs
    let (_, []) ← atom depth (← fieldTokens? text) | none
    match ← dropConversion? (dropEquals rest) with
    | '\x7d' :: rest => some rest
    | ':' :: rest =>
      match ← fields depth isRaw (level + 1) rest with
      | '\x7d' :: rest => some rest
      | _ => none
    | _ => none
end

/-- A bound on the depth of readers for a token. -/
def Token.depth : Token → Nat
  | .formatted _ raw => 20 * (raw.length + 1)
  | _ => 20

/-- The expression that a text is, if it is one. -/
def parse? (cs : List Char) : Option Expr := do
  let tokens ← tokens? cs
  match ← expression (tokens.foldl (fun bound t => bound + t.depth) 20) tokens with
  | (e, []) => some e
  | _ => none

end Automation.Template
