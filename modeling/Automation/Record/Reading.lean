import Automation.Failure
import Automation.Number.Literal

/-!
# Reading records

Reading typed fields out of a document value. A `Reading` is the value that was there or everything
that is wrong with it: reading several fields together collects the issues of all of them
(`issues_seq`). Each reader is lenient in its own way: a text may stand for a number, a number for a
truth value, a tuple for a list, and a byte string for a text.
-/

namespace Automation

/-- A value that was read, or what is wrong. -/
inductive Reading (α : Type) where
  | value (a : α)
  | refused (issues : List FieldIssue)
  deriving Repr

namespace Reading

variable {α β : Type}

def fail (fault : FieldFault) : Reading α := .refused [⟨[], fault⟩]

/-- What is wrong, nothing when there is a value. -/
def issues : Reading α → List FieldIssue
  | .value _ => []
  | .refused issues => issues

instance : Applicative Reading where
  pure := .value
  seq f x := match f, x () with
    | .value f, .value a => .value (f a)
    | .value _, .refused b => .refused b
    | .refused a, x => .refused (a ++ x.issues)

/-- Reading two things together collects the issues of both. -/
theorem issues_seq (f : Reading (α → β)) (x : Reading α) :
    (f <*> x).issues = f.issues ++ x.issues := by
  cases f <;> cases x <;> simp [Seq.seq, issues]

/-- A reading of something inside, with the way there in front of each path. -/
def under (steps : List String) : Reading α → Reading α
  | .value a => .value a
  | .refused issues => .refused (issues.map fun i => { i with path := steps ++ i.path })

/-- All readings together. -/
def collect : List (Reading α) → Reading (List α)
  | [] => pure []
  | r :: rs => (· :: ·) <$> r <*> collect rs

end Reading

/-- What reads a value of a type out of a document value. -/
abbrev Reader (α : Type) := Value → Reading α

namespace Reader

variable {α : Type}

/-- The text of a byte string, if it is one in UTF-8. -/
def decodeBytes? (bs : List UInt8) : Option String :=
  (String.fromUTF8? ⟨bs.toArray⟩).map fun s => String.ofList (Text.ofChars s.toList)

/-- A text, or a byte string that is one. -/
def text : Reader String
  | .str s => pure s
  | .bytes bs => match decodeBytes? bs with
    | some s => pure s
    | none => .fail .notUnicode
  | _ => .fail .notString

/-- One of some texts. -/
def oneOf (choices : List String) : Reader String
  | .str s =>
    if Text.hasHalf s then .fail .notUnicode
    else if choices.contains s then pure s
    else .fail (.notOneOf choices)
  | _ => .fail (.notOneOf choices)

/-- Null, or what a reader reads. -/
def optional (read : Reader α) : Reader (Option α)
  | .null => pure none
  | v => some <$> read v

/-- Any value. -/
def any : Reader Value := fun v => pure v

/-- What a reader of texts makes of a value that may be something else: of a byte string its text,
if it has one. -/
def ofText (unreadable otherwise : FieldFault) (read : String → Reading α) : Reader α
  | .str s => if Text.hasHalf s then .fail .notUnicode else read s
  | .bytes bs => match decodeBytes? bs with
    | some s => read s
    | none => .fail unreadable
  | _ => .fail otherwise

/-- The largest magnitude of a binary number that counts as an integer. -/
def integerLimit : Int := 9223372036854775807

/-- A whole number: as an integer, a truth value, a binary number without a fraction, or a text. -/
def integer : Reader Int
  | .bool b => pure (if b then 1 else 0)
  | .int n => pure n
  | .float x =>
    if !x.isFinite then .fail .notFinite
    else match x.toInt? with
      | some n => if n.natAbs ≤ integerLimit.natAbs then pure n else .fail .integerSize
      | none => .fail .integerFraction
  | v => v |> ofText .integerText .notInteger fun s => match Literal.wholeNumber s.toList with
    | .ok n => pure n
    | .error .tooLong => .fail .integerSize
    | .error .malformed => .fail .integerText

/-- The words for true. -/
def trueWords : List String := ["1", "on", "t", "true", "y", "yes"]

/-- The words for false. -/
def falseWords : List String := ["0", "off", "f", "false", "n", "no"]

/-- A truth value: as such, as one or zero, or as a word in any case. -/
def boolean : Reader Bool
  | .bool b => pure b
  | .int n => if -integerLimit - 1 ≤ n then ofInt n else .fail .notBoolean
  | .float x => match x.toInt? with
    | some n => if -integerLimit ≤ n then ofInt n else .fail .notBoolean
    | none => .fail .notBoolean
  | v => v |> ofText .booleanText .notBoolean fun s =>
    let word := String.ofList (Text.lowerAscii s.toList)
    if trueWords.contains word then pure true
    else if falseWords.contains word then pure false
    else .fail .booleanText
where
  ofInt (n : Int) : Reading Bool :=
    if integerLimit < n then .fail .notBoolean
    else if n = 0 then pure false
    else if n = 1 then pure true
    else .fail .booleanText

/-- A binary number: as such, as an integer or a truth value, or as a text. -/
def number : Reader Binary64
  | .float x => pure x
  | .bool b => pure (.ofInt (if b then 1 else 0))
  | .int n =>
    let x := Binary64.ofInt n
    if x.isFinite then pure x else .fail .notNumber
  | v => v |> ofText .numberText .notNumber fun s => match Literal.fieldFloat? s.toList with
    | some x => pure x
    | none => .fail .numberText

/-- The items of a list, a tuple or a set. -/
def sequence? (v : Value) : Option (List Value) :=
  match v.expose with
  | .list _ items => some items
  | .tuple _ items => some items
  | .set _ items => some items
  | _ => none

/-- A list whose items a reader reads. -/
def list (read : Reader α) : Reader (List α) := fun v =>
  match sequence? v with
  | some items =>
    .collect (items.zipIdx.map fun item => (read item.1).under [toString item.2])
  | none => .fail .notList

/-- The step of a path to the value of a key. A key that cannot be written is named by its kind. -/
def keyStep : Value → String
  | .str s => s
  | .bool b => if b then "1" else "0"
  | v => if v.hasText then v.quoted else s!"<unprintable {v.kindName} object>"

/-- A mapping from texts. -/
def mapping (read : Reader α) : Reader (List (String × α)) := fun v =>
  match v.expose with
  | .map _ es =>
    let entries := es.map fun e =>
      Prod.mk <$> (text e.1).under [keyStep e.1, "[key]"] <*> (read e.2).under [keyStep e.1]
    (·.foldl (fun acc e => (acc.filter (·.1 != e.1)) ++ [e]) []) <$> .collect entries
  | _ => .fail .notMapping

/-- The entries of a mapping from texts. A later key of the same text takes the place of an earlier
one. -/
def entries : Reader Entries := fun v =>
  match v.expose with
  | .map _ es =>
    let keys := es.map fun e => (text e.1).under [keyStep e.1, "[key]"]
    (fun keys => (keys.zip es).foldl (fun acc e => acc.insert (.str e.1) e.2.2) [])
      <$> Reading.collect keys
  | _ => .fail .notMapping

/-! ## Fields of a record -/

/-- A field that must be there. -/
def field (es : Entries) (name : String) (read : Reader α) : Reading α :=
  match es.get? name with
  | some v => (read v).under [name]
  | none => Reading.under [name] (.fail .missing)

/-- A field that has a value of its own when it is not there. -/
def fieldOr (es : Entries) (name : String) (default : α) (read : Reader α) : Reading α :=
  match es.get? name with
  | some v => (read v).under [name]
  | none => pure default

/-- A field that may be null or not there. -/
def optionalField (es : Entries) (name : String) (read : Reader α) : Reading (Option α) :=
  fieldOr es name none (optional read)

/-- The entries that are not among the fields of a record, in order, each refused when its key is no
text or when the record has no place for it. -/
def extras (es : Entries) (fields : List String) (allowed : Bool) : Reading (List String) :=
  Reading.collect <| es.filterMap fun e => match e.1 with
    | .str name =>
      if fields.contains name then none
      else if allowed then some (pure name)
      else some (Reading.under [name] (.fail .extra))
    | key => some (Reading.under [keyStep key] (.fail .keyNotString))

/-- The fields of a record, given as a mapping. -/
def record (name : String) (read : Entries → Reading α) : Reader α := fun v =>
  match v.expose with
  | .map _ es => read es
  | _ => .fail (.notRecord name)

/-- What is read out of entries that are all looked at. A half of a surrogate pair in one of the
keys is all that is wrong then. -/
def closely (es : Entries) (r : Reading α) : Reading α :=
  if es.any fun e => e.1.text?.any Text.hasHalf then .fail .notUnicode else r

end Reader

end Automation
