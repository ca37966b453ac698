import Automation.Condition
import Automation.Entry.Sharing
import Automation.Program.Basic

/-!
# Reading programs

A program out of the sections of a document. Nodes are numbered by kind in the order in which they
are written, notices are kept even when the reading fails later, and three limits apply: on blocks
inside one another, on the nodes of one choose block, and on all nodes.

Reading goes down one level for each block inside a block, so `Program.readList` is recursive in the
number of levels that are left.
-/

namespace Automation

/-- What a reading keeps: its notices, and the kinds of the nodes created so far. -/
structure Intake where
  notices : List Notice := []
  created : List NodeKind := []
  deriving Repr

/-- A step of a reading. It keeps its notices when it fails. -/
abbrev Reads (α : Type) := ExceptT Failure (StateM Intake) α

namespace Reads

variable {α : Type}

/-- The outcome of a reading from scratch, and its notices. -/
def start (r : Reads α) : Outcome α × List Notice :=
  let (result, intake) := r.run {}
  (result, intake.notices)

def lift (o : Outcome α) : Reads α := ExceptT.mk (pure o)

/-- Keeps notices, which is a fault when one of them cannot be written. -/
def note (notices : List Notice) : Reads Unit := do
  lift (Notice.check notices)
  modify fun s => { s with notices := s.notices ++ notices }

def malformed (problem : DocumentProblem) : Reads α := lift (Outcome.malformed (.document problem))

end Reads

namespace NodeKind

/-- Whether two kinds are the same known kind. -/
def sameKnown : NodeKind → NodeKind → Bool
  | .trigger, .trigger => true
  | .condition, .condition => true
  | .action, .action => true
  | .delay, .delay => true
  | .wait, .wait => true
  | .setVariables, .setVariables => true
  | _, _ => false

end NodeKind

namespace Program

open Reads

/-- Creates a node, named for its kind and its number among the nodes of that kind. -/
def create (limits : Limits) (kind : NodeKind) (data : Entries) (label : Value) (flags : Entries) :
    Reads Node := do
  let s ← get
  if limits.maxGraphNodes ≤ s.created.length then
    lift (Outcome.tooLarge (.parsedNodes limits.maxGraphNodes))
  let number := s.created.countP kind.sameKnown + 1
  set { s with created := kind :: s.created }
  return { id := kind.toValue.plain ++ "_" ++ toString number, kind, data, label, flags }

/-- The entries that a value stands for: those of a list, none for null, and else the value. -/
def entriesOf : Value → List Value
  | .null => []
  | v => v.expose.asItems

/-- Notes the keys of a branching block that a graph cannot hold. -/
def noteExtraKeys (es : Entries) (known : List String) (place : Place) : Reads Unit :=
  note <| (es.filter fun e => !known.any (e.1.isText ·)).map fun e => .unrepresentedKey place e.1

/-- The keys of an if block. -/
def ifKeys : List String := ["if", "then", "else", "alias"] ++ blockFlags

/-- The keys of a choose block. -/
def chooseKeys : List String := ["choose", "default"] ++ blockFlags

/-- How many condition nodes a choose block of its own has: one for each option, whatever groups
its conditions form. -/
def chooseBound (options : Int) : Int := options

/-- How many nodes a choose block may have, nested blocks included. A block without options counts
as one with a single option. -/
def chooseBudget (limits : Limits) (options : Int) : Int :=
  limits.chooseNodesPerOption * max options 1

/-- Fails when a choose block that began at a number of nodes has more than its budget. -/
def checkBudget (limits : Limits) (began options : Nat) (place : Place) : Reads Unit := do
  let produced := (← get).created.length - began
  let budget := chooseBudget limits options
  if budget < produced then
    lift (Outcome.tooLarge
      (.chooseBudget place options produced budget limits.chooseNodesPerOption))

/-- What reads a list of entries one level further in. -/
abbrev Inner := Value → Place → Reads (List Block)

/-- Reads an if block. -/
def readIf (limits : Limits) (inner : Inner) (es : Entries) (place : Place) : Reads Block := do
  noteExtraKeys es ifKeys place
  let data ← lift (Condition.payload limits (es.get "if"))
  let node ← create limits .condition data (es.get "alias") (Entry.flagsOf es)
  let whenTrue ← inner (es.get "then") (place.field "then")
  let whenFalse ← inner (es.get "else") (place.field "else")
  return .choice [(node, whenTrue)] whenFalse

/-- Reads an option of a choose block. -/
def readOption (limits : Limits) (inner : Inner) (flags : Entries) (option : Value)
    (place : Place) : Reads (Node × List Block) := do
  match option.expose with
  | .map _ es =>
    if !Entries.has es "conditions" then malformed (.optionWithoutConditions place)
    let data ← lift (Condition.payload limits (Entries.get es "conditions"))
    let node ← create limits .condition data (Entries.get es "alias") flags
    return (node, ← inner (Entries.get es "sequence") (place.field "sequence"))
  | _ => malformed (.optionWithoutConditions place)

/-- Reads a choose block. The flags of the block go to its first option. -/
def readChoose (limits : Limits) (inner : Inner) (es : Entries) (place : Place) : Reads Block := do
  noteExtraKeys es chooseKeys place
  let options := entriesOf (es.get "choose")
  let began := (← get).created.length
  let read ← options.zipIdx.mapM fun option => do
    let flags := if option.2 = 0 then Entry.flagsOf es else []
    let branch ← readOption limits inner flags option.1 ((place.field "choose").item option.2)
    checkBudget limits began options.length place
    return branch
  let otherwise ← inner (es.get "default") (place.field "default")
  checkBudget limits began options.length place
  return .choice read otherwise

/-- Reads an entry. Branching blocks need a reader of what is inside them; there is none when no
level is left. -/
def readEntry (limits : Limits) (inner? : Option Inner) (entry : Value) (place : Place) :
    Reads Block := do
  match entry.expose with
  | .map _ es =>
    let branching (read : Inner → Reads Block) : Reads Block :=
      match inner? with
      | some inner => read inner
      | none => lift (Outcome.tooLarge (.blockDepth place limits.maxNesting))
    match Entry.kind es with
    | .ifBlock => branching fun inner => readIf limits inner es place
    | .chooseBlock => branching fun inner => readChoose limits inner es place
    | .gate =>
      let data ← lift (Condition.normalize limits entry)
      return .step (← create limits .condition data .null [])
    | .step kind =>
      let (data, notices) ← lift (Entry.renewStep kind place (Entry.apart kind place es))
      note notices
      return .step (← create limits kind data .null [])
  | v => malformed (.entryNotMapping place v.kindName)

/-- Reads the entries of a list, each at its place. -/
def readEach (inner? : Option Inner) (limits : Limits) (entries : Value) (place : Place) :
    Reads (List Block) :=
  (entriesOf entries).zipIdx.mapM fun entry =>
    readEntry limits inner? entry.1 (place.item entry.2)

/-- Reads a list of entries with some levels of blocks left. -/
def readList (limits : Limits) : Nat → Value → Place → Reads (List Block)
  | 0, entries, place => readEach none limits entries place
  | levels + 1, entries, place =>
    readEach (some fun v p => readList limits levels v p) limits entries place

/-- Reads the sections of a document. -/
def read (limits : Limits) (triggers : List Entries) (conditions : List Value)
    (actions : List Entries) : Reads Program := do
  let triggers ← triggers.mapM fun data => create limits .trigger data .null []
  let gates ← conditions.mapM fun v => do
    let data ← lift (Condition.normalize limits v)
    create limits .condition data .null []
  let body ← readList limits limits.maxNesting.toNat (.ofItems (actions.map .ofEntries))
    { root := "actions" }
  return { triggers, gates, body }

end Program

end Automation
