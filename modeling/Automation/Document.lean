import Automation.Metadata

/-!
# Documents

The sections of an automation document. `Document.sections` brings the sections of a document under
their present names, each as a list; `Document.assemble` writes the sections for a graph, with its
name and settings in front and the metadata of the graph among its variables.
-/

namespace Automation

namespace Document

/-- The present name of a section. -/
def presentName? : Value → Option String
  | .str "trigger" => some "triggers"
  | .str "condition" => some "conditions"
  | .str "action" => some "actions"
  | _ => none

/-- Renames the sections that have an old name. A section may not be there under both. -/
def renameSections (document : Entries) : Entries → List Notice → Outcome Entries × List Notice
  | [], notices => (.ok [], notices)
  | (k, v) :: rest, notices =>
    match presentName? k with
    | none =>
      let (renamed, notices) := renameSections document rest notices
      ((renamed.map fun es => (k, v) :: es), notices)
    | some new =>
      if document.has new then
        (Outcome.malformed (.document (.bothKeys k.plain new)), notices)
      else
        let (renamed, notices) :=
          renameSections document rest (notices ++ [.renamedSection k.plain new])
        ((renamed.map fun es => (.str new, v) :: es), notices)

/-- The value of a section as a list of entries. -/
def asSection : Value → Value
  | .null => .ofItems []
  | .list o items => .list o items
  | v => .ofItems [v]

/-- The document with a section made a list, an empty one if it was not there. -/
def listSection (document : Entries) (name : String) : Entries :=
  document.set name (asSection (document.get name))

/-- The document with the sections that it must have, as lists. -/
def completeSections (document : Entries) : Outcome Entries :=
  if !document.has "triggers" then
    Outcome.malformed (.document (.missingSection "triggers"))
  else if !document.has "actions" then
    Outcome.malformed (.document (.missingSection "actions"))
  else
    let document := ["triggers", "conditions", "actions"].foldl listSection document
    match document.get "triggers" with
    | .list _ [] => Outcome.malformed (.document .noTriggers)
    | _ => .ok document

/-- The sections of a document under their present names and as lists, and the notices. -/
def sections (document : Entries) : Outcome Entries × List Notice :=
  let (renamed, notices) := renameSections document document []
  (renamed.bind completeSections, notices)

/-! ## Writing -/

/-- The variables of a document: those of the automation and the metadata. -/
def vars (g : Graph) (strategy : Strategy) (order : List String) : Entries :=
  g.settings.vars.set Metadata.key (.ofEntries (Metadata.encode g strategy.name order))

/-- A text as the value of a field, none when it is empty. -/
def ifNotEmpty (s : String) : Option Value := if s = "" then none else some (.str s)

open Entries in
/-- The document for a graph: who it is, how it runs, its variables, and its sections. -/
def assemble (g : Graph) (strategy : Strategy) (order : List String)
    (triggers conditions actions : List Value) : Entries :=
  let s := g.settings
  field "id" (s.automationId.bind ifNotEmpty)
    ++ field "alias" (ifNotEmpty g.name)
    ++ field "description" (ifNotEmpty g.description)
    ++ field "mode" (s.mode.map .str)
    ++ field "max" (s.max.map .int)
    ++ field "max_exceeded" (s.maxExceeded.map .str)
    ++ field "initial_state" (s.initialState.map .bool)
    ++ field "hide_entity" (s.hideEntity.map .bool)
    ++ field "trace" (s.trace.map .ofEntries)
    ++ [(.str "variables", .ofEntries (vars g strategy order)),
      (.str "triggers", .ofItems triggers)]
    ++ (if conditions.isEmpty then [] else [(.str "conditions", .ofItems conditions)])
    ++ [(.str "actions", .ofItems actions)]

end Document

end Automation
