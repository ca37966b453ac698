import Automation.Record.Graph

/-!
# Automation records

The typed fields of an automation document, once its sections have their present names. Entries that
are no field are kept apart by name.
-/

namespace Automation

open Reader

/-- The fields of an automation document. -/
structure AutomationRecord where
  /-- a text or a whole number -/
  id : Option Value
  name : String
  description : String
  /-- the settings but for the id -/
  settings : Settings
  triggers : List Entries
  conditions : List Value
  actions : List Entries
  /-- the names of further entries -/
  others : List String
  deriving Repr

namespace Record

/-- The id of an automation, a text or a whole number. -/
def automationId : Reader Value := fun v =>
  match text v, integer v with
  | .value s, _ => pure (.str s)
  | _, .value n => pure (.int n)
  | .refused a, .refused b =>
    .refused ((Reading.under ["str"] (.refused a : Reading String)).issues
      ++ (Reading.under ["int"] (.refused b : Reading String)).issues)

def automationFields : List String := ["id", "alias", "description", "mode", "max", "max_exceeded",
  "initial_state", "hide_entity", "trace", "variables", "triggers", "conditions", "actions"]

def automation (es : Entries) : Reading AutomationRecord := closely es <|
  (fun id title description run vars triggers conditions actions others =>
    { id, name := title.getD "", description := description.getD ""
      settings := { run with vars := vars.getD [] }
      triggers, conditions, actions, others })
    <$> optionalField es "id" automationId
    <*> optionalField es "alias" text
    <*> optionalField es "description" text
    <*> runSettings es
    <*> optionalField es "variables" entries
    <*> field es "triggers" (list entries)
    <*> fieldOr es "conditions" [] (list any)
    <*> field es "actions" (list entries)
    <*> extras es automationFields true

end Record

namespace AutomationRecord

/-- The record in the sections of a document. -/
def ofEntries (es : Entries) : Outcome AutomationRecord :=
  match Record.automation es with
  | .value r => .ok r
  | .refused issues => Outcome.malformed (.record .automation issues)

end AutomationRecord

end Automation
