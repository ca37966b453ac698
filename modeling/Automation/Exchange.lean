import Automation.Document.Reading
import Automation.Document.Writing
import Automation.Json.Reader
import Automation.Json.Writer
import Automation.Text.Line

/-!
# Exchange of texts

The graph of an editor as a JSON text, and the document of an automation as a YAML text, each made
from the other. What is read may have line ends of any kind. Nothing is written when the graph or
document is refused, and a graph that holds values unknown to JSON, such as dates, is a fault.
-/

namespace Automation.Exchange

/-- A text that was read, with all its line ends alike. -/
def received (text : String) : String := String.ofList (Text.unifyBreaks text.toList)

/-- The document of the graph that a JSON text holds. -/
def documentOfJson (limits : Limits) (text : String) (forced : Value) :
    Outcome Written × List Notice :=
  match Json.read (received text) with
  | .error failure => (.error failure, [])
  | .ok graph => Document.transpileValue limits graph forced

/-- The JSON text of the graph of a document. -/
def jsonOfDocument (limits : Limits) (freshId text : String) : Outcome String × List Notice :=
  let (graph?, notices) := Document.parse limits freshId (.str (received text))
  (graph?.bind fun g => Json.indented g.toValue, notices)

/-- The kind of line ends of a JSON text makes no difference. -/
theorem documentOfJson_received (limits : Limits) (text : String) (forced : Value) :
    documentOfJson limits (received text) forced = documentOfJson limits text forced := by
  have once : received (received text) = received text := by
    simp [received, Text.unifyBreaks_of_not_mem (Text.not_mem_unifyBreaks text.toList)]
  simp [documentOfJson, once]

end Automation.Exchange
