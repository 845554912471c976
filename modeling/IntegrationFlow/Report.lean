import IntegrationFlow.Diagnostic
import IntegrationFlow.Json.Printer

/-!
# Reports as JSON

A report is the array of its entries; each entry names its fields.
-/

namespace IntegrationFlow

/-- An entry as a JSON value. -/
def Diagnostic.toJson (d : Diagnostic) : Json :=
  .ofMembers
    [("severity", .ofString d.severity.name), ("kind", .ofString d.kind.name),
     ("stage", .ofString d.stage.name), ("node_id", .ofString? d.nodeId),
     ("location", .ofString? d.location), ("message", .ofString d.message)]

/-- A report as a JSON text with a line for each part. -/
def Report.printJson (r : Report) : String := (Json.array (r.map Diagnostic.toJson)).pretty

end IntegrationFlow
