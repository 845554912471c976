import IntegrationFlow.Json.Decode
import IntegrationFlow.Source.Document

/-!
# Limits on documents as JSON
-/

namespace IntegrationFlow.Source

/-- The limits as JSON. -/
def ParseOptions.toJson (o : ParseOptions) : Json :=
  .ofMembers [("max_document_bytes", .ofNat o.maxDocumentBytes)]

/-- The limits that JSON holds; each has a default. -/
def ParseOptions.ofJson? (j : Json) : Option ParseOptions :=
  let d : ParseOptions := {}
  match j.fields? ["max_document_bytes"] true with
  | some [size] => do
    return { maxDocumentBytes := ← Json.defaulted? Json.asNat? d.maxDocumentBytes size }
  | _ => none

end IntegrationFlow.Source
