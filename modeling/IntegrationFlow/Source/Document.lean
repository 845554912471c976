import IntegrationFlow.Source.Boomi
import IntegrationFlow.Source.Mule
import IntegrationFlow.Source.WebMethods
import IntegrationFlow.Text.Utf8

/-!
# Reading source documents

Reading a document never fails: what cannot be read is reported, and the rest gives records.
-/

namespace IntegrationFlow

/-- A document to be read. -/
structure SourceDocument where
  name : String
  dialect : Dialect
  bytes : List UInt8

/-- The bytes of a text. -/
def bytesOf (s : String) : List UInt8 := s.toUTF8.toList

namespace Source

open Xml (Element)

/-- The limits on documents. -/
structure ParseOptions where
  /-- Larger documents are not read. -/
  maxDocumentBytes : Nat := 8388608
  deriving DecidableEq, Repr

/-- What is read from a document. -/
structure Parsed where
  records : List Record := []
  diagnostics : List Diagnostic := []
  /-- Whether there is a tree in the document. -/
  hasTree : Bool := false

/-- The records in the tree of a document. -/
def readTree (dialect : Dialect) (source : SourceText) (root : Element) : Parsed :=
  let (records, diagnostics) :=
    match dialect with
    | .mule => Mule.read source root
    | .boomi => Boomi.read source root
    | .webMethods => WebMethods.read source root
  ⟨records, diagnostics, true⟩

/-- A document that is not read, with the reason. -/
def rejected (document : String) (severity : Severity) (message : String)
    (place : Nat × Nat := (1, 1)) : Parsed where
  diagnostics :=
    [.parseError severity message
      (some (document ++ ":" ++ toString place.1 ++ ":" ++ toString place.2))]

/-- Why a document is not read at all. -/
inductive Refusal where
  | unsupported (dialect : Dialect)
  | tooLarge (size limit : Nat)
  | notText (cause : Text.Utf8.Error)

/-- What a refusal leaves of a document. -/
def Refusal.parsed (document : String) : Refusal → Parsed
  | unsupported dialect =>
    rejected document .fatal ("No parser registered for dialect '" ++ dialect.name ++ "'")
  | tooLarge size limit =>
    rejected document .warning
      ("Document is " ++ toString size ++ " bytes, above the limit of " ++ toString limit ++
        " bytes")
  | notText cause =>
    rejected document .warning ("Document is not valid UTF-8: " ++ cause.message)
      (Text.lineColumn cause.valid)

/-- The text of a document whose dialect is supported and that respects the limits. -/
def textOf (supported : List Dialect) (options : ParseOptions) (d : SourceDocument) :
    Except Refusal String :=
  if d.dialect ∉ supported then .error (.unsupported d.dialect)
  else if options.maxDocumentBytes < d.bytes.length then
    .error (.tooLarge d.bytes.length options.maxDocumentBytes)
  else (Text.Utf8.decode d.bytes).mapError .notText

/-- The dialects that can be read. -/
def allDialects : List Dialect := [.mule, .boomi, .webMethods]

/-- What is read from the text of a document. -/
def readText (d : SourceDocument) (text : String) : Parsed :=
  let (root, diagnostics) := Xml.parse text d.name
  let parsed := (root.map (readTree d.dialect ⟨d.name, text⟩)).getD {}
  { parsed with diagnostics := diagnostics ++ parsed.diagnostics }

/-- What is read from a document. -/
def parse (d : SourceDocument) (options : ParseOptions := {})
    (supported : List Dialect := allDialects) : Parsed :=
  match textOf supported options d with
  | .ok text => readText d text
  | .error refusal => refusal.parsed d.name

end Source

end IntegrationFlow
