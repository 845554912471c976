import IntegrationFlow.CommandLine.Arguments
import IntegrationFlow.Conversion.Config
import IntegrationFlow.Report
import IntegrationFlow.Xml.Printer

/-!
# Sessions

What a command line leads to: messages, and a document to print or to write to a file. The files
and the environment are given as functions.
-/

namespace IntegrationFlow.CommandLine

/-- What a session can see. -/
structure Surroundings where
  env : String → Option String := fun _ => none
  /-- The bytes of a file, or why it cannot be read. -/
  read : String → Except String (List UInt8)

/-- How a session ends. -/
inductive Ending where
  | failed
  | print (document : String)
  /-- Writes a document to a file, and then says so. -/
  | write (path document note : String)
  deriving DecidableEq, Repr

/-- A session: its messages, and how it ends. -/
structure Session where
  messages : List String := []
  ending : Ending
  deriving DecidableEq, Repr

/-- The message about an error. -/
def errorMessage (cause : String) : String := "\nError: " ++ cause

/-- The text of a file, or why it cannot be read. -/
def Surroundings.readText (w : Surroundings) (path : String) : Except String String :=
  match w.read path with
  | .error cause => .error cause
  | .ok bytes =>
    match Text.Utf8.decode bytes with
    | .ok s => .ok s
    | .error _ => .error "stream did not contain valid UTF-8"

/-! ### Names -/

/-- The last part of a path, unless the path ends in a directory that has no name of its own. -/
def fileName? (path : String) : Option String :=
  let parts := (Text.splitOn '/' path.toList).map String.ofList
  match (parts.filter fun s => s != "" && s != ".").getLast? with
  | some ".." => none
  | name => name

/-- The name of a file without what follows its last point. A point at the beginning does not
count. -/
def stem (name : String) : String :=
  let before := String.ofList ((name.toList.reverse.dropWhile (· != '.')).drop 1).reverse
  if before.isEmpty then name else before

/-- The id of the flow: the one that is given, else the stem of the first file. -/
def Arguments.flow (a : Arguments) : String :=
  a.flowId.getD (((a.files.head?.bind fileName?).map stem).getD "flow")

/-! ### Preparation -/

/-- The configuration that is asked for. -/
def Arguments.settings (a : Arguments) (w : Surroundings) : Except String ConversionConfig :=
  match a.config with
  | some path =>
    (ConversionConfig.load path (w.readText path) w.env).mapError fun e =>
      "Failed to load config: " ++ e.message
  | none =>
    (ConversionConfig.override {} w.env).mapError fun e => "Invalid environment: " ++ e.message

/-- The table that is asked for. -/
def Arguments.table (a : Arguments) (w : Surroundings) :
    Except String Classification.MappingTable :=
  match a.mappingTable with
  | none => .ok .standard
  | some path =>
    match w.readText path with
    | .error cause => .error ("Failed to read mapping table '" ++ path ++ "': " ++ cause)
    | .ok text =>
      (Classification.MappingTable.parse text).mapError fun e =>
        "Invalid mapping table: " ++ e.message

/-- A document that is asked for. -/
def Arguments.document (a : Arguments) (w : Surroundings) (path : String) :
    Except String SourceDocument :=
  match w.read path with
  | .ok bytes => .ok ⟨path, a.dialect, bytes⟩
  | .error cause => .error ("Failed to read '" ++ path ++ "': " ++ cause)

/-- The conversion and the flow that are asked for, or why there are none. -/
def Arguments.prepare (a : Arguments) (w : Surroundings) :
    Except String (Converter × FlowBundle) := do
  let config ← a.settings w
  let table ← a.table w
  let documents ← a.files.mapM (a.document w)
  return ({ table, options := config.parser, layout := config.layout },
    { flowId := a.flow, flowName := a.flow, documents })

/-! ### Conversion -/

/-- A report as it is asked for. -/
def Arguments.reportText (a : Arguments) (report : Report) : String :=
  if a.reportJson then report.printJson else "\n" ++ report.format

/-- The end of a session with a converted flow. -/
def Arguments.ending (a : Arguments) (r : FlowOutput) : Ending :=
  let document := Xml.print r.document.root
  match a.output with
  | none => .print (document ++ "\n")
  | some path =>
    .write path document <|
      "Wrote " ++ toString r.manifest.nodeCount ++ " nodes and " ++
        toString r.manifest.edgeCount ++ " edges to " ++ path

/-- The session that arguments lead to. -/
def Arguments.run (a : Arguments) (w : Surroundings) : Session :=
  match a.prepare w with
  | .error cause => ⟨[errorMessage cause], .failed⟩
  | .ok (converter, bundle) =>
    match converter.convert bundle with
    | .ok r => ⟨[a.reportText r.report], a.ending r⟩
    | .error e => ⟨[errorMessage e.message, a.reportText (e.report?.getD [])], .failed⟩

/-- The message about a document that could not be written. -/
def writeFailure (path cause : String) : String :=
  errorMessage ("Failed to write '" ++ path ++ "': " ++ cause)

end IntegrationFlow.CommandLine
