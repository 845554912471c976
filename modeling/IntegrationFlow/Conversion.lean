import IntegrationFlow.Bpmn.Generator
import IntegrationFlow.Classification.Mapper
import IntegrationFlow.Graph.Builder
import IntegrationFlow.Repair.Pass
import IntegrationFlow.Source.Document

/-!
# Conversion of flows

A flow is converted in stages: its documents are read, a graph is built from their records, its
components are classified, it is drawn, written as a process document, and that document is
repaired. A stage works on the whole result of the one before. A conversion can be cancelled before
each stage.
-/

namespace IntegrationFlow

/-- Everything that one flow is made from. -/
structure FlowBundle where
  flowId : String := ""
  flowName : String := ""
  documents : List SourceDocument := []
  /-- Records that come ahead of those in the documents. -/
  hints : List Record := []

/-- A converted flow. -/
structure FlowOutput where
  document : Bpmn.Document
  report : Report
  manifest : Bpmn.Manifest

/-- How flows are converted. -/
structure Converter where
  table : Classification.MappingTable := .standard
  options : Source.ParseOptions := {}
  layout : Layout.LayoutConfig Float := .standard
  /-- Templates that take the place of standard ones. -/
  templates : List Bpmn.Template := []
  /-- Checks after the standard ones. -/
  checks : List Repair.Check := []

/-! ### Failures -/

/-- Why a flow is not converted. -/
inductive ConversionFailure where
  | aborted (flowId : String) (stage : Stage) (reason : String) (report : Report)
  | cancelled (flowId : String) (stage : Stage)

namespace ConversionFailure

/-- The wording of a failure. -/
def message : ConversionFailure → String
  | aborted flowId stage reason _ =>
    "Flow '" ++ flowId ++ "' aborted during " ++ stage.name ++ ": " ++ reason
  | cancelled flowId stage => "Flow '" ++ flowId ++ "' was cancelled before " ++ stage.name

/-- The stage that was not completed. -/
def stage : ConversionFailure → Stage
  | aborted _ stage _ _ => stage
  | cancelled _ stage => stage

/-- What was reported until the failure. -/
def report? : ConversionFailure → Option Report
  | aborted _ _ _ report => some report
  | cancelled _ _ => none

/-- A failure with its cause at the end of the report. -/
def ofCause (flowId : String) (report : Report) (cause : Diagnostic) : ConversionFailure :=
  aborted flowId cause.stage cause.message (report ++ [cause])

end ConversionFailure

/-- The entry for records that form no graph. -/
def BuildError.diagnostic (e : BuildError) : Diagnostic where
  severity := .fatal
  kind := .buildError
  stage := .build
  nodeId :=
    match e with
    | .dangling _ source => some source
    | .cycle path => path.head?
  message := e.message

/-- The entry for a flow that is not drawn. -/
def Layout.LayoutError.diagnostic (e : Layout.LayoutError Float) : Diagnostic where
  severity := .fatal
  kind := .layoutInconsistency
  stage := .layout
  message := e.message

/-- The entry for a flow that is not written. -/
def Bpmn.GenerateError.diagnostic (e : Bpmn.GenerateError) : Diagnostic where
  severity := .fatal
  kind := .layoutInconsistency
  stage := .generate
  nodeId := some e.nodeId
  message := e.message

/-! ### Progress -/

/-- How far a conversion has come. -/
structure Progress where
  stage : Stage := .parse
  /-- How many documents had a tree. -/
  trees : Nat := 0
  /-- How many nodes were written. -/
  nodes : Nat := 0
  deriving DecidableEq, Repr

/-- Says of each state of progress whether a conversion is to be cancelled. -/
abbrev CancelSignal := Progress → Bool

/-- The signal that never cancels. -/
def CancelSignal.never : CancelSignal := fun _ => false

/-- A conversion that has ended, with how far it has come. -/
abbrev Outcome := Progress × Except ConversionFailure FlowOutput

/-- Goes on to a stage, unless the conversion is cancelled before it. -/
def enter (signal : CancelSignal) (flowId : String) (stage : Stage) (p : Progress)
    (rest : Progress → Outcome) : Outcome :=
  let p := { p with stage }
  if signal p then (p, .error (.cancelled flowId stage)) else rest p

/-- Ends a conversion at the first fatal entry of a report, if there is one. -/
def haltOnFatal (flowId : String) (stage : Stage) (report : Report) (p : Progress)
    (rest : Outcome) : Outcome :=
  match report.fatals with
  | first :: _ => (p, .error (.aborted flowId stage first.message report))
  | [] => rest

/-! ### Stages -/

namespace Converter

/-- What is read from the documents of a bundle. -/
def read (c : Converter) (b : FlowBundle) : List Source.Parsed :=
  b.documents.map fun d => Source.parse d c.options

/-- The classification in use. -/
def mapper (c : Converter) : Classification.Mapper := { table := c.table }

/-- What the document says about the flow of a bundle. -/
def flowMeta (c : Converter) (b : FlowBundle) : Bpmn.FlowMeta :=
  { flowId := b.flowId, flowName := b.flowName, tableVersion := c.table.version }

/-- How many nodes are written before one cannot be. -/
def writtenNodes (c : Converter) (g : FlowGraph) (p : Layout.Positions Float) : Nat :=
  (g.nodeList.takeWhile fun n => (Bpmn.renderNode c.templates p n).isOk).length

/-- Repairs a document and ends the conversion. -/
def finish (c : Converter) (signal : CancelSignal) (b : FlowBundle) (report : Report)
    (document : Bpmn.Document) (manifest : Bpmn.Manifest) (p : Progress) : Outcome :=
  enter signal b.flowId .repair p fun p =>
    let (document, repairs) := Repair.run c.checks document
    haltOnFatal b.flowId .repair (report ++ repairs) p
      (p, .ok { document, report := report ++ repairs, manifest := manifest.recount document })

/-- Classifies, draws and writes a flow, and goes on. -/
def express (c : Converter) (signal : CancelSignal) (b : FlowBundle) (report : Report)
    (g : FlowGraph) (p : Progress) : Outcome :=
  enter signal b.flowId .map p fun p =>
    let report := report ++ c.mapper.warnings g
    let g := c.mapper.apply g
    enter signal b.flowId .layout p fun p =>
      match Layout.place c.layout g with
      | .error e => (p, .error (.ofCause b.flowId report e.diagnostic))
      | .ok positions =>
        enter signal b.flowId .generate p fun p =>
          let p := { p with nodes := c.writtenNodes g positions }
          match Bpmn.generate c.templates g positions (c.flowMeta b) with
          | .error e => (p, .error (.ofCause b.flowId report e.diagnostic))
          | .ok (document, manifest) => c.finish signal b report document manifest p

/-- Converts the flow of a bundle. -/
def run (c : Converter) (signal : CancelSignal) (b : FlowBundle) : Outcome :=
  enter signal b.flowId .parse {} fun p =>
    let parsed := c.read b
    let records := b.hints ++ parsed.flatMap Source.Parsed.records
    let report := parsed.flatMap Source.Parsed.diagnostics
    let p := { p with trees := parsed.countP Source.Parsed.hasTree }
    haltOnFatal b.flowId .parse report p <|
      enter signal b.flowId .build p fun p =>
        match FlowGraph.build records with
        | .error e => (p, .error (.ofCause b.flowId report e.diagnostic))
        | .ok g => c.express signal b report g p

/-- Converts the flow of a bundle to the end. -/
def convert (c : Converter) (b : FlowBundle) : Except ConversionFailure FlowOutput :=
  (c.run .never b).2

/-- Converts flows one after the other. Once a signal cancels one, the rest are cancelled too. -/
def runAll (c : Converter) (signal : CancelSignal) : (cancelled : Bool) → List FlowBundle →
    Bool × List (Except ConversionFailure FlowOutput)
  | cancelled, [] => (cancelled, [])
  | cancelled, b :: bs =>
    let (progress, result) := c.run (fun p => cancelled || signal p) b
    let (last, results) := c.runAll signal (cancelled || signal progress) bs
    (last, result :: results)

end Converter

end IntegrationFlow
