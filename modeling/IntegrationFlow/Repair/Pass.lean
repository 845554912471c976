import IntegrationFlow.Repair.Completion
import IntegrationFlow.Repair.Connection

/-!
# Repair passes

The checks of a pass run one after the other, each on what the one before has left.
-/

namespace IntegrationFlow.Repair

open Bpmn (Document)

/-- Reports a flow that does not have exactly one start. -/
def startCount : Check where
  name := "start-count"
  apply d :=
    match (d.flowNodes.filter fun e => e.localName == "startEvent").map (attrOrEmpty · "id") with
    | [] => (d, [defect none "Flow has no start event"])
    | [_] => (d, [])
    | ids =>
      (d, [defect none <|
        "Flow has " ++ toString ids.length ++ " start events: " ++ ", ".intercalate ids])

/-- The checks of every pass, in order. -/
def standardChecks : List Check :=
  [danglingConnectors, unconnectedNodes, mandatoryProperties, startCount]

/-- Runs checks one after the other. -/
def runChecks (checks : List Check) : Document → Document × Report :=
  checks.foldl (fun f c => andThen f c.apply) fun d => (d, [])

/-- Runs a pass: the standard checks and then those given. A document without a process cannot be
mended. -/
def run (extra : List Check) (d : Document) : Document × Report :=
  if d.process?.isNone then (d, [defect none "Document has no process element"])
  else runChecks (standardChecks ++ extra) d

end IntegrationFlow.Repair
