import IntegrationFlow.Diagnostic
import IntegrationFlow.Bpmn.Document

/-!
# Checks

A check looks for one kind of flaw in a document. It mends what it can and reports what it did, and
it reports what it cannot mend.
-/

namespace IntegrationFlow.Repair

open Xml (Element)
open Bpmn (Document)

/-- A check, with the changed document and what was reported as its result. -/
structure Check where
  name : String
  apply : Document → Document × Report

/-- Reports a repair. -/
def repaired (node : Option String) (message : String) : Diagnostic :=
  { severity := .info, kind := .repairApplied, stage := .repair, nodeId := node, message }

/-- Reports a flaw that cannot be mended. -/
def defect (node : Option String) (message : String) : Diagnostic :=
  { severity := .fatal, kind := .unrepairableDefect, stage := .repair, nodeId := node, message }

/-! ### Running through a document -/

/-- Changes the process; a document without one stays as it is. -/
def onProcess (f : Element → Element × Report) (d : Document) : Document × Report :=
  match d.process? with
  | some process => (d.modifyProcess fun p => (f p).1, (f process).2)
  | none => (d, [])

/-- Changes the plane of the diagram; a document without one stays as it is. -/
def onPlane (f : Element → Element × Report) (d : Document) : Document × Report :=
  match d.plane? with
  | some plane => (d.modifyPlane fun p => (f p).1, (f plane).2)
  | none => (d, [])

/-- Changes the flow nodes of a process. -/
def onFlowNodes (f : Element → Element × Report) (process : Element) : Element × Report :=
  (process.mapElements fun e => if Bpmn.isFlowNode e then (f e).1 else e,
    (process.elements.filter Bpmn.isFlowNode).flatMap fun e => (f e).2)

/-- Removes the child elements for which there is something to report. -/
def removeElements (f : Element → Option Diagnostic) (e : Element) : Element × Report :=
  (e.keepElements fun c => (f c).isNone, e.elements.filterMap f)

/-- One repair after the other. -/
def andThen {α : Type} (f g : α → α × Report) (a : α) : α × Report :=
  let (b, r) := f a
  let (c, s) := g b
  (c, r ++ s)

/-- An attribute; one that is absent counts as empty. -/
def attrOrEmpty (e : Element) (key : String) : String := (e.attr key).getD ""

/-- A local name in a namespace. -/
def qualified (namespacePart : Option String) (name : String) : String :=
  match namespacePart with
  | some part => part ++ ":" ++ name
  | none => name

end IntegrationFlow.Repair
