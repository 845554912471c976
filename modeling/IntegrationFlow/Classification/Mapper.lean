import IntegrationFlow.Classification.Properties
import IntegrationFlow.Classification.Table
import IntegrationFlow.Diagnostic

/-!
# Classifying a flow

Each component gets a target type: from its role, else from the table, else from keywords in its
type and then in its name, and else a type that passes messages on. Classification never fails.
-/

namespace IntegrationFlow.Classification

/-- What decided a classification. -/
inductive Tier where
  | role
  | table
  | heuristic
  | fallback
  deriving DecidableEq, Repr

/-- The name of a tier. -/
def Tier.name : Tier → String
  | .role => "role"
  | .table => "table"
  | .heuristic => "heuristic"
  | .fallback => "fallback"

/-- A classification, with the table key or the rule that decided it. -/
structure Mapping where
  target : TargetType
  tier : Tier
  matched : Option String := none
  deriving DecidableEq, Repr

/-- A table and the keyword rules that stand in for it. -/
structure Mapper where
  table : MappingTable := .standard
  rules : List KeywordRule := standardRules

namespace Mapper

/-- The classification that the table gives a step. Events mark the ends of a flow, so a step is
never made one. -/
def fromTable? (m : Mapper) (node : Node) : Option Mapping :=
  match m.table.lookup node.sourceType node.variant with
  | some (target, key) =>
    if target.shape = .event then none else some ⟨target, .table, some key⟩
  | none => none

/-- The classification that keywords give a step. -/
def fromKeywords? (m : Mapper) (node : Node) : Option Mapping :=
  let typeWords := tokenize node.sourceType ++ (node.variant.map tokenize).getD []
  ((firstRule? m.rules typeWords).or (firstRule? m.rules (tokenize node.name))).map
    fun rule => ⟨rule.target, .heuristic, some rule.name⟩

/-- Classifies a component. -/
def classify (m : Mapper) (node : Node) : Mapping :=
  match node.role with
  | .start => ⟨.startEvent, .role, none⟩
  | .finish =>
    match m.table.lookup node.sourceType node.variant with
    | some (.errorEndEvent, _) => ⟨.errorEndEvent, .role, none⟩
    | _ => ⟨.endEvent, .role, none⟩
  | .step =>
    ((m.fromTable? node).or (m.fromKeywords? node)).getD ⟨.genericPassthrough, .fallback, none⟩

/-- The warning about a component that nothing classifies. -/
def fallbackWarning (node : Node) : Diagnostic :=
  { severity := .warning, kind := .mappingFallback, stage := .map, nodeId := some node.id,
    message := "No mapping for source type '" ++ node.sourceType ++
      "'; using generic_passthrough" }

/-- Sets the type and the properties of a component. -/
def resolve (m : Mapper) (node : Node) : Node :=
  let target := (m.classify node).target
  { node with target, properties := normalize node target }

/-- Classifies every component of a flow. -/
def apply (m : Mapper) (g : FlowGraph) : FlowGraph := g.mapNodes m.resolve

/-- The warnings about components that nothing classifies, in order. -/
def warnings (m : Mapper) (g : FlowGraph) : Report :=
  (g.nodeList.filter fun n => (m.classify n).tier == .fallback).map fallbackWarning

end Mapper

end IntegrationFlow.Classification
