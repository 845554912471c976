import IntegrationFlow.Record
import IntegrationFlow.Target

/-!
# Flow graphs

The components of one flow and the edges between them, whatever dialect they come from. Nodes and
edges are kept in the order in which they were found.
-/

namespace IntegrationFlow

/-- An edge. -/
structure Edge where
  id : String
  source : String
  target : String
  kind : EdgeKind
  condition : Option String := none
  deriving DecidableEq, Repr

/-- The id of the edge with a number. -/
def Edge.idOf (n : Nat) : String := "SequenceFlow_" ++ toString n

/-- A record that a node was made from. -/
structure RecordSource where
  document : String
  recordId : String
  deriving DecidableEq, Repr

/-- A component of a flow. -/
structure Node where
  id : String
  name : String
  sourceType : String
  variant : Option String := none
  role : Role := .step
  dialect : Option Dialect := none
  /-- Unresolved until the flow is classified. -/
  target : TargetType := .unresolved
  /-- The ids of the edges that end here. -/
  incoming : List String := []
  /-- The ids of the edges that begin here. -/
  outgoing : List String := []
  settings : Settings := []
  /-- What the process document says about the component; empty until the flow is classified. -/
  properties : Settings := []
  sources : List RecordSource := []
  deriving DecidableEq, Repr

/-- The name shown for a node: its own, or its id if that is blank. -/
def Node.displayName (n : Node) : String := if Text.isBlank n.name then n.id else n.name

/-- The graph of a flow: nodes and edges by id. -/
structure FlowGraph where
  nodes : OrderedMap String Node := []
  edges : OrderedMap String Edge := []
  deriving DecidableEq, Repr

namespace FlowGraph

/-- The node with an id. -/
def node? (g : FlowGraph) (id : String) : Option Node := OrderedMap.get? g.nodes id

/-- The edge with an id. -/
def edge? (g : FlowGraph) (id : String) : Option Edge := OrderedMap.get? g.edges id

/-- Whether there is a node with an id. -/
def hasNode (g : FlowGraph) (id : String) : Bool := OrderedMap.contains g.nodes id

/-- The nodes, in order. -/
def nodeList (g : FlowGraph) : List Node := OrderedMap.values g.nodes

/-- The edges, in order. -/
def edgeList (g : FlowGraph) : List Edge := OrderedMap.values g.edges

/-- The position of a node. -/
def position? (g : FlowGraph) (id : String) : Option Nat := g.nodes.findIdx? fun e => e.1 == id

/-- The nodes where the flow starts. -/
def starts (g : FlowGraph) : List Node := g.nodeList.filter fun n => n.role == .start

/-- The edges that begin at a node, as it lists them. -/
def outgoing (g : FlowGraph) (id : String) : List Edge :=
  match g.node? id with
  | some n => n.outgoing.filterMap g.edge?
  | none => []

/-- The edges that end at a node, as it lists them. -/
def incoming (g : FlowGraph) (id : String) : List Edge :=
  match g.node? id with
  | some n => n.incoming.filterMap g.edge?
  | none => []

/-- How many nodes there are of each type, in the order in which the types are met. -/
def histogram (g : FlowGraph) : OrderedMap TargetType Nat :=
  g.nodeList.foldl (fun m n => OrderedMap.tally m n.target) []

/-- Changes every node. -/
def mapNodes (g : FlowGraph) (f : Node → Node) : FlowGraph :=
  { g with nodes := g.nodes.map fun (key, n) => (key, f n) }

end FlowGraph

end IntegrationFlow
