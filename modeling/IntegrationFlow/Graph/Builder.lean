import IntegrationFlow.Graph.Basic
import IntegrationFlow.Graph.Search

/-!
# Building flow graphs

Records with one key become one node, and their links become edges. A link that leads nowhere is
refused, and so is a flow that runs in circles where its dialects forbid that.
-/

namespace IntegrationFlow

/-! ### Groups of records -/

/-- Records by key: keys in the order in which they are met, records in input order. -/
def groupRecords (records : List Record) : OrderedMap String (List Record) :=
  records.foldl
    (fun groups r =>
      OrderedMap.insert groups r.groupKey ((OrderedMap.get? groups r.groupKey).getD [] ++ [r]))
    []

/-! ### Node ids -/

/-- The characters that may stand in a node id. -/
def isIdChar (c : Char) : Bool := c.isAlphanum || c == '_' || c == '-' || c == '.'

/-- A key as the id of an XML element: other characters become underscores, and an id begins with a
letter or an underscore. -/
def sanitize (key : String) : String :=
  match key.toList.map fun c => if isIdChar c then c else '_' with
  | [] => "node"
  | c :: cs => String.ofList (if c.isAlpha || c == '_' then c :: cs else '_' :: c :: cs)

/-- The id itself if it is not taken, or else the first of `base_2`, `base_3` and so on that is
free. One more than are taken are enough. -/
def freshId (taken : List String) (base : String) : String :=
  if base ∈ taken then
    let candidates := (List.range (taken.length + 1)).map fun i => base ++ "_" ++ toString (i + 2)
    (candidates.find? fun c => c ∉ taken).getD base
  else base

/-- An id for each key, in order, besides the ids taken already. -/
def assignIds : (taken keys : List String) → List String
  | _, [] => []
  | taken, key :: keys =>
    let id := freshId taken (sanitize key)
    id :: assignIds (id :: taken) keys

/-! ### Nodes -/

/-- The last text that is not blank, or the empty text. -/
def lastNonBlank (texts : List String) : String :=
  ((texts.filter fun s => !Text.isBlank s).getLast?).getD ""

/-- Adds settings. A blank value does not replace another. -/
def mergeSettings (settings more : Settings) : Settings :=
  more.foldl
    (fun m e =>
      if e.2.isBlank && OrderedMap.contains m e.1 then m else OrderedMap.insert m e.1 e.2)
    settings

/-- The node that records of one key describe. -/
def foldRecords (id : String) (records : List Record) : Node where
  id := id
  name := lastNonBlank (records.map Record.name)
  sourceType := lastNonBlank (records.map Record.sourceType)
  variant := (records.filterMap Record.variant).getLast?
  role := ((records.map Record.role).find? fun r => r != .step).getD .step
  dialect := records.findSome? Record.dialect
  settings := records.foldl (fun m r => mergeSettings m r.settings) []
  sources := records.map fun r => ⟨r.document, r.id⟩

/-! ### Links -/

/-- Why no graph is built. -/
inductive BuildError where
  /-- A record links to something that no record is known by. -/
  | dangling (missing source : String)
  /-- The flow runs in a circle, given with its first node repeated at the end. -/
  | cycle (path : List String)
  deriving DecidableEq, Repr

/-- The wording of an error. -/
def BuildError.message : BuildError → String
  | dangling missing source =>
    "Node '" ++ missing ++ "' not found, which is required by a link from node '" ++ source ++ "'"
  | cycle path => "Flow must be acyclic, but contains the cycle " ++ " -> ".intercalate path

/-- The key of the records that a link from a document leads to: the record with that id in the
document, else the first with that id anywhere, else the records with that key. -/
def resolveLink? (records : List Record) (document target : String) : Option String :=
  let named := (records.find? fun r => r.document = document ∧ r.id = target).or
    (records.find? fun r => r.id = target)
  match named with
  | some r => some r.groupKey
  | none => if records.any fun r => r.groupKey = target then some target else none

/-- An edge before it is numbered. -/
structure Arrow where
  source : String
  target : String
  kind : EdgeKind
  condition : Option String
  deriving DecidableEq, Repr

/-- Whether two arrows join the same nodes in the same way. -/
def Arrow.parallels (a b : Arrow) : Bool :=
  a.source == b.source && a.target == b.target && a.kind == b.kind

/-- The arrow for a link of a record that was folded into the node `source`. `ids` gives the node
of each key. -/
def arrowOf (records : List Record) (ids : OrderedMap String String) (source : String)
    (record : Record) (link : Link) : Except BuildError Arrow :=
  match (resolveLink? records record.document link.target).bind (OrderedMap.get? ids) with
  | some target => .ok ⟨source, target, link.kind, link.condition⟩
  | none => .error (.dangling link.target record.id)

/-- The arrows without those that parallel an earlier one. -/
def distinctArrows (arrows : List Arrow) : List Arrow :=
  arrows.foldl (fun kept a => if kept.any fun b => b.parallels a then kept else kept ++ [a]) []

/-- The edge that an arrow becomes. -/
def Arrow.toEdge (a : Arrow) (id : String) : Edge := ⟨id, a.source, a.target, a.kind, a.condition⟩

/-! ### Graphs -/

/-- A graph with one more edge, numbered after those that are there. The nodes that it joins list
it. -/
def FlowGraph.addArrow (g : FlowGraph) (a : Arrow) : FlowGraph :=
  let id := Edge.idOf (g.edges.length + 1)
  let left := OrderedMap.modify g.nodes a.source fun n => { n with outgoing := n.outgoing ++ [id] }
  { nodes := OrderedMap.modify left a.target fun n => { n with incoming := n.incoming ++ [id] }
    edges := OrderedMap.insert g.edges id (a.toEdge id) }

/-- The graph with these nodes, to which arrows are added one after the other. -/
def FlowGraph.ofParts (nodes : List Node) (arrows : List Arrow) : FlowGraph :=
  arrows.foldl addArrow { nodes := nodes.map fun n => (n.id, n) }

/-- The edges out of a node that count when looking for circles: those to error handlers do not. -/
def FlowGraph.controlEdges (g : FlowGraph) (id : String) : List Edge :=
  (g.outgoing id).filter fun e => e.kind != .error

/-- A circle in the flow, with its first node repeated at the end. -/
def FlowGraph.cycle? (g : FlowGraph) : Option (List String) :=
  let ids := g.nodeList.map Node.id
  (Search.closings g.controlEdges Edge.target ids ids).head?.map
    fun c => c.path ++ [c.edge.target]

/-- Whether the dialects of the records all forbid circles. -/
def requiresAcyclic (records : List Record) : Bool :=
  (records.filterMap Record.dialect).all Dialect.requiresAcyclic

/-- The graph that records describe, before circles are looked for. -/
def FlowGraph.assemble (records : List Record) : Except BuildError FlowGraph := do
  let groups := groupRecords records
  let ids := assignIds [] (OrderedMap.keys groups)
  let idOf := (OrderedMap.keys groups).zip ids
  let members := ids.zip (OrderedMap.values groups)
  let links := members.flatMap fun (id, rs) => rs.flatMap fun r => r.links.map fun l => (id, r, l)
  let arrows ← links.mapM fun (id, r, l) => arrowOf records idOf id r l
  return .ofParts (members.map fun (id, rs) => foldRecords id rs) (distinctArrows arrows)

/-- The graph that records describe. Whether it may hold circles follows from the dialects, unless
that is given. -/
def FlowGraph.build (records : List Record) (acyclic : Option Bool := none) :
    Except BuildError FlowGraph := do
  let g ← assemble records
  if acyclic.getD (requiresAcyclic records) then
    match g.cycle? with
    | some path => throw (.cycle path)
    | none => return g
  else return g

end IntegrationFlow
