import IntegrationFlow.Bpmn.Document
import IntegrationFlow.Bpmn.Generator
import IntegrationFlow.Bpmn.Manifest
import IntegrationFlow.Bpmn.Scaffold
import IntegrationFlow.Bpmn.Template
import IntegrationFlow.Classification.Keyword
import IntegrationFlow.Classification.Mapper
import IntegrationFlow.Classification.Properties
import IntegrationFlow.Classification.Table
import IntegrationFlow.CommandLine.Arguments
import IntegrationFlow.CommandLine.Session
import IntegrationFlow.Conversion
import IntegrationFlow.Conversion.Config
import IntegrationFlow.Decimal.Reader
import IntegrationFlow.Decimal.Shortest
import IntegrationFlow.Decimal.Text
import IntegrationFlow.Diagnostic
import IntegrationFlow.Graph.Basic
import IntegrationFlow.Graph.Builder
import IntegrationFlow.Graph.Json
import IntegrationFlow.Graph.Reach
import IntegrationFlow.Graph.Search
import IntegrationFlow.Json.Basic
import IntegrationFlow.Json.Decode
import IntegrationFlow.Json.Float
import IntegrationFlow.Json.Printer
import IntegrationFlow.Json.Reader
import IntegrationFlow.Layout.Config
import IntegrationFlow.Layout.Geometry
import IntegrationFlow.Layout.Grid
import IntegrationFlow.Layout.Json
import IntegrationFlow.Layout.Positions
import IntegrationFlow.Layout.Rank
import IntegrationFlow.Layout.Routing
import IntegrationFlow.Main
import IntegrationFlow.OrderedMap
import IntegrationFlow.Proofs.Bpmn.Generator
import IntegrationFlow.Proofs.Classification
import IntegrationFlow.Proofs.Conversion
import IntegrationFlow.Proofs.Conversion.Success
import IntegrationFlow.Proofs.Document
import IntegrationFlow.Proofs.Element
import IntegrationFlow.Proofs.Graph.Builder
import IntegrationFlow.Proofs.Graph.NodeId
import IntegrationFlow.Proofs.Graph.WellFormed
import IntegrationFlow.Proofs.Layout.Placement
import IntegrationFlow.Proofs.List
import IntegrationFlow.Proofs.OrderedMap
import IntegrationFlow.Proofs.Reach
import IntegrationFlow.Proofs.Repair.Basic
import IntegrationFlow.Proofs.Repair.Completion
import IntegrationFlow.Proofs.Repair.Connection
import IntegrationFlow.Proofs.Repair.Diagram
import IntegrationFlow.Proofs.Repair.Idempotence
import IntegrationFlow.Proofs.Repair.Pass
import IntegrationFlow.Proofs.Repair.Reference
import IntegrationFlow.Proofs.Source.Severity
import IntegrationFlow.Proofs.Text
import IntegrationFlow.Proofs.Xml.Entity
import IntegrationFlow.Proofs.Xml.Tag
import IntegrationFlow.Record
import IntegrationFlow.Record.Json
import IntegrationFlow.Repair.Basic
import IntegrationFlow.Repair.Completion
import IntegrationFlow.Repair.Connection
import IntegrationFlow.Repair.Pass
import IntegrationFlow.Repair.Reference
import IntegrationFlow.Report
import IntegrationFlow.Source.Boomi
import IntegrationFlow.Source.Configuration
import IntegrationFlow.Source.Document
import IntegrationFlow.Source.Json
import IntegrationFlow.Source.Mule
import IntegrationFlow.Source.Walk
import IntegrationFlow.Source.WebMethods
import IntegrationFlow.Target
import IntegrationFlow.Text.Basic
import IntegrationFlow.Text.Character
import IntegrationFlow.Text.Table
import IntegrationFlow.Text.Utf8
import IntegrationFlow.Toml.Lexeme
import IntegrationFlow.Toml.Reader
import IntegrationFlow.Toml.Scalar
import IntegrationFlow.Toml.Value
import IntegrationFlow.Xml.Attribute
import IntegrationFlow.Xml.Document
import IntegrationFlow.Xml.Element
import IntegrationFlow.Xml.Entity
import IntegrationFlow.Xml.Path
import IntegrationFlow.Xml.Printer
import IntegrationFlow.Xml.Token
import IntegrationFlow.Proofs.Xml.Token
import IntegrationFlow.Proofs.Xml.RoundTrip
import IntegrationFlow.Proofs.Xml.Reread
import IntegrationFlow.Proofs.Bpmn.RoundTrip
import IntegrationFlow.Proofs.Layout.Rank
import IntegrationFlow.Proofs.Layout.LongestPath
import IntegrationFlow.Proofs.Layout.Direction
import IntegrationFlow.Proofs.Graph.Cycle
import IntegrationFlow.Proofs.Layout.Drawing
import IntegrationFlow.Proofs.Source.Run
import IntegrationFlow.Proofs.Source.WebMethods
import IntegrationFlow.Proofs.Source.Mule.Chain
import IntegrationFlow.Proofs.Source.Mule.Application
import IntegrationFlow.Proofs.Repair.Preservation
import IntegrationFlow.Proofs.Source.Mule.Finds
import IntegrationFlow.Proofs.Source.Mule.Identifiers
import IntegrationFlow.Proofs.Bpmn.Identifiers
import IntegrationFlow.Proofs.Conversion.Documents
import IntegrationFlow.Proofs.Repair.Alignment
import IntegrationFlow.Proofs.Repair.Attachment
import IntegrationFlow.Proofs.Source.Mule.Coverage
import IntegrationFlow.Proofs.Source.Mule.Omission
import IntegrationFlow.Proofs.Bpmn.Reserved
import IntegrationFlow.Proofs.Graph.Dangling
import IntegrationFlow.Proofs.Graph.Folding
import IntegrationFlow.Proofs.Layout.Grid
import IntegrationFlow.Proofs.Classification.Tiers
import IntegrationFlow.Proofs.Classification.Properties
import IntegrationFlow.Proofs.Xml.Span
import IntegrationFlow.Proofs.Source.Mule.Numbering
import IntegrationFlow.Proofs.Source.Mule.Traversal
import IntegrationFlow.Proofs.Source.Mule.FallThrough
import IntegrationFlow.Proofs.Xml.Nesting
import IntegrationFlow.Proofs.Xml.Mark
import IntegrationFlow.Proofs.Bpmn.Recount
import IntegrationFlow.Proofs.Source.Settings
import IntegrationFlow.Proofs.Classification.Words
import IntegrationFlow.Proofs.Repair.SchemaOrder
import IntegrationFlow.Proofs.Layout.Segment
import IntegrationFlow.Proofs.Layout.Route
import IntegrationFlow.Proofs.Layout.Crossing
