import IntegrationFlow.Text.Basic

/-!
# Diagnostics and reports

What a conversion has to say beside its result: each entry has a severity, a kind, the stage that
raised it and a message, and may name a node and a place in a source document. A report is the
list of entries in the order in which they arose.
-/

namespace IntegrationFlow

/-- How serious an entry is. A fatal one means that no document is produced. -/
inductive Severity where
  | info
  | warning
  | fatal
  deriving DecidableEq, Repr

/-- The condition an entry reports. -/
inductive DiagnosticKind where
  | parseError
  | buildError
  | mappingFallback
  | layoutInconsistency
  | repairApplied
  | unrepairableDefect
  deriving DecidableEq, Repr

/-- The stages of a conversion, in their order. -/
inductive Stage where
  | parse
  | build
  | map
  | layout
  | generate
  | repair
  deriving DecidableEq, Repr

/-! ### Names -/

/-- The lowercase name of a severity. -/
def Severity.name : Severity → String
  | .info => "info"
  | .warning => "warning"
  | .fatal => "fatal"

/-- The capital form that opens a line of a formatted report. -/
def Severity.label : Severity → String
  | .info => "INFO"
  | .warning => "WARNING"
  | .fatal => "FATAL"

/-- The rank of a severity; a greater rank is more serious. -/
def Severity.rank : Severity → Nat
  | .info => 0
  | .warning => 1
  | .fatal => 2

/-- The name of a kind as it is written in data. -/
def DiagnosticKind.name : DiagnosticKind → String
  | .parseError => "parse_error"
  | .buildError => "build_error"
  | .mappingFallback => "mapping_fallback"
  | .layoutInconsistency => "layout_inconsistency"
  | .repairApplied => "repair_applied"
  | .unrepairableDefect => "unrepairable_defect"

/-- The name of a kind as it is written for readers. -/
def DiagnosticKind.label : DiagnosticKind → String
  | .parseError => "ParseError"
  | .buildError => "BuildError"
  | .mappingFallback => "MappingFallback"
  | .layoutInconsistency => "LayoutInconsistency"
  | .repairApplied => "RepairApplied"
  | .unrepairableDefect => "UnrepairableDefect"

/-- The name of a stage. -/
def Stage.name : Stage → String
  | .parse => "parse"
  | .build => "build"
  | .map => "map"
  | .layout => "layout"
  | .generate => "generate"
  | .repair => "repair"

/-! ### Entries -/

/-- One entry of a report. -/
structure Diagnostic where
  severity : Severity
  kind : DiagnosticKind
  stage : Stage
  /-- The node concerned, or during parsing the record. -/
  nodeId : Option String := none
  /-- A place such as `orders.xml:12:5`. -/
  location : Option String := none
  message : String
  deriving DecidableEq, Repr

/-- A problem met while reading a source document. -/
def Diagnostic.parseError (severity : Severity) (message : String)
    (location nodeId : Option String := none) : Diagnostic :=
  { severity, kind := .parseError, stage := .parse, nodeId, location, message }

/-- Whether an entry forbids a result. -/
def Diagnostic.isFatal (d : Diagnostic) : Bool := d.severity == .fatal

/-- An entry in one sentence. -/
def Diagnostic.describe (d : Diagnostic) : String :=
  "[" ++ d.severity.name ++ "] " ++ d.kind.label ++ " (" ++ d.stage.name ++ ")" ++
    (match d.nodeId with
      | some id => " node '" ++ id ++ "'"
      | none => "") ++
    (match d.location with
      | some place => " at " ++ place
      | none => "") ++
    ": " ++ d.message

/-- A text filled up with blanks to a width. -/
def padded (width : Nat) (s : String) : String :=
  s ++ String.ofList (List.replicate (width - s.length) ' ')

/-- An entry as a line of a formatted report, its first three fields in columns. -/
def Diagnostic.line (d : Diagnostic) : String :=
  padded 7 d.severity.label ++ " " ++ padded 19 d.kind.label ++ " " ++ padded 8 d.stage.name ++
    (match d.nodeId with
      | some id => " [" ++ id ++ "]"
      | none => "") ++
    (match d.location with
      | some place => " @" ++ place
      | none => "") ++
    " " ++ d.message

/-! ### Reports -/

/-- The entries of one conversion, in order. -/
abbrev Report := List Diagnostic

namespace Report

/-- Whether some entry is fatal. -/
def hasFatal (r : Report) : Bool := r.any Diagnostic.isFatal

/-- The fatal entries. -/
def fatals (r : Report) : List Diagnostic := r.filter Diagnostic.isFatal

/-- How many entries have a severity. -/
def countSeverity (r : Report) (severity : Severity) : Nat :=
  r.countP fun d => d.severity == severity

/-- The entries of a kind. -/
def ofKind (r : Report) (kind : DiagnosticKind) : List Diagnostic :=
  r.filter fun d => d.kind == kind

/-- The entries with the most serious first; equally serious ones keep their order. -/
def bySeverity (r : Report) : List Diagnostic :=
  r.mergeSort fun a b => b.severity.rank ≤ a.severity.rank

/-- The line that closes a formatted report. -/
def summary (r : Report) : String :=
  toString (r.countSeverity .fatal) ++ " fatal, " ++ toString (r.countSeverity .warning) ++
    " warning(s), " ++ toString (r.countSeverity .info) ++ " info"

/-- A report as text: a line for each entry, the most serious first, and a summary. -/
def format (r : Report) : String :=
  if r.isEmpty then "No diagnostics."
  else "\n".intercalate ((bySeverity r).map Diagnostic.line ++ [summary r])

end Report

end IntegrationFlow
