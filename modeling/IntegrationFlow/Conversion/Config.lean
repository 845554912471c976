import IntegrationFlow.Conversion
import IntegrationFlow.Toml.Reader

/-!
# Configuration of conversions

The limits on documents and the measures of diagrams, from a TOML document and from variables of the
environment. Everything has a default.
-/

namespace IntegrationFlow

open Layout (LayoutConfig ConfigFault)
open Source (ParseOptions)

/-- A configuration. -/
structure ConversionConfig where
  parser : ParseOptions := {}
  layout : LayoutConfig Float := .standard

/-! ### Errors -/

/-- Why a configuration is refused. -/
inductive ConfigError where
  | unreadable (path cause : String)
  | malformed
  | noDocuments
  | badLayout (fault : ConfigFault Float)

/-- The wording of an error. -/
def ConfigError.message : ConfigError → String
  | unreadable path cause => "Failed to read config file '" ++ path ++ "': " ++ cause
  | malformed => "Failed to parse config: the text is not a valid configuration"
  | noDocuments => "Invalid config: parser.max_document_bytes must be positive"
  | badLayout fault => "Invalid config: layout: " ++ fault.message

/-- Refuses a configuration that no flow can be converted with. -/
def ConversionConfig.validate (c : ConversionConfig) : Except ConfigError ConversionConfig :=
  if c.parser.maxDocumentBytes = 0 then .error .noDocuments
  else
    match c.layout.fault? with
    | some fault => .error (.badLayout fault)
    | none => .ok c

/-! ### From TOML -/

namespace Toml.Value

/-- A number, whole or not. -/
def asFloat? : Value → Option Float
  | .integer n => some (Float.ofInt n)
  | .float x => some x
  | _ => none

/-- A whole number that is not negative. -/
def asNat? : Value → Option Nat
  | .integer n => if 0 ≤ n then some n.toNat else none
  | _ => none

/-- The fields of a record with these names, each of them if it is present. A table may have more
entries, and an array more items. A moment has no fields. -/
def fields? (names : List String) : Value → Option (List (Option Value))
  | .table entries => some (names.map fun name => OrderedMap.get? entries name)
  | .array items => some (names.mapIdx fun i _ => items[i]?)
  | .moment _ => some (names.map fun _ => none)
  | _ => none

/-- A field that has a default. -/
def defaulted? {α : Type} (value : Value → Option α) (default : α) : Option Value → Option α
  | none => some default
  | some v => value v

end Toml.Value

open Toml.Value (asFloat? asNat? fields? defaulted?)

/-- The limits that a value holds. -/
def Source.ParseOptions.ofToml? (v : Toml.Value) : Option ParseOptions :=
  let d : ParseOptions := {}
  match fields? ["max_document_bytes"] v with
  | some [size] => do
    return { maxDocumentBytes := ← defaulted? asNat? d.maxDocumentBytes size }
  | _ => none

/-- The measures that a value holds. -/
def Layout.LayoutConfig.ofToml? (v : Toml.Value) : Option (LayoutConfig Float) :=
  let d : LayoutConfig Float := .standard
  match fields? (d.fields.map (·.1)) v with
  | some [originX, originY, columnWidth, rowHeight, laneGap, parallelOffset] => do
    return {
      originX := ← defaulted? asFloat? d.originX originX
      originY := ← defaulted? asFloat? d.originY originY
      columnWidth := ← defaulted? asFloat? d.columnWidth columnWidth
      rowHeight := ← defaulted? asFloat? d.rowHeight rowHeight
      laneGap := ← defaulted? asFloat? d.laneGap laneGap
      parallelOffset := ← defaulted? asFloat? d.parallelOffset parallelOffset }
  | _ => none

namespace ConversionConfig

/-- The configuration that the entries of a document hold. -/
def ofEntries? (entries : List (String × Toml.Value)) : Option ConversionConfig := do
  let d : ConversionConfig := {}
  return {
    parser := ← defaulted? ParseOptions.ofToml? d.parser (OrderedMap.get? entries "parser")
    layout := ← defaulted? LayoutConfig.ofToml? d.layout (OrderedMap.get? entries "layout") }

/-- The configuration in a TOML text. -/
def parse (s : String) : Except ConfigError ConversionConfig :=
  match (Toml.parse? s).bind ofEntries? with
  | none => .error .malformed
  | some c => c.validate

/-! ### From the environment -/

/-- A whole number of at most 64 bits; a plus sign may come first. -/
def readSize? (s : String) : Option Nat :=
  let digits :=
    match s.toList with
    | '+' :: cs => cs
    | cs => cs
  if digits.isEmpty ∨ !digits.all Char.isDigit then none
  else
    let n := Toml.digitsIn 10 digits
    if n < 0x10000000000000000 then some n else none

/-- The configuration with what the environment sets. A variable whose value does not make sense is
ignored. -/
def override (c : ConversionConfig) (env : String → Option String) :
    Except ConfigError ConversionConfig :=
  let size := ((env "FLOWBRIDGE_MAX_DOCUMENT_BYTES").map Text.trim).bind readSize?
  let width := ((env "FLOWBRIDGE_COLUMN_WIDTH").map Text.trim).bind Decimal.read?
  let height := ((env "FLOWBRIDGE_ROW_HEIGHT").map Text.trim).bind Decimal.read?
  validate
    { parser := { maxDocumentBytes := size.getD c.parser.maxDocumentBytes }
      layout :=
        { c.layout with
          columnWidth := width.getD c.layout.columnWidth
          rowHeight := height.getD c.layout.rowHeight } }

/-- The configuration in a file, with what the environment sets. The file is given by its path and
by its text or the reason why it has none. -/
def load (path : String) (text : Except String String) (env : String → Option String) :
    Except ConfigError ConversionConfig := do
  match text with
  | .error cause => throw (.unreadable path cause)
  | .ok s => (← parse s).override env

/-- The variables of the environment and what they set. -/
def variableTexts : List String :=
  ["FLOWBRIDGE_MAX_DOCUMENT_BYTES - Override the parser's document size limit (default: 8388608)",
   "FLOWBRIDGE_COLUMN_WIDTH - Override the layout column width (default: 160)",
   "FLOWBRIDGE_ROW_HEIGHT - Override the layout row height (default: 100)"]

end ConversionConfig

end IntegrationFlow
