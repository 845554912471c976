import IntegrationFlow.OrderedMap
import IntegrationFlow.Record

/-!
# Arguments

What a command line asks for. Options have a long name, most of them a short one too, and stand
before, between or after the files. The value of an option follows it, or is joined to it by an
equals sign.
-/

namespace IntegrationFlow.CommandLine

/-- A conversion that is asked for. -/
structure Arguments where
  /-- The documents of the flow. -/
  files : List String
  dialect : Dialect
  flowId : Option String := none
  config : Option String := none
  mappingTable : Option String := none
  /-- Where the result is written to, instead of being printed. -/
  output : Option String := none
  reportJson : Bool := false
  deriving DecidableEq, Repr

/-- What is asked for. -/
inductive Request where
  | convert (a : Arguments)
  | help
  | version
  deriving DecidableEq, Repr

/-- What is wrong with a command line. -/
inductive UsageError where
  | unknownOption (arg : String)
  | missingValue (option : String)
  | unexpectedValue (option : String)
  | invalidValue (option value : String)
  | repeated (option : String)
  | missing (what : String)
  deriving DecidableEq, Repr

/-- The wording of an error. -/
def UsageError.message : UsageError → String
  | unknownOption arg => "unexpected argument '" ++ arg ++ "' found"
  | missingValue option => "a value is required for '--" ++ option ++ "' but none was supplied"
  | unexpectedValue option => "unexpected value for '--" ++ option ++ "' found"
  | invalidValue option value => "invalid value '" ++ value ++ "' for '--" ++ option ++ "'"
  | repeated option => "the argument '--" ++ option ++ "' cannot be used multiple times"
  | missing what => "the following required argument was not provided: " ++ what

/-! ### Options -/

/-- The options that have a value. -/
inductive ValuedOption where
  | dialect
  | flowId
  | config
  | mappingTable
  | output
  deriving DecidableEq, Repr

namespace ValuedOption

/-- The long name of an option. -/
def name : ValuedOption → String
  | dialect => "dialect"
  | flowId => "flow-id"
  | config => "config"
  | mappingTable => "mapping-table"
  | output => "output"

/-- The option with a long name. -/
def ofName? : String → Option ValuedOption
  | "dialect" => some dialect
  | "flow-id" => some flowId
  | "config" => some config
  | "mapping-table" => some mappingTable
  | "output" => some output
  | _ => none

/-- The option with a short name. -/
def ofLetter? : Char → Option ValuedOption
  | 'd' => some dialect
  | 'c' => some config
  | 'm' => some mappingTable
  | 'o' => some output
  | _ => none

/-- Whether an option can have a value. Paths are not empty. -/
def accepts (o : ValuedOption) (value : String) : Bool :=
  match o with
  | dialect => (Dialect.ofName? value).isSome
  | flowId => true
  | config | mappingTable | output => !value.isEmpty

end ValuedOption

/-- An argument, as far as it can be told without those around it. -/
inductive Argument where
  | file (path : String)
  | valued (option : ValuedOption) (value : Option String)
  | reportJson
  | help
  | version
  | separator
  | bad (e : UsageError)

/-- An argument that begins with two hyphens, which are left out. -/
def longArgument (body : String) : Argument :=
  let name := Text.beforeFirst '=' body
  let value :=
    if body.toList.contains '=' then some (String.ofList (body.toList.drop (name.length + 1)))
    else none
  match ValuedOption.ofName? name, value with
  | some o, value => .valued o value
  | none, none =>
    match name with
    | "report-json" => .reportJson
    | "help" => .help
    | "version" => .version
    | _ => .bad (.unknownOption ("--" ++ name))
  | none, some _ =>
    if name ∈ ["report-json", "help", "version"] then .bad (.unexpectedValue name)
    else .bad (.unknownOption ("--" ++ name))

/-- An argument that begins with one hyphen, which is left out: a letter, and the value of the
option if it is joined. -/
def shortArgument (letter : Char) (rest : List Char) : Argument :=
  match ValuedOption.ofLetter? letter with
  | some o =>
    .valued o <|
      match rest with
      | [] => none
      | '=' :: value => some (String.ofList value)
      | value => some (String.ofList value)
  | none =>
    if letter = 'h' then .help
    else if letter = 'V' then .version
    else .bad (.unknownOption (String.ofList ['-', letter]))

/-- Tells what an argument is. A single hyphen is a file. -/
def Argument.ofString (arg : String) : Argument :=
  match arg.toList with
  | ['-', '-'] => .separator
  | '-' :: '-' :: body => longArgument (String.ofList body)
  | '-' :: letter :: rest => shortArgument letter rest
  | _ => .file arg

/-- Whether an argument can be the value of the option before it. -/
def isValue (arg : String) : Bool :=
  match Argument.ofString arg with
  | .file _ => true
  | _ => false

/-! ### Command lines -/

/-- What has been collected from a command line. -/
structure Collected where
  files : List String := []
  values : OrderedMap ValuedOption String := []
  reportJson : Bool := false

namespace Collected

/-- Adds a file. -/
def addFile (c : Collected) (path : String) : Except UsageError Collected :=
  if path.isEmpty then .error (.invalidValue "files" path)
  else .ok { c with files := c.files ++ [path] }

/-- Adds files. -/
def addFiles (c : Collected) (paths : List String) : Except UsageError Collected :=
  paths.foldlM addFile c

/-- Adds the value of an option. -/
def addValue (c : Collected) (o : ValuedOption) (value : String) : Except UsageError Collected :=
  if OrderedMap.contains c.values o then .error (.repeated o.name)
  else if !o.accepts value then .error (.invalidValue o.name value)
  else .ok { c with values := OrderedMap.insert c.values o value }

/-- What is asked for in the end. -/
def request (c : Collected) : Except UsageError Request :=
  let get := OrderedMap.get? c.values
  match (get .dialect).bind Dialect.ofName? with
  | none => .error (.missing "--dialect <DIALECT>")
  | some dialect =>
    if c.files.isEmpty then .error (.missing "<FILES>...")
    else
      .ok <| .convert
        { files := c.files, dialect, flowId := get .flowId, config := get .config
          mappingTable := get .mappingTable, output := get .output, reportJson := c.reportJson }

/-- Reads arguments one after the other. -/
def read (c : Collected) : List String → Except UsageError Request
  | [] => c.request
  | arg :: rest =>
    match Argument.ofString arg with
    | .file path => (c.addFile path).bind fun c => c.read rest
    | .valued o (some value) => (c.addValue o value).bind fun c => c.read rest
    | .valued o none =>
      match rest with
      | value :: rest =>
        if isValue value then (c.addValue o value).bind fun c => c.read rest
        else .error (.missingValue o.name)
      | [] => .error (.missingValue o.name)
    | .reportJson =>
      if c.reportJson then .error (.repeated "report-json")
      else Collected.read { c with reportJson := true } rest
    | .help => .ok .help
    | .version => .ok .version
    | .separator => (c.addFiles rest).bind request
    | .bad e => .error e

end Collected

/-- What a command line asks for. -/
def parse (args : List String) : Except UsageError Request := Collected.read {} args

/-! ### Texts -/

/-- The version of the program. -/
def versionText : String := "flowbridge 0.1.0"

/-- How the program is called. -/
def usage : String := "Usage: flowbridge-cli [OPTIONS] --dialect <DIALECT> <FILES>..."

/-- What the program does and how it is called. -/
def helpText : String :=
  "\n".intercalate
    ["Converts Mule, Boomi and webMethods flows into BPMN integration-flow XML",
     "",
     usage,
     "",
     "Arguments:",
     "  <FILES>...  Source documents belonging to one flow",
     "",
     "Options:",
     "  -d, --dialect <DIALECT>              The dialect of every source document " ++
       "[possible values: mule, boomi, webmethods]",
     "      --flow-id <FLOW_ID>              Flow identifier (defaults to the first file's stem)",
     "  -c, --config <CONFIG>                Pipeline configuration in TOML",
     "  -m, --mapping-table <MAPPING_TABLE>  Mapping table JSON replacing the built-in table",
     "  -o, --output <OUTPUT>                Where to write the generated document " ++
       "(stdout when omitted)",
     "      --report-json                    Print the report as JSON instead of text",
     "  -h, --help                           Print help",
     "  -V, --version                        Print version"]

end IntegrationFlow.CommandLine
