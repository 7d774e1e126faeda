import SearchRetrieve.CommandLine.Help
import SearchRetrieve.Record.Document
import SearchRetrieve.Retrieval.Request
import SearchRetrieve.Text.Digits

/-!
# Invocations

What the words of a command line ask for: a command with its options, under a schema.
-/
namespace SearchRetrieve.CommandLine

inductive Command where
  | compile (query : String)
  | sort (keys : String)
  | expand (input : String) (style : RecordStyle) (analyze : Bool) (dateFields : List String)
  /-- Without sort keys, which are resolved by the schema first. -/
  | fetch (search : Search) (sortKeys : Option String) (limit : Option Nat)
  deriving DecidableEq, Repr

structure Invocation where
  schemaFile : Option String
  command : Command
  deriving DecidableEq, Repr

/-- What there is to do: a command to carry out, or a help text to print. -/
inductive Request where
  | invoke (invocation : Invocation)
  | help (text : String)
  deriving DecidableEq, Repr

def program : String := "cqlindex"

def wideNat? (word : String) : Option Nat := Text.natBelow? UInt64.size word.toList

/-- A whole number of at most 32 bits, where a minus sign may stand before a zero. -/
def narrowNat? (word : String) : Option Nat :=
  match word.toList with
  | '-' :: rest => if rest.all Text.isDigit then Text.natBelow? 1 rest else none
  | cs => Text.natBelow? UInt32.size cs

def styleOf? (word : String) : Option RecordStyle :=
  match word with
  | "cql" => some .sourceFields
  | "gsearch" => some .indexFields
  | _ => none

def valueOption (name valueName help remarks : String) (accepts : String → Bool) : OptionSpec :=
  ⟨name, some valueName, help, remarks, false, false, accepts⟩

def anyText (_ : String) : Bool := true

def schemaOption : OptionSpec :=
  valueOption "schema" "SCHEMA" "Schema configuration (.json or properties file)"
    "[env: CQLINDEX_SCHEMA=]" (· != "")

def compileSpec : CommandSpec where
  name := "compile"
  about := "Compile CQL text into a native query"
  options := [schemaOption]
  arguments := [⟨"QUERY", "CQL query text", "", true⟩]

def sortSpec : CommandSpec where
  name := "sort"
  about := "Resolve SRU sort keys to physical sort fields"
  options := [schemaOption]
  arguments := [⟨"KEYS", "Space separated sort keys, e.g. \"dc.title,,0 dc.date\"", "", true⟩]

def expandSpec : CommandSpec where
  name := "expand"
  about := "Expand a source XML document into physical index fields"
  options := [schemaOption,
    valueOption "strategy" "STRATEGY" "" "[default: cql] [possible values: cql, gsearch]"
      fun word => (styleOf? word).isSome,
    ⟨"analyze", none, "Also print the analyzed postings", "", false, false, anyText⟩,
    ⟨"date-fields", some "DATE_FIELDS", "Base fields holding dates", "", false, true, anyText⟩]
  arguments :=
    [⟨"INPUT", "Source document, or \"-\" for standard input", "[default: -]", false⟩]

def fetchSpec : CommandSpec where
  name := "fetch"
  about := "Page through an SRU endpoint and print each record"
  options := [schemaOption,
    ⟨"url", some "URL", "SRU base URL", "[env: CQLINDEX_SRU_URL=]", true, false, anyText⟩,
    valueOption "record-schema" "RECORD_SCHEMA" "" "" anyText,
    valueOption "sort-keys" "SORT_KEYS" "Logical sort keys, resolved through the schema" ""
      anyText,
    valueOption "page-size" "PAGE_SIZE" "" "[default: 25]" fun word => (wideNat? word).isSome,
    valueOption "ttl" "TTL" "Result set time-to-live in seconds; 0 omits the parameter"
      "[default: 15]" fun word => (narrowNat? word).isSome,
    valueOption "limit" "LIMIT" "Stop after this many records" ""
      fun word => (wideNat? word).isSome,
    valueOption "timeout" "TIMEOUT" "Request timeout in seconds" "[default: 30]"
      fun word => (wideNat? word).isSome]
  arguments := [⟨"QUERY", "CQL query text", "", true⟩]

def commandSpecs : List CommandSpec := [compileSpec, sortSpec, expandSpec, fetchSpec]

def mainHelp : String :=
  programHelp program "CQL query compilation, document expansion and SRU paging" [schemaOption]
    commandSpecs

def frontSpec : CommandSpec := ⟨"", "", [schemaOption], []⟩

def firstArgument (f : Found) : String := f.arguments.headD ""

/-- The time to live that a number of seconds asks for; zero asks for none. -/
def timeToLive (seconds : Nat) : Option Nat := if seconds = 0 then none else some seconds

def fetchCommand (f : Found) : Command :=
  let pageSize := ((f.value? "page-size").bind wideNat?).getD PageSettings.standard.pageSize
  let ttl :=
    match (f.value? "ttl").bind narrowNat? with
    | some seconds => timeToLive seconds
    | none => PageSettings.standard.resultSetTtl
  let search : Search := {
    baseUrl := (f.value? "url").getD ""
    query := firstArgument f
    recordSchema := f.value? "record-schema"
    sortKeys := none
    settings := (PageSettings.standard.withPageSize pageSize).withResultSetTtl ttl }
  .fetch search (f.value? "sort-keys") ((f.value? "limit").bind wideNat?)

def expandCommand (f : Found) : Command :=
  let style := ((f.value? "strategy").bind styleOf?).getD .sourceFields
  .expand (f.arguments.headD "-") style (f.has "analyze")
    ((f.values "date-fields").flatMap (Text.splitAt ','))

def commandOf (name : String) (f : Found) : Command :=
  if name = compileSpec.name then .compile (firstArgument f)
  else if name = sortSpec.name then .sort (firstArgument f)
  else if name = expandSpec.name then expandCommand f
  else fetchCommand f

def readCommand (front : Found) (spec : CommandSpec) (words : List String) : Except Stop Request :=
  match spec.readWords words with
  | .ok f =>
    .ok (.invoke ⟨f.value? schemaOption.name <|> front.value? schemaOption.name,
      commandOf spec.name f⟩)
  | .error .help => .ok (.help (spec.helpText program))
  | .error .misuse => .error .misuse

def helpOn : List String → Except Stop Request
  | [] => .ok (.help mainHelp)
  | [name] =>
    match commandSpecs.find? (·.name == name) with
    | some spec => .ok (.help (spec.helpText program))
    | none => .error .misuse
  | _ => .error .misuse

/-- Reads words up to the name of a command, and then the words of the command. -/
def readFront (front : Found) : List String → Except Stop Request
  | [] => .error .misuse
  | word :: rest =>
    let named := if front.waiting.isNone && !front.literal then some word else none
    if named = some "help" then helpOn rest
    else
      match commandSpecs.find? fun spec => named = some spec.name with
      | some spec => readCommand front spec rest
      | none =>
        match frontSpec.readWord front word with
        | .ok front => readFront front rest
        | .error .help => .ok (.help mainHelp)
        | .error .misuse => .error .misuse

def read (words : List String) : Except Stop Request := readFront .empty words

end SearchRetrieve.CommandLine
