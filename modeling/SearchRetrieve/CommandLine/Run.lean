import SearchRetrieve.CommandLine.Invocation
import SearchRetrieve.Native.Compile
import SearchRetrieve.Query.Parser
import SearchRetrieve.Record.Rendering
import SearchRetrieve.Retrieval.Session
import SearchRetrieve.Schema.Reader
import SearchRetrieve.Sort.Field

/-!
# Running a command

A command takes the texts of the files that it names and gives what it prints and, if it fails,
the reason. Only `fetch` asks a server.
-/
namespace SearchRetrieve.CommandLine

/-- The texts that a command works on, where they can be read. -/
structure Sources where
  schema : Option String
  document : Option String
  deriving DecidableEq, Repr

structure Report where
  output : String
  failure : Option String
  deriving DecidableEq, Repr

namespace Report

def success (output : String) : Report := ⟨output, none⟩

def failed (reason : String) : Report := ⟨"", some reason⟩

def exitCode (r : Report) : Nat := if r.failure.isSome then 1 else 0

def ofResult : Except Fault String → Report
  | .ok output => success output
  | .error fault => failed fault.message

end Report

def lines (texts : List String) : String := String.join (texts.map (· ++ "\n"))

def standardInput : String := "-"

def Invocation.schema (i : Invocation) (sources : Sources) : Except String Schema :=
  match i.schemaFile with
  | none => .ok (Schema.ofSettings .standard)
  | some file =>
    match sources.schema.bind (SchemaSettings.ofFile? file) with
    | some settings => .ok (Schema.ofSettings settings)
    | none => .error ("Failed to load schema from " ++ file)

def runCompile (schema : Schema) (query : String) : Except Fault String :=
  match Query.parse query with
  | .ok q => .ok (lines [q.native schema])
  | .error e => .error (.query e.message)

def sortKeysOf (text : String) : Except Fault (List SortKey) :=
  match SortKey.parseList text with
  | .ok keys => .ok keys
  | .error e => .error (.query e.message)

def runSort (schema : Schema) (text : String) : Except Fault String := do
  let keys ← sortKeysOf text
  return lines ((SortKey.fields schema keys).map SortField.text ++
    ["sortKeys=" ++ SortKey.rendered schema keys])

def runExpand (schema : Schema) (style : RecordStyle) (analyze : Bool) (dateFields : List String)
    (document : String) (complaint : Xml.Complaint) : Except Fault String := do
  let record ← style.convertText schema .zero document complaint
  return lines [recordText schema analyze dateFields record.entry]

def slotLine : RecordSlot → String
  | .record markup => markup
  | .missing position => "<!-- record " ++ toString (position + 1) ++ " missing -->"

/-- The lines of at most `count` more records, and the fault that ends them. -/
def slotLines (limit : Option Nat) : Nat → Session → Exchange (List String × Option Fault)
  | 0, _ => .done ([], none)
  | count + 1, s =>
    Exchange.andThen s.hasNext fun
      | (.error fault, _) => .done ([], some fault)
      | (.ok more, s) =>
        if !more || limit.any (· ≤ s.nextIndex) then .done ([], none)
        else
          Exchange.andThen s.nextRecord fun
            | (.error fault, _) => .done ([], some fault)
            | (.ok slot, s) =>
              (slotLines limit count s).map fun p => (slotLine slot :: p.1, p.2)

def runSearch (search : Search) (limit : Option Nat) (complaint : Xml.Complaint) :
    Exchange Report :=
  Exchange.andThen (Session.start search complaint).size fun
    | (.error fault, _) => .done (.failed fault.message)
    | (.ok total, s) =>
      (slotLines limit total s).map fun p => ⟨lines p.1, p.2.map Fault.message⟩

def runFetch (schema : Schema) (search : Search) (sortKeys : Option String) (limit : Option Nat)
    (complaint : Xml.Complaint) : Exchange Report :=
  match sortKeys with
  | none => runSearch search limit complaint
  | some text =>
    match sortKeysOf text with
    | .ok keys => runSearch (search.withSortKeys (SortKey.rendered schema keys)) limit complaint
    | .error fault => .done (.failed fault.message)

def Invocation.run (i : Invocation) (sources : Sources)
    (complaint : Xml.Complaint := fun _ => none) : Exchange Report :=
  match i.schema sources with
  | .error reason => .done (.failed reason)
  | .ok schema =>
    match i.command with
    | .compile query => .done (.ofResult (runCompile schema query))
    | .sort keys => .done (.ofResult (runSort schema keys))
    | .expand input style analyze dateFields =>
      match sources.document with
      | none => .done (.failed ("Failed to read " ++ input))
      | some document =>
        .done (.ofResult (runExpand schema style analyze dateFields document complaint))
    | .fetch search sortKeys limit => runFetch schema search sortKeys limit complaint

end SearchRetrieve.CommandLine
