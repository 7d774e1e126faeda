import SearchRetrieve.Fault
import SearchRetrieve.Record.Expansion
import SearchRetrieve.Xml.Reader

/-!
# Records from XML

A source document describes a record in one of two styles. Elements that cannot be used are left
out, each with a notice.
-/
namespace SearchRetrieve

/-- How a document describes the fields of a record. -/
inductive RecordStyle where
  /-- Elements `field` right inside the root, each expanded by its type. -/
  | sourceFields
  /-- Elements `IndexField` anywhere, each an index field with its own flags. -/
  | indexFields
  deriving DecidableEq, Repr

structure ConvertedRecord where
  entry : Entry
  counters : Counters
  notices : List Notice
  deriving DecidableEq, Repr

def accepted {ε α : Type} (results : List (Except ε α)) : List α :=
  results.filterMap fun r =>
    match r with
    | .ok a => some a
    | .error _ => none

def refused {ε α : Type} (results : List (Except ε α)) : List ε :=
  results.filterMap fun r =>
    match r with
    | .ok _ => none
    | .error e => some e

namespace SourceField

/-- The value of an element: its markup if it declares a record, otherwise its characters. -/
def valueOf (type : Option String) (n : Xml.Node) : String :=
  if type.bind FieldType.ofName? = some .record then Text.trim n.innerMarkup
  else Text.trim n.textContent

def ofNode (n : Xml.Node) : Except Notice SourceField :=
  match (n.attribute? "name").map Text.trim with
  | none | some "" => .error .unnamedField
  | some name =>
    let type := n.attribute? "type"
    .ok ⟨name, some (valueOf type n), type⟩

def ofRoot (root : Xml.Node) : List (Except Notice SourceField) :=
  (root.children.filter (Xml.Node.isNamed "field")).map ofNode

end SourceField

namespace IndexField

def storedBy (option : Option String) : Bool :=
  option.any fun s => Text.sameIgnoringCase s "yes" || Text.sameIgnoringCase s "compress"

def indexedBy (option : Option String) : Bool × Bool :=
  match option.map Text.asciiUpper with
  | some "UN_TOKENIZED" | some "NO_NORMS" => (true, false)
  | some "NO" => (false, false)
  | _ => (true, true)

def termVectorBy (option : Option String) : TermVector :=
  match option.map Text.asciiUpper with
  | some "YES" => .yes
  | some "WITH_POSITIONS_OFFSETS" => .withPositionsOffsets
  | _ => .no

def ofNode (n : Xml.Node) : Except Notice IndexField :=
  match n.attribute? "IFname" with
  | none | some "" => .error .unnamedIndexField
  | some name =>
    let value := n.textContent
    if SourceField.isBlankText value then .error (.emptyIndexField name)
    else
      let (indexed, tokenized) := indexedBy (n.attribute? "index")
      .ok {
        name
        value
        stored := storedBy (n.attribute? "store")
        indexed
        tokenized
        termVector := termVectorBy (n.attribute? "termVector") }

def ofRoot (root : Xml.Node) : List (Except Notice IndexField) :=
  (root.descendants.filter (Xml.Node.isNamed "IndexField")).map ofNode

end IndexField

namespace RecordStyle

def convert (schema : Schema) (c : Counters) (root : Xml.Node) : RecordStyle → ConvertedRecord
  | sourceFields =>
    let results := SourceField.ofRoot root
    let fields := accepted results
    { entry := SourceField.expandAll schema fields
      counters := SourceField.countAll schema c fields
      notices := refused results ++ fields.flatMap SourceField.notices }
  | indexFields =>
    let results := IndexField.ofRoot root
    ⟨accepted results, c, refused results⟩

def convertText (schema : Schema) (c : Counters) (text : String) (style : RecordStyle)
    (complaint : Xml.Complaint := fun _ => none) : Except Fault ConvertedRecord :=
  match Xml.ofText? text with
  | some root => .ok (style.convert schema c root)
  | none => .error (.document (Xml.report "Malformed source XML" (complaint text)))

end RecordStyle

end SearchRetrieve
