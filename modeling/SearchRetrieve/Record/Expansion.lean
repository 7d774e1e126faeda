import SearchRetrieve.Metrics.Counters
import SearchRetrieve.Record.FieldType
import SearchRetrieve.Record.IndexField
import SearchRetrieve.Schema.Basic
import SearchRetrieve.Text.Alphanumeric

/-!
# Expansion of source fields

A source field becomes index fields: its own and the variants that its type asks for. Of the values
of a field only the first one sorts.
-/
namespace SearchRetrieve

structure SourceField where
  name : String
  value : Option String
  /-- The declared type; without one the value decides. -/
  type : Option String
  deriving DecidableEq, Repr

/-- The text that a value sorts by: its letters and digits in lower case. -/
def sortText (value : String) : String :=
  String.ofList ((Text.lowerChars value.toList).filter Text.isAlphanumeric)

namespace SourceField

def valueText (f : SourceField) : String := f.value.getD ""

def declared? (f : SourceField) : Option String :=
  match f.type.map Text.trim with
  | some "" => none
  | declared => declared

/-- The type of a field; none if the declared one is unknown. -/
def fieldType? (f : SourceField) : Option FieldType :=
  match f.declared? with
  | none => some (FieldType.infer f.valueText)
  | some declared => FieldType.ofName? declared

def isBlankText (text : String) : Bool := text.toList.all Text.isBlank

def keywordFields (schema : Schema) (name value : String) (sorts : Bool) : List IndexField :=
  let variant (v : Variant) : String := schema.variantName name v
  if isBlankText value then [.single (variant .present) "0"]
  else
    [.single (variant .present) "1", .words name value] ++
    (if sorts then [.single (variant .sort) (sortText value)] else []) ++
    [(IndexField.single (variant .facet) value).withStored true,
      (IndexField.single (variant .exact) value).withStored true,
      (IndexField.words (variant .stemmed) value).withStored true]

def textFields (schema : Schema) (name value : String) : List IndexField :=
  [(IndexField.words name value).withTermVector .withPositionsOffsets,
    (IndexField.words (schema.variantName name .stemmed) value).withStored true,
    .storedOnly (schema.variantName name .stored) value]

def typedFields (schema : Schema) (name value : String) (sorts : Bool) :
    FieldType → List IndexField
  | .record => [.storedOnly name value]
  | .keyword => keywordFields schema name value sorts
  | .text => textFields schema name value

/-- The index fields of a source field; none if its type is unknown. -/
def expandWith (schema : Schema) (sorts : Bool) (f : SourceField) : List IndexField :=
  match f.fieldType? with
  | some type => typedFields schema f.name f.valueText sorts type
  | none => []

def expand (schema : Schema) (f : SourceField) : List IndexField := f.expandWith schema true

/-- May a field give the value that the record sorts by? -/
def sortsIn (schema : Schema) (entry : Entry) (f : SourceField) : Bool :=
  !Entry.hasField entry (schema.variantName f.name .sort)

/-- What a source field adds to a record that has some index fields. -/
def added (schema : Schema) (entry : Entry) (f : SourceField) : List IndexField :=
  f.expandWith schema (f.sortsIn schema entry)

def expandInto (schema : Schema) (entry : Entry) (f : SourceField) : Entry :=
  entry ++ f.added schema entry

def expandAll (schema : Schema) (fs : List SourceField) : Entry :=
  fs.foldl (expandInto schema) []

def notices (f : SourceField) : List Notice :=
  match f.declared?, f.fieldType? with
  | some declared, none => [.unknownType f.name declared]
  | _, _ => []

def count (c : Counters) (f : SourceField) (fields : List IndexField) : Counters :=
  match f.fieldType? with
  | some type => c.emitted type.name fields.length
  | none => c.skipped

/-- A record in the making and the counts that go with it. -/
def countInto (schema : Schema) (state : Entry × Counters) (f : SourceField) : Entry × Counters :=
  (f.expandInto schema state.1, f.count state.2 (f.added schema state.1))

def countAll (schema : Schema) (c : Counters) (fs : List SourceField) : Counters :=
  (fs.foldl (countInto schema) ([], c)).2

end SourceField

end SearchRetrieve
