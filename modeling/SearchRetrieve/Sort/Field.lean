import SearchRetrieve.Schema.Basic
import SearchRetrieve.Sort.Key

/-!
# Sort fields

Sort keys name logical fields. An engine sorts by the sort variants of the fields, and by the
presence variant first where records without a value go last. Presence runs against the direction
of the key, so that such records come last in ascending and first in descending order.
-/
namespace SearchRetrieve

/-- A physical field to sort by. -/
structure SortField where
  field : String
  descending : Bool
  deriving DecidableEq, Repr

def SortField.text (f : SortField) : String :=
  f.field ++ if f.descending then " desc" else " asc"

namespace SortKey

def fieldsOf (schema : Schema) (k : SortKey) (base : String) : List SortField :=
  let values : SortField := ⟨schema.variantName base .sort, !k.ascending⟩
  if k.missingValue = .highValue then
    [⟨schema.variantName base .present, k.ascending⟩, values]
  else [values]

/-- The physical fields that keys ask for, in order. -/
def fields (schema : Schema) (keys : List SortKey) : List SortField :=
  keys.flatMap fun k => (schema.resolve k.path).flatMap (fieldsOf schema k)

def physical (schema : Schema) (keys : List SortKey) : List SortKey :=
  keys.flatMap fun k =>
    (schema.resolve k.path).map fun base => { k with path := schema.variantName base .sort }

def rendered (schema : Schema) (keys : List SortKey) : String :=
  String.intercalate " " ((physical schema keys).map text)

end SortKey

end SearchRetrieve
