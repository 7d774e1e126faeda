/-!
# Index fields

What an index engine takes in: named values, each with the ways in which it is kept.
-/
namespace SearchRetrieve

/-- What is kept of where terms occur. -/
inductive TermVector where
  | no
  | yes
  | withPositionsOffsets
  deriving DecidableEq, Repr

def TermVector.hasPositions : TermVector → Bool
  | withPositionsOffsets => true
  | _ => false

structure IndexField where
  name : String
  value : String
  stored : Bool
  indexed : Bool
  tokenized : Bool
  termVector : TermVector
  deriving DecidableEq, Repr

namespace IndexField

def words (name value : String) : IndexField := ⟨name, value, false, true, true, .no⟩

def single (name value : String) : IndexField := ⟨name, value, false, true, false, .no⟩

def storedOnly (name value : String) : IndexField := ⟨name, value, true, false, false, .no⟩

def withStored (stored : Bool) (f : IndexField) : IndexField := { f with stored }

def withTermVector (termVector : TermVector) (f : IndexField) : IndexField := { f with termVector }

end IndexField

/-- The fields of a record in order; a name may come more than once. -/
abbrev Entry := List IndexField

namespace Entry

def values (e : Entry) (name : String) : List String :=
  (e.filter (·.name == name)).map (·.value)

def value? (e : Entry) (name : String) : Option String := (e.find? (·.name == name)).map (·.value)

def hasField (e : Entry) (name : String) : Bool := e.any (·.name == name)

end Entry

end SearchRetrieve
