import SearchRetrieve.Text.Blank

/-!
# Types of source fields

A source record declares for a field how it is to be searched, or leaves it to the value.
-/
namespace SearchRetrieve

inductive FieldType where
  /-- A short value, matched exactly, sorted and counted. -/
  | keyword
  /-- Free text, highlighted. -/
  | text
  /-- Kept, but never searched. -/
  | record
  deriving DecidableEq, Repr

namespace FieldType

def name : FieldType → String
  | keyword => "keyword"
  | text => "text"
  | record => "record"

def ofName? (name : String) : Option FieldType :=
  match Text.asciiLower (Text.trim name) with
  | "keyword" => some keyword
  | "text" => some text
  | "record" => some record
  | _ => none

/-- The most characters of a value that is taken for a keyword. -/
def keywordLimit : Nat := 64

/-- The type of a value without a declared one. -/
def infer (value : String) : FieldType := if value.length > keywordLimit then text else keyword

end FieldType

end SearchRetrieve
