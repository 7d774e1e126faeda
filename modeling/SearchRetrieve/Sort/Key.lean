import SearchRetrieve.Text.Blank

/-!
# Sort keys

A sort key is written `path[,schema[,ascending[,caseSensitive[,missingValue]]]]`, and a list of
keys separates them by white space. An empty component takes its default, and `text` writes no
component that is not needed.
-/
namespace SearchRetrieve

/-- Where records without a value for a key go. -/
inductive MissingValue where
  /-- After every value. -/
  | highValue
  /-- Before every value. -/
  | lowValue
  | omitRecord
  | abortSearch
  /-- Where this value would be. -/
  | value (text : String)
  deriving DecidableEq, Repr

namespace MissingValue

def ofText (text : String) : MissingValue :=
  match text with
  | "highValue" => highValue
  | "lowValue" => lowValue
  | "omit" => omitRecord
  | "abort" => abortSearch
  | _ => value text

def text : MissingValue → String
  | highValue => "highValue"
  | lowValue => "lowValue"
  | omitRecord => "omit"
  | abortSearch => "abort"
  | value text => text

end MissingValue

structure SortKey where
  path : String
  schema : Option String
  ascending : Bool
  caseSensitive : Bool
  missingValue : MissingValue
  deriving DecidableEq, Repr

inductive SortKeyError where
  | tooManyComponents (text : String)
  | noPath (text : String)
  | badFlag (name flag : String)
  deriving DecidableEq, Repr

def SortKeyError.message : SortKeyError → String
  | tooManyComponents text => "Sort key has too many components: " ++ text
  | noPath text => "Sort key without a path: " ++ text
  | badFlag name flag => "Sort key " ++ name ++ " flag must be 0 or 1, got '" ++ flag ++ "'"

namespace SortKey

/-- The key that sorts by a path, ascending, with missing values last. -/
def ofPath (path : String) : SortKey := ⟨path, none, true, false, .highValue⟩

def component? (parts : List String) (i : Nat) : Option String :=
  match parts[i]? with
  | some "" => none
  | part => part

def readFlag (name : String) (default : Bool) : Option String → Except SortKeyError Bool
  | none => .ok default
  | some "1" => .ok true
  | some "0" => .ok false
  | some flag => .error (.badFlag name flag)

def ofParts (text : String) (parts : List String) : Except SortKeyError SortKey := do
  if parts.length > 5 then throw (.tooManyComponents text)
  let path := Text.trim (parts.headD "")
  if path = "" then throw (.noPath text)
  let ascending ← readFlag "ascending" true (component? parts 2)
  let caseSensitive ← readFlag "caseSensitive" false (component? parts 3)
  return {
    path
    schema := component? parts 1
    ascending
    caseSensitive
    missingValue := ((component? parts 4).map MissingValue.ofText).getD .highValue }

def parse (text : String) : Except SortKeyError SortKey := ofParts text (Text.splitAt ',' text)

/-- The keys of a list; no keys ask for the order of relevance. -/
def parseList (text : String) : Except SortKeyError (List SortKey) := (Text.words text).mapM parse

def flagText (flag : Bool) : String := if flag then "1" else "0"

def componentCount (k : SortKey) : Nat :=
  if k.missingValue ≠ .highValue then 5
  else if k.caseSensitive then 4
  else if !k.ascending then 3
  else if k.schema.isSome then 2
  else 1

/-- The shortest text that reads back as the key. -/
def text (k : SortKey) : String :=
  String.intercalate ","
    ([k.path, k.schema.getD "", flagText k.ascending, flagText k.caseSensitive,
      k.missingValue.text].take k.componentCount)

end SortKey

end SearchRetrieve
