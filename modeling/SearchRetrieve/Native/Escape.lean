import SearchRetrieve.Text.Blank

/-!
# Escaping for the native query language

Every field name and every term goes into a native query escaped. The masking characters `*` and
`?` are not reserved, so masked terms keep their meaning.
-/
namespace SearchRetrieve.Native

/-- The characters with a meaning of their own in a native query. -/
def reserved : List Char :=
  ['\\', '+', '-', '!', '(', ')', ':', '^', '[', ']', '"', '\x7b', '\x7d', '~', '|', '&', '/']

def isReserved (c : Char) : Bool := reserved.contains c

def operatorWords : List String := ["AND", "OR", "NOT"]

def escapeChars : List Char → List Char
  | [] => []
  | c :: rest => if isReserved c then '\\' :: c :: escapeChars rest else c :: escapeChars rest

/-- The native text of a value. A value that is an operator word gets a backslash in front. -/
def escape (value : String) : String :=
  if operatorWords.contains value then String.ofList ('\\' :: escapeChars value.toList)
  else String.ofList (escapeChars value.toList)

def quoteIfBlank (value : String) : String :=
  if Text.hasBlank value.toList then "\"" ++ escape value ++ "\"" else escape value

end SearchRetrieve.Native
