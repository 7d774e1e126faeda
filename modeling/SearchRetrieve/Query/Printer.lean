import SearchRetrieve.Query.Basic

/-!
# The text of a query

Every boolean stands in parentheses and every term in quotes, so that the text reads back.
-/
namespace SearchRetrieve

namespace Query

def escapeTerm : List Char → List Char
  | [] => []
  | c :: rest => if c = '"' ∨ c = '\\' then '\\' :: c :: escapeTerm rest else c :: escapeTerm rest

def quoteTerm (term : String) : String :=
  String.ofList ('"' :: escapeTerm term.toList ++ ['"'])

end Query

/-- A comparator and a value are written only together. -/
def Modifier.text (m : Modifier) : String :=
  match m.comparator, m.value with
  | some comparator, some value => "/" ++ m.name ++ comparator ++ Query.quoteTerm value
  | _, _ => "/" ++ m.name

def Modifier.textOfAll (ms : List Modifier) : String := String.join (ms.map Modifier.text)

def Query.text : Query → String
  | boolean op modifiers left right =>
    "(" ++ left.text ++ " " ++ op.name ++ Modifier.textOfAll modifiers ++ " " ++ right.text ++ ")"
  | clause index relation term =>
    index ++ " " ++ relation.base ++ Modifier.textOfAll relation.modifiers ++ " " ++
      quoteTerm term

end SearchRetrieve
