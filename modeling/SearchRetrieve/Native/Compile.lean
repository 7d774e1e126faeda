import SearchRetrieve.Native.Escape
import SearchRetrieve.Query.Basic
import SearchRetrieve.Schema.Basic

/-!
# Native queries

A query becomes a native query over the fields of a schema. Every query has a native form:
a relation or an operator that the engine does not know becomes text that groups with nothing, and
clauses that say nothing leave no trace.

    title = moon            (title:moon)
    title exact "moon cow"  (title.exact:"moon cow")
    title any "moon cow"    ((title:moon OR title:cow))
    date within "1990 2000" (date:[1990 TO 2000])
    a and b                 ((a) AND (b))
-/
namespace SearchRetrieve

namespace Native

def resultSetIndex : String := "cql.resultSetId"

def stemModifier : String := "stem"

def joiner : BoolOp → String
  | .and => " AND "
  | .or => " OR "
  | .not => " NOT "
  | op => " UnknownBoolean(" ++ op.name ++ ") "

/-- Joins two native queries, either of which may be empty. An exclusion from nothing excludes
from all records. -/
def joinTexts (op : BoolOp) (left right : String) : String :=
  if right = "" then left
  else if left = "" then
    if op = .not then "(*:* NOT " ++ right ++ ")" else right
  else "(" ++ left ++ joiner op ++ right ++ ")"

/-- One field and one value for each word of a term. -/
def wordGroup (field term between : String) : String :=
  "(" ++ String.intercalate between
    ((Text.words term).map fun word => escape field ++ ":" ++ escape word) ++ ")"

/-- The physical field that a clause on `field` looks into. -/
def target (schema : Schema) (relation : Relation) (field : String) : String :=
  if relation.hasModifier stemModifier then schema.variantName field .stemmed else field

def fieldText (schema : Schema) (relation : Relation) (term field : String) : String :=
  match Text.asciiLower relation.base with
  | "=" | "scr" =>
    if field = "" then quoteIfBlank term
    else escape (target schema relation field) ++ ":" ++ quoteIfBlank term
  | "exact" | "==" => escape (schema.variantName field .exact) ++ ":" ++ quoteIfBlank term
  | "any" => wordGroup (target schema relation field) term " OR "
  | "all" => wordGroup (target schema relation field) term " AND "
  | "within" | "cql.within" =>
    match Text.words term with
    | [lower, upper] =>
      escape field ++ ":[" ++ escape lower ++ " TO " ++ escape upper ++ "]"
    | _ => ""
  | _ => "Unsupported Relation: " ++ relation.base

/-- Alternatives in parentheses, or nothing if there are none. -/
def alternatives (texts : List String) : String :=
  match texts.filter (· ≠ "") with
  | [] => ""
  | kept => "(" ++ String.intercalate " OR " kept ++ ")"

def clauseText (schema : Schema) (index : String) (relation : Relation) (term : String) :
    String :=
  if Text.sameIgnoringCase index resultSetIndex then ""
  else alternatives ((schema.resolve index).map (fieldText schema relation term))

end Native

def Query.native (schema : Schema) : Query → String
  | boolean op _ left right => Native.joinTexts op (left.native schema) (right.native schema)
  | clause index relation term => Native.clauseText schema index relation term

end SearchRetrieve
