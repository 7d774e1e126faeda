import SearchRetrieve.Text.Blank

/-!
# Queries

A query is a tree of booleans over clauses, and a clause asks for a term in an index under a
relation. Relations and booleans carry modifiers.
-/
namespace SearchRetrieve

/-- The operator that joins two queries; `other` is a name outside the query language. -/
inductive BoolOp where
  | and
  | or
  | not
  | prox
  | other (name : String)
  deriving DecidableEq, Repr

namespace BoolOp

def ofWord? (word : String) : Option BoolOp :=
  match Text.asciiLower word with
  | "and" => some .and
  | "or" => some .or
  | "not" => some .not
  | "prox" => some .prox
  | _ => none

def ofName (name : String) : BoolOp := (ofWord? name).getD (.other name)

def name : BoolOp → String
  | and => "and"
  | or => "or"
  | not => "not"
  | prox => "prox"
  | other name => name

end BoolOp

/-- A modifier `/name`, or `/name` with a comparator and a value. -/
structure Modifier where
  name : String
  comparator : Option String
  value : Option String
  deriving DecidableEq, Repr

structure Relation where
  base : String
  modifiers : List Modifier
  deriving DecidableEq, Repr

def Relation.hasModifier (r : Relation) (name : String) : Bool :=
  r.modifiers.any fun m => Text.sameIgnoringCase m.name name

inductive Query where
  | boolean (op : BoolOp) (modifiers : List Modifier) (left right : Query)
  | clause (index : String) (relation : Relation) (term : String)
  deriving DecidableEq, Repr

namespace Query

def defaultIndex : String := "cql.serverChoice"

def defaultRelation : String := "scr"

/-- A term alone, left to the server's choice of index. -/
def bare (term : String) : Query := .clause defaultIndex ⟨defaultRelation, []⟩ term

def join (op : BoolOp) (left right : Query) : Query := .boolean op [] left right

def clauseCount : Query → Nat
  | boolean _ _ left right => left.clauseCount + right.clauseCount
  | clause _ _ _ => 1

def relationWords : List String := ["any", "all", "exact", "within", "adj", "scr", "encloses"]

/-- Can this word be a relation? Every name with a context set prefix can. -/
def isRelationWord (word : String) : Bool :=
  relationWords.contains (Text.asciiLower word) || word.toList.contains '.'

end Query

end SearchRetrieve
