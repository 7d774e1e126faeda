import SearchRetrieve.Text.Blank
import SearchRetrieve.Text.Digits

/-!
# Requests

A search is asked for page by page. Every request is a URL with the same parameters in the same
order; a later page may ask for the result set that the server has kept instead of the query.
-/
namespace SearchRetrieve

structure PageSettings where
  pageSize : Nat
  version : String
  recordPacking : String
  /-- How many seconds the server is to keep the result set. -/
  resultSetTtl : Option Nat
  deriving DecidableEq, Repr

namespace PageSettings

def standard : PageSettings := ⟨25, "1.1", "xml", some 15⟩

/-- Pages have one record at least. -/
def withPageSize (pageSize : Nat) (s : PageSettings) : PageSettings :=
  { s with pageSize := max pageSize 1 }

def withResultSetTtl (resultSetTtl : Option Nat) (s : PageSettings) : PageSettings :=
  { s with resultSetTtl }

end PageSettings

structure Search where
  baseUrl : String
  query : String
  recordSchema : Option String
  sortKeys : Option String
  settings : PageSettings
  deriving DecidableEq, Repr

/-- Blank sort keys are none. -/
def Search.withSortKeys (sortKeys : String) (s : Search) : Search :=
  { s with sortKeys := if Text.trim sortKeys = "" then none else some sortKeys }

structure Cursor where
  resultSetId : Option String
  /-- How many records are in front of the page. -/
  offset : Nat
  pageSize : Nat
  deriving DecidableEq, Repr

namespace Cursor

def start (pageSize : Nat) : Cursor := ⟨none, 0, max pageSize 1⟩

def moveTo (offset : Nat) (c : Cursor) : Cursor := { c with offset }

def withResultSet (resultSetId : Option String) (c : Cursor) : Cursor := { c with resultSetId }

/-- The number of the first record of the page; records are counted from one, in 64 bits. -/
def startRecord (c : Cursor) : Nat := (c.offset + 1) % UInt64.size

end Cursor

def continuationQuery (resultSetId : String) : String :=
  let escaped (c : Char) : List Char := if c == '\\' || c == '"' then ['\\', c] else [c]
  "cql.resultSetId=\"" ++ String.ofList (resultSetId.toList.flatMap escaped) ++ "\""

namespace Search

/-- The query of a request, which may continue with a result set. -/
def queryAt (s : Search) (c : Cursor) (continuing : Bool) : String :=
  match c.resultSetId with
  | some id => if continuing then continuationQuery id else s.query
  | none => s.query

def parameters (s : Search) (c : Cursor) (continuing : Bool) : List (String × String) :=
  [("query", s.queryAt c continuing), ("version", s.settings.version),
    ("operation", "searchRetrieve"), ("maximumRecords", toString c.pageSize),
    ("startRecord", toString c.startRecord)] ++
  (s.recordSchema.map (("recordSchema", ·))).toList ++
  [("recordPacking", s.settings.recordPacking)] ++
  (s.settings.resultSetTtl.map fun ttl => ("resultSetTTL", toString ttl)).toList ++
  (s.sortKeys.map (("sortKeys", ·))).toList

def parameterText (p : String × String) : String := p.1 ++ "=" ++ Text.percentEncoded p.2

def url (s : Search) (c : Cursor) (continuing : Bool) : String :=
  s.baseUrl ++ (if s.baseUrl.toList.contains '?' then "&" else "?") ++
    String.intercalate "&" ((s.parameters c continuing).map parameterText)

end Search

end SearchRetrieve
