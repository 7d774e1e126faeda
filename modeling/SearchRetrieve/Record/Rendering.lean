import SearchRetrieve.Analysis.Analyzer
import SearchRetrieve.Json.Printer

/-!
# Records as JSON

An index field and a posting become objects of their parts, and a record a printed list of its
fields.
-/
namespace SearchRetrieve

def TermVector.name : TermVector → String
  | no => "no"
  | yes => "yes"
  | withPositionsOffsets => "with_positions_offsets"

def IndexField.json (f : IndexField) : Json :=
  .object [("name", .text f.name), ("value", .text f.value), ("stored", .bool f.stored),
    ("indexed", .bool f.indexed), ("tokenized", .bool f.tokenized),
    ("term_vector", .text f.termVector.name)]

def Posting.json (p : Posting) : Json :=
  .object [("field", .text p.field), ("term", .text p.term),
    ("position", Json.ofOption .ofNat p.position),
    ("offsets", Json.ofOption (fun o => .list [.ofNat o.1, .ofNat o.2]) p.offsets)]

/-- The index fields of a record, and with `analyze` the postings too. -/
def recordText (schema : Schema) (analyze : Bool) (dateFields : List String) (entry : Entry) :
    String :=
  let fields : Json := .list (entry.map IndexField.json)
  if analyze then
    let analyzer := { Analyzer.ofSchema schema with dateFields }
    let postings : Json := .list ((analyzer.postings entry).map Posting.json)
    (Json.sorted (.object [("fields", fields), ("postings", postings)])).pretty
  else fields.pretty

end SearchRetrieve
