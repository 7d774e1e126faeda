/-!
# Faults

Everything that an operation can report to its caller, and the wording of the reports.
-/
namespace SearchRetrieve

inductive Fault where
  | configuration (text : String)
  | io (text : String)
  | json (text : String)
  | query (text : String)
  | document (text : String)
  | transport (text : String)
  | response (text : String)
  /-- The server has dropped the result set; the search has to be run again. -/
  | resultSetExpired (diagnostic : String)
  /-- Every attempt at a page failed. -/
  | fetchFailed (attempts : Nat) (lastError : String) (lastDiagnostic : Option String)
  /-- There is no record after the last one. -/
  | exhausted
  deriving DecidableEq, Repr

namespace Fault

def message : Fault → String
  | configuration text => "Configuration error: " ++ text
  | io text => "IO error: " ++ text
  | json text => "JSON error: " ++ text
  | query text => "Query parse error: " ++ text
  | document text => "Invalid source document: " ++ text
  | transport text => "Transport error: " ++ text
  | response text => "Malformed search response: " ++ text
  | resultSetExpired diagnostic => "Result set no longer exists (" ++ diagnostic ++ ")"
  | fetchFailed attempts lastError lastDiagnostic =>
    "Fetching results failed after " ++ toString attempts ++ " attempts: " ++ lastError ++
      match lastDiagnostic with
      | some uri => " (last diagnostic: " ++ uri ++ ")"
      | none => ""
  | exhausted => "No more records in the result set"

/-- May a failed page fetch be tried again with the same search? -/
def retriable : Fault → Bool
  | transport _ | response _ | io _ => true
  | _ => false

end Fault

end SearchRetrieve
