import SearchRetrieve.Schema.Variant

/-!
# Notices

What an operation has to say beside its result: things left out, things that went wrong and were
dealt with. Notices never change a result.
-/
namespace SearchRetrieve

inductive Notice where
  | emptySuffix (v : Variant)
  | takenSuffix (v : Variant) (suffix : String) (owner : Variant)
  | overlappingSuffix (v other : Variant)
  | emptySynonym (name : String)
  | variantField (field : String)
  | unknownLanguage (language : String)
  | unknownType (field declared : String)
  | unnamedField
  | unnamedIndexField
  | emptyIndexField (field : String)
  | fetching (url : String) (attempt : Nat)
  | attemptFailed (attempt : Nat) (error : String)
  | notRetrying (error : String)
  | givingUp (attempts : Nat) (error : String)
  | diagnostic (uri message : String)
  | countChanged (known reported : Nat)
  | recordMissing (position : Nat)
  deriving DecidableEq, Repr

namespace Notice

inductive Level where
  | info
  | warn
  | error
  deriving DecidableEq, Repr

def Level.name : Level → String
  | info => "INFO"
  | warn => "WARN"
  | error => "ERROR"

def level : Notice → Level
  | emptyIndexField _ | fetching .. => .info
  | notRetrying _ | givingUp .. | recordMissing _ => .error
  | _ => .warn

def message : Notice → String
  | emptySuffix _ => "Empty variant suffix, disabling representation"
  | takenSuffix .. => "Variant suffix already in use, disabling representation"
  | overlappingSuffix .. => "Variant suffixes overlap, the longest match wins when stripping"
  | emptySynonym _ => "Synonym maps to no fields, ignoring it"
  | variantField _ =>
    "Configured field carries a variant suffix, excluding it from the anywhere set"
  | unknownLanguage _ => "Unsupported tokenizer language, using English"
  | unknownType .. => "Unrecognized field type, skipping field"
  | unnamedField => "Source field without a name, skipping it"
  | unnamedIndexField => "IndexField without IFname, skipping it"
  | emptyIndexField _ => "Empty IndexField, skipping it"
  | fetching .. => "Fetching results page"
  | attemptFailed .. => "Error fetching results"
  | notRetrying _ => "Result page fetch failed, not retrying"
  | givingUp .. => "Giving up on result page"
  | diagnostic .. => "Server reported a diagnostic"
  | countChanged .. => "Result count changed while paging, keeping the first count"
  | recordMissing _ => "Search result is not available"

def fields : Notice → List (String × String)
  | emptySuffix v => [("kind", v.name)]
  | takenSuffix v suffix owner => [("kind", v.name), ("suffix", suffix), ("owner", owner.name)]
  | overlappingSuffix v other => [("kind", v.name), ("other", other.name)]
  | emptySynonym name => [("alias", name)]
  | variantField field => [("field", field)]
  | unknownLanguage language => [("language", language)]
  | unknownType field declared => [("field", field), ("declared_type", declared)]
  | unnamedField => []
  | unnamedIndexField => []
  | emptyIndexField field => [("field", field)]
  | fetching url attempt => [("url", url), ("attempt", toString attempt)]
  | attemptFailed attempt error => [("attempt", toString attempt), ("error", error)]
  | notRetrying error => [("error", error)]
  | givingUp attempts error => [("attempts", toString attempts), ("error", error)]
  | diagnostic uri message => [("uri", uri), ("message", message)]
  | countChanged known reported =>
    [("known", toString known), ("reported", toString reported)]
  | recordMissing position => [("position", toString position)]

end Notice

end SearchRetrieve
