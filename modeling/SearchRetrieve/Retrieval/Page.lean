import SearchRetrieve.Fault
import SearchRetrieve.Text.Blank
import SearchRetrieve.Text.Digits
import SearchRetrieve.Xml.Reader

/-!
# Response pages

A response gives the number of all records and some of them, each in a slot that may be empty.
It can report diagnostics instead or beside, and counts of facets.
-/
namespace SearchRetrieve

structure Diagnostic where
  uri : String
  details : Option String
  message : Option String
  deriving DecidableEq, Repr

structure FacetValue where
  value : String
  hits : Nat
  deriving DecidableEq, Repr

/-- How many records have each value of a field. -/
structure Facet where
  name : String
  values : List FacetValue
  deriving DecidableEq, Repr

structure Page where
  /-- The number of records of the whole result set. -/
  total : Nat
  resultSetId : Option String
  /-- The slots of the page; one can be without a record. -/
  records : List (Option String)
  diagnostics : List Diagnostic
  facets : List Facet
  deriving DecidableEq, Repr

inductive PageError where
  /-- With the words of the XML reader. -/
  | malformed (reason : Option String)
  | unexpectedRoot (localName : String)
  | resultSetExpired (uri : String)
  | badTotal (text : String)
  /-- With the first diagnostic, if there is one. -/
  | noTotal (uri : Option String)
  deriving DecidableEq, Repr

def PageError.fault : PageError → Fault
  | malformed reason => .response (Xml.report "Invalid XML" reason)
  | unexpectedRoot localName => .response ("Unexpected root element <" ++ localName ++ ">")
  | resultSetExpired uri => .resultSetExpired uri
  | badTotal text => .response ("Invalid numberOfRecords '" ++ text ++ "'")
  | noTotal none => .response "Response has no numberOfRecords"
  | noTotal (some uri) =>
    .response ("Response has no numberOfRecords (diagnostic " ++ uri ++ ")")

namespace Diagnostic

/-- The diagnostic of a server that does not keep the result set any more. -/
def expiredUri : String := "info:srw/diagnostic/1/51"

def isExpiry (d : Diagnostic) : Bool := Text.trim d.uri == expiredUri

end Diagnostic

namespace Page

def responseSpace : String := "http://www.loc.gov/zing/srw/"

/-- Is this an element of the response format, in its namespace or in none? -/
def isPart (localName : String) (n : Xml.Node) : Bool :=
  n.name? == some ⟨none, localName⟩ || n.name? == some ⟨some responseSpace, localName⟩

def parts (localName : String) (n : Xml.Node) : List Xml.Node :=
  n.children.filter (isPart localName)

def named (localName : String) (n : Xml.Node) : List Xml.Node :=
  n.children.filter (Xml.Node.isNamed localName)

def trimmedText (n : Xml.Node) : String := Text.trim (n.leadingText?.getD "")

def childText? (localName : String) (n : Xml.Node) : Option String :=
  (named localName n).head?.map trimmedText

def partText? (localName : String) (n : Xml.Node) : Option String :=
  (parts localName n).head?.map trimmedText

def diagnosticOf? (n : Xml.Node) : Option Diagnostic :=
  (childText? "uri" n).map fun uri => ⟨uri, childText? "details" n, childText? "message" n⟩

def diagnosticsOf (root : Xml.Node) : List Diagnostic :=
  ((parts "diagnostics" root).flatMap (named "diagnostic")).filterMap diagnosticOf?

/-- The record of a slot: the markup of an element, or else a text that is not blank. -/
def payload? (record : Xml.Node) : Option String :=
  match (parts "recordData" record).head? with
  | none => none
  | some data =>
    match data.children.find? Xml.Node.isElement with
    | some element => some element.markup
    | none =>
      match Text.trim (String.join (data.children.filterMap Xml.Node.text?)) with
      | "" => none
      | text => some text

def recordsOf (root : Xml.Node) : List (Option String) :=
  ((parts "records" root).flatMap (parts "record")).map payload?

def facetValueOf (n : Xml.Node) : FacetValue where
  value := trimmedText n
  hits :=
    ((n.attribute? "hits").bind fun h =>
      Text.natBelow? UInt64.size (Text.trimChars h.toList)).getD 0

def facetOf (n : Xml.Node) : Facet :=
  ⟨(n.attribute? "name").getD "", (named "value" n).map facetValueOf⟩

def isFacetInformation (n : Xml.Node) : Bool :=
  n.name?.any fun name => "facetInformation".toList.isSuffixOf name.localName.toList

def facetsOf (root : Xml.Node) : List Facet :=
  let extra := (parts "extraResponseData" root).flatMap Xml.Node.descendants
  ((extra.filter isFacetInformation).flatMap (named "field")).map facetOf

def totalOf (root : Xml.Node) : Except PageError Nat :=
  match partText? "numberOfRecords" root with
  | none => .error (.noTotal ((diagnosticsOf root).head?.map Diagnostic.uri))
  | some text =>
    match Text.natBelow? UInt64.size text.toList with
    | some n => .ok n
    | none => .error (.badTotal text)

def resultSetIdOf (root : Xml.Node) : Option String :=
  match partText? "resultSetId" root with
  | some "" => none
  | id => id

/-- The page of a response. That the result set has expired counts more than all but the name of
the root. -/
def ofRoot (root : Xml.Node) : Except PageError Page := do
  if !isPart "searchRetrieveResponse" root then
    throw (.unexpectedRoot ((root.name?.map Xml.Name.localName).getD ""))
  let diagnostics := diagnosticsOf root
  if let some expired := diagnostics.find? Diagnostic.isExpiry then
    throw (.resultSetExpired expired.uri)
  return {
    total := ← totalOf root
    resultSetId := resultSetIdOf root
    records := recordsOf root
    diagnostics
    facets := facetsOf root }

def ofText (text : String) (complaint : Xml.Complaint := fun _ => none) : Except PageError Page :=
  match Xml.ofText? text with
  | some root => ofRoot root
  | none => .error (.malformed (complaint text))

def firstDiagnostic? (text : String) : Option String :=
  (Xml.ofText? text).bind fun root => (diagnosticsOf root).head?.map Diagnostic.uri

end Page

end SearchRetrieve
