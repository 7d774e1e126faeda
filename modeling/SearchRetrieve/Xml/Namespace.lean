import SearchRetrieve.Xml.Basic
import SearchRetrieve.Xml.Tag

/-!
# Namespaces

Declarations bind the prefixes of names to namespaces, for the element that they stand in and all
that is inside it. The empty prefix stands for the default namespace of elements.
-/
namespace SearchRetrieve.Xml

/-- Prefixes and their namespaces, inner bindings first. -/
abbrev Scope := List (String × String)

def xmlSpace : String := "http://www.w3.org/XML/1998/namespace"

def declarationSpace : String := "http://www.w3.org/2000/xmlns/"

namespace Scope

def declares (name : RawName) : Bool := name.spacePrefix == "xmlns" || name.localName == "xmlns"

/-- The bindings of an element and one more of its attributes. The two reserved namespaces have no
other prefixes than their own, and a prefix is bound once. -/
def declare (own : Scope) (a : RawName × String) : Option Scope :=
  if a.1.spacePrefix = "xmlns" then
    if a.2 = declarationSpace then none
    else if a.1.localName = "xml" then if a.2 = xmlSpace then some own else none
    else if a.2 = xmlSpace ∨ own.any (·.1 == a.1.localName) then none
    else some (own ++ [(a.1.localName, a.2)])
  else if a.1.localName = "xmlns" then
    if a.2 = xmlSpace ∨ a.2 = declarationSpace then none else some (own ++ [("", a.2)])
  else some own

def enter? (outer : Scope) (attributes : List (RawName × String)) : Option Scope :=
  (attributes.foldlM declare []).map (· ++ outer)

def elementName? (scope : Scope) (name : RawName) : Option Name :=
  if name.spacePrefix = "xmlns" then none
  else
    match scope.lookup name.spacePrefix with
    | some space => some ⟨some space, name.localName⟩
    | none => if name.spacePrefix = "" then some ⟨none, name.localName⟩ else none

/-- The name of an attribute, which without a prefix is in no namespace. -/
def attributeName? (scope : Scope) (name : RawName) : Option Name :=
  if name.spacePrefix = "xml" then some ⟨some xmlSpace, name.localName⟩
  else if name.spacePrefix = "" then some ⟨none, name.localName⟩
  else (scope.lookup name.spacePrefix).map fun space => ⟨some space, name.localName⟩

def attribute? (scope : Scope) (a : RawName × String) : Option Attribute :=
  (scope.attributeName? a.1).map (⟨·, a.2⟩)

/-- The attributes that declare no namespace; no two of them may have one name. -/
def attributes? (scope : Scope) (attributes : List (RawName × String)) :
    Option (List Attribute) := do
  let resolved ← (attributes.filter fun a => !declares a.1).mapM scope.attribute?
  if (resolved.map Attribute.name).Nodup then return resolved else none

end Scope

end SearchRetrieve.Xml
