import SearchRetrieve.Xml.Namespace
import SearchRetrieve.Xml.Piece

/-!
# Reading XML

A document has one element at the top, and beside it only white space, comments and processing
instructions. There are no document type declarations, so that only the predefined entities can
be referred to.
-/
namespace SearchRetrieve.Xml

/-- An element whose end tag has not come yet. -/
structure OpenElement where
  tagName : RawName
  name : Name
  attributes : List Attribute
  scope : Scope
  opening : String
  /-- What is inside so far, last node first. -/
  children : List Node

structure Draft where
  /-- The elements around that point, the innermost first. -/
  enclosing : List OpenElement
  root : Option Node

namespace Draft

def empty : Draft := ⟨[], none⟩

def scope (d : Draft) : Scope := (d.enclosing.head?.map OpenElement.scope).getD []

/-- A comment or an instruction, which at the top is not kept. -/
def withNode (n : Node) (d : Draft) : Draft :=
  match d.enclosing with
  | [] => d
  | e :: outer => { d with enclosing := { e with children := n :: e.children } :: outer }

def withElement? (n : Node) (d : Draft) : Option Draft :=
  match d.enclosing with
  | [] => if d.root.isNone then some { d with root := some n } else none
  | _ => some (d.withNode n)

/-- A run of text, which goes on with a text just before it. -/
def withText? (content markup : String) (d : Draft) : Option Draft :=
  match d.enclosing with
  | [] => if markup.toList.all isSpace then some d else none
  | e :: outer =>
    let children :=
      match e.children with
      | .text before first joined :: earlier =>
        .text (before ++ content) first (joined ++ markup) :: earlier
      | earlier => .text content markup "" :: earlier
    some { d with enclosing := { e with children } :: outer }

def withTag? (tag : Tag) (markup : String) (d : Draft) : Option Draft := do
  let scope ← d.scope.enter? tag.attributes
  let name ← scope.elementName? tag.name
  let attributes ← scope.attributes? tag.attributes
  if tag.isEmpty then d.withElement? (.element name attributes [] markup "")
  else
    return { d with
      enclosing := ⟨tag.name, name, attributes, scope, markup, []⟩ :: d.enclosing }

/-- An end tag, which has the name of the start tag as it was written. -/
def close? (name : RawName) (markup : String) (d : Draft) : Option Draft :=
  match d.enclosing with
  | [] => none
  | e :: outer =>
    if e.tagName = name then
      { d with enclosing := outer }.withElement?
        (.element e.name e.attributes e.children.reverse e.opening markup)
    else none

def add? (d : Draft) : Piece → Option Draft
  | .opening tag markup => d.withTag? tag markup
  | .closing name markup => d.close? name markup
  | .text content markup => d.withText? content markup
  | .comment markup => some (d.withNode (.comment markup))
  | .instruction markup => some (d.withNode (.instruction markup))

def root? (d : Draft) : Option Node := if d.enclosing.isEmpty then d.root else none

end Draft

/-- A document without its byte order mark and its declaration. -/
def body? (cs : List Char) : Option (List Char) :=
  let cs := if cs.head? = some '\uFEFF' then cs.tail else cs
  match Text.after? "<?xml ".toList cs with
  | some rest => afterDeclaration? rest
  | none => some cs

def ofText? (text : String) : Option Node := do
  let cs := text.toList
  if !cs.all isChar then none
  let pieces ← body? cs >>= Piece.ofChars?
  (← pieces.foldlM Draft.add? .empty).root?

/-- What a reader says about a text that is no document, if it says anything. The words are its own:
whoever runs a program brings them. -/
abbrev Complaint := String → Option String

def report (summary : String) : Option String → String
  | some reason => summary ++ ": " ++ reason
  | none => summary

end SearchRetrieve.Xml
