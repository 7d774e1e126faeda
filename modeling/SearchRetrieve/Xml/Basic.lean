/-!
# XML trees

The elements and texts of a document, comments and processing instructions included. Every node
keeps the markup that it was written as, so that a part of a document can be handed on unchanged.
-/
namespace SearchRetrieve.Xml

/-- A name and the namespace that it belongs to; an empty namespace is not the same as none. -/
structure Name where
  space : Option String
  localName : String
  deriving DecidableEq, Repr

structure Attribute where
  name : Name
  value : String
  deriving DecidableEq, Repr

inductive Node where
  /-- `opening` and `closing` are the tags; an empty-element tag has no closing one. -/
  | element (name : Name) (attributes : List Attribute) (children : List Node)
      (opening closing : String)
  /-- Characters with references resolved. A text can be written in several runs, plain and
  CDATA sections; `joined` is the markup of the runs after the first one. -/
  | text (content first joined : String)
  | comment (markup : String)
  | instruction (markup : String)
  deriving Repr

namespace Node

def name? : Node → Option Name
  | element name _ _ _ _ => some name
  | _ => none

def children : Node → List Node
  | element _ _ children _ _ => children
  | _ => []

def isElement (n : Node) : Bool := n.name?.isSome

def isNamed (localName : String) (n : Node) : Bool := n.name?.any (·.localName == localName)

/-- The value of an attribute that is in no namespace. -/
def attribute? (localName : String) : Node → Option String
  | element _ attributes _ _ _ =>
    (attributes.find? (·.name == ⟨none, localName⟩)).map Attribute.value
  | _ => none

def text? : Node → Option String
  | text content _ _ => some content
  | _ => none

def leadingText? (n : Node) : Option String := n.children.head?.bind text?

mutual

/-- A node and all nodes inside it, in the order of the document. -/
def descendants : Node → List Node
  | element name attributes children opening closing =>
    element name attributes children opening closing :: descendantsOf children
  | n => [n]

def descendantsOf : List Node → List Node
  | [] => []
  | n :: rest => n.descendants ++ descendantsOf rest

end

def textContent (n : Node) : String := String.join (n.descendants.filterMap text?)

mutual

def markup : Node → String
  | element _ _ children opening closing => opening ++ markupOf children ++ closing
  | text _ first joined => first ++ joined
  | comment markup => markup
  | instruction markup => markup

def markupOf : List Node → String
  | [] => ""
  | n :: rest => n.markup ++ markupOf rest

end

/-- The markup from where a node begins to where its first run ends. -/
def firstMarkup : Node → String
  | text _ first _ => first
  | n => n.markup

/-- The markup of nodes that follow each other, up to the end of the first run of the last one. -/
def spanMarkup : List Node → String
  | [] => ""
  | [n] => n.firstMarkup
  | n :: rest => n.markup ++ spanMarkup rest

def innerMarkup (n : Node) : String := spanMarkup n.children

end Node

end SearchRetrieve.Xml
