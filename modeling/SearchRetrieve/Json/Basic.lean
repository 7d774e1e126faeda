/-!
# JSON values

Objects keep their members in the order of the text, repeated names included, since a reader of
records may refuse a repetition.
-/
namespace SearchRetrieve

namespace Json

/-- A decimal number `± digits · 10 ^ exponent`; `whole` tells that the text has no point and no
exponent. -/
structure Number where
  negative : Bool
  digits : Nat
  exponent : Int
  whole : Bool
  deriving DecidableEq, Repr

end Json

/-- A JSON value. `unreadable` is a string or an object whose escapes spell no text: it is
well formed, but only a reader that skips it can accept it. -/
inductive Json where
  | null
  | bool (b : Bool)
  | number (n : Json.Number)
  | text (s : String)
  | list (items : List Json)
  | object (members : List (String × Json))
  | unreadable
  deriving Repr

namespace Json

def ofNat (n : Nat) : Json := .number ⟨false, n, 0, true⟩

def ofOption {α : Type} (f : α → Json) : Option α → Json
  | some a => f a
  | none => .null

def texts (ss : List String) : Json := .list (ss.map .text)

/-- The value of a member; of a repeated name the last one counts. -/
def member? (name : String) : Json → Option Json
  | object members => (members.reverse.find? (·.1 == name)).map (·.2)
  | _ => none

def text? : Json → Option String
  | text s => some s
  | _ => none

def bool? : Json → Option Bool
  | bool b => some b
  | _ => none

def list? : Json → Option (List Json)
  | list items => some items
  | _ => none

def natUpTo? (limit : Nat) : Json → Option Nat
  | number n => if n.whole && !n.negative && n.digits ≤ limit then some n.digits else none
  | _ => none

mutual

/-- A value with the members of all its objects in the order of their names. -/
def sorted : Json → Json
  | list items => list (sortedItems items)
  | object members => object ((sortedMembers members).mergeSort fun m n => m.1 ≤ n.1)
  | j => j

def sortedItems : List Json → List Json
  | [] => []
  | item :: rest => item.sorted :: sortedItems rest

def sortedMembers : List (String × Json) → List (String × Json)
  | [] => []
  | (name, value) :: rest => (name, value.sorted) :: sortedMembers rest

end

def texts? : Json → Option (List String)
  | list items => items.mapM text?
  | _ => none

end Json

end SearchRetrieve
