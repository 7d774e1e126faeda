import SearchRetrieve.Json.Basic

/-!
# Writing JSON

Two layouts: everything on one line, and one item a line with two more spaces for each level.
-/
namespace SearchRetrieve.Json

def hexChar (n : Nat) : Char := if n < 10 then Char.ofNat (48 + n) else Char.ofNat (87 + n)

def escapedChar (c : Char) : List Char :=
  match c with
  | '"' => ['\\', '"']
  | '\\' => ['\\', '\\']
  | '\x08' => ['\\', 'b']
  | '\x0c' => ['\\', 'f']
  | '\n' => ['\\', 'n']
  | '\r' => ['\\', 'r']
  | '\t' => ['\\', 't']
  | c =>
    if c.toNat < 0x20 then ['\\', 'u', '0', '0', hexChar (c.toNat / 16), hexChar (c.toNat % 16)]
    else [c]

def stringText (s : String) : String :=
  String.ofList ('"' :: s.toList.flatMap escapedChar ++ ['"'])

def Number.text (n : Number) : String :=
  (if n.negative then "-" else "") ++ toString n.digits ++
    (if n.exponent = 0 then "" else "e" ++ toString n.exponent)

mutual

def compact : Json → String
  | null => "null"
  | bool true => "true"
  | bool false => "false"
  | number n => n.text
  | text s => stringText s
  | list items => "[" ++ String.intercalate "," (compactItems items) ++ "]"
  | object members => "\x7b" ++ String.intercalate "," (compactMembers members) ++ "\x7d"
  | unreadable => "null"

def compactItems : List Json → List String
  | [] => []
  | item :: rest => item.compact :: compactItems rest

def compactMembers : List (String × Json) → List String
  | [] => []
  | (name, value) :: rest => (stringText name ++ ":" ++ value.compact) :: compactMembers rest

end

def newLine (depth : Nat) : String := String.ofList ('\n' :: List.replicate (2 * depth) ' ')

/-- Lines between brackets, or just the brackets where there are none. -/
def block (opening closing : String) (depth : Nat) (lines : List String) : String :=
  if lines.isEmpty then opening ++ closing
  else
    opening ++ newLine (depth + 1) ++ String.intercalate ("," ++ newLine (depth + 1)) lines ++
      newLine depth ++ closing

mutual

/-- The text with one item a line, nested `depth` levels deep. -/
def prettyAt (depth : Nat) : Json → String
  | list items => block "[" "]" depth (prettyItems (depth + 1) items)
  | object members => block "\x7b" "\x7d" depth (prettyMembers (depth + 1) members)
  | null => "null"
  | bool true => "true"
  | bool false => "false"
  | number n => n.text
  | text s => stringText s
  | unreadable => "null"

def prettyItems (depth : Nat) : List Json → List String
  | [] => []
  | item :: rest => item.prettyAt depth :: prettyItems depth rest

def prettyMembers (depth : Nat) : List (String × Json) → List String
  | [] => []
  | (name, value) :: rest =>
    (stringText name ++ ": " ++ value.prettyAt depth) :: prettyMembers depth rest

end

def pretty (j : Json) : String := prettyAt 0 j

end SearchRetrieve.Json
