import SearchRetrieve.Text.Digits

/-!
# Characters of XML

Which characters a document and its names may have, what references stand for, and how line ends
and white space are normalised in texts and in attribute values.
-/
namespace SearchRetrieve.Xml

def isChar (c : Char) : Bool :=
  if c.toNat < 0x20 then c == '\t' || c == '\n' || c == '\r'
  else c.toNat != 0xFFFE && c.toNat != 0xFFFF

def isSpace (c : Char) : Bool := c == ' ' || c == '\t' || c == '\n' || c == '\r'

def skipSpace (cs : List Char) : List Char := cs.dropWhile isSpace

theorem skipSpace_length (cs : List Char) : (skipSpace cs).length ≤ cs.length :=
  (List.dropWhile_sublist _).length_le

/-- The ranges of the characters beyond ASCII that names may begin with. -/
def nameStartRanges : List (Nat × Nat) :=
  [(0xC0, 0xD6), (0xD8, 0xF6), (0xF8, 0x2FF), (0x370, 0x37D), (0x37F, 0x1FFF), (0x200C, 0x200D),
    (0x2070, 0x218F), (0x2C00, 0x2FEF), (0x3001, 0xD7FF), (0xF900, 0xFDCF), (0xFDF0, 0xFFFD),
    (0x10000, 0xEFFFF)]

def inRanges (ranges : List (Nat × Nat)) (n : Nat) : Bool :=
  ranges.any fun r => r.1 ≤ n && n ≤ r.2

def isNameStart (c : Char) : Bool :=
  c.isAlpha || c == ':' || c == '_' || inRanges nameStartRanges c.toNat

def isNameChar (c : Char) : Bool :=
  isNameStart c || c.isDigit || c == '-' || c == '.' || c.toNat == 0xB7 ||
    inRanges [(0x300, 0x36F), (0x203F, 0x2040)] c.toNat

def beginsName (cs : List Char) : Bool := cs.head?.any isNameStart

/-- A character as it is read: one that is written, or one that a reference stands for. -/
inductive Item where
  | literal (c : Char)
  | referred (c : Char)
  deriving DecidableEq, Repr

def codeOf? (radix : Nat) (digits : List Char) : Option Nat := do
  if digits.isEmpty then none
  let values ← digits.mapM Text.hexDigit?
  let n := values.foldl (fun n d => n * radix + d) 0
  if values.all (· < radix) && n < UInt32.size then some n else none

/-- The character of a number; the replacement character where there is none. -/
def charOf (n : Nat) : Char := if n.isValidChar then Char.ofNat n else '\uFFFD'

def referred? (cs : List Char) : Option Char := do
  let c ←
    match cs with
    | '#' :: 'x' :: digits => (codeOf? 16 digits).map charOf
    | '#' :: digits => (codeOf? 10 digits).map charOf
    | cs =>
      match String.ofList cs with
      | "quot" => some '"'
      | "amp" => some '&'
      | "apos" => some '\''
      | "lt" => some '<'
      | "gt" => some '>'
      | _ => none
  if isChar c then some c else none

/-- The characters of a text with references resolved. While a reference is open, `name` holds
what has been read of it, last character first. -/
def items? (name : Option (List Char)) : List Char → Option (List Item)
  | [] => if name.isNone then some [] else none
  | c :: rest =>
    match name with
    | some name =>
      if c = ';' then do
        return .referred (← referred? name.reverse) :: (← items? none rest)
      else items? (some (c :: name)) rest
    | none => if c = '&' then items? (some []) rest else (items? none rest).map (.literal c :: ·)

/-- A text with its line ends as line feeds. A carriage return that a reference stands for stays,
and so does one that is written just before a reference, or last and just after one. -/
def lineEnds (afterReference : Bool) : List Item → List Char
  | [] => []
  | .referred c :: rest => c :: lineEnds true rest
  | [.literal '\r'] => [if afterReference then '\r' else '\n']
  | .literal '\r' :: .literal '\n' :: rest => '\n' :: lineEnds false rest
  | .literal '\r' :: .referred c :: rest => '\r' :: c :: lineEnds true rest
  | .literal '\r' :: rest => '\n' :: lineEnds false rest
  | .literal c :: rest => c :: lineEnds false rest

/-- An attribute value with a blank for each written line end and tabulator. -/
def blanks : List Item → List Char
  | [] => []
  | .referred c :: rest => c :: blanks rest
  | .literal '\r' :: .literal '\n' :: rest => ' ' :: blanks rest
  | .literal c :: rest => (if c == '\n' || c == '\r' || c == '\t' then ' ' else c) :: blanks rest

def plainText? (cs : List Char) : Option String :=
  (items? none cs).map fun items => String.ofList (lineEnds false items)

def cdataText (cs : List Char) : String := String.ofList (lineEnds false (cs.map Item.literal))

def attributeValue? (cs : List Char) : Option String :=
  (items? none cs).map fun items => String.ofList (blanks items)

end SearchRetrieve.Xml
