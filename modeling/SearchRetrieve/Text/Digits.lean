/-!
# Digits

Numbers as texts of ASCII digits, and the percent encoding of a text inside a URL: letters, digits
and four marks stand for themselves, and of any other character every byte of its UTF-8 form is
written as a percent sign and two hexadecimal digits.
-/
namespace SearchRetrieve.Text

def isDigit (c : Char) : Bool := '0' ≤ c && c ≤ '9'

def digitsValue (digits : List Char) : Nat :=
  digits.foldl (fun n c => n * 10 + (c.toNat - '0'.toNat)) 0

def hexDigit? (c : Char) : Option Nat :=
  if '0' ≤ c ∧ c ≤ '9' then some (c.toNat - '0'.toNat)
  else if 'a' ≤ c ∧ c ≤ 'f' then some (c.toNat - 'a'.toNat + 10)
  else if 'A' ≤ c ∧ c ≤ 'F' then some (c.toNat - 'A'.toNat + 10)
  else none

/-- The number that a text spells, with or without a plus sign in front, if it is below a bound. -/
def natBelow? (bound : Nat) (cs : List Char) : Option Nat :=
  let digits := if cs.head? = some '+' then cs.tail else cs
  if digits.isEmpty || !digits.all isDigit || bound ≤ digitsValue digits then none
  else some (digitsValue digits)

def isUnreserved (c : Char) : Bool :=
  c.isAlphanum || c == '-' || c == '_' || c == '.' || c == '~'

def upperHexDigit (n : Nat) : Char := if n < 10 then Char.ofNat (48 + n) else Char.ofNat (55 + n)

def percentByte (b : UInt8) : List Char :=
  ['%', upperHexDigit (b.toNat / 16), upperHexDigit (b.toNat % 16)]

/-- A character of a class as it is, any other in percent encoding. -/
def percentChar (plain : Char → Bool) (c : Char) : List Char :=
  if plain c then [c] else (String.utf8EncodeChar c).flatMap percentByte

def percentChars (cs : List Char) : List Char := cs.flatMap (percentChar isUnreserved)

def percentEncoded (s : String) : String := String.ofList (percentChars s.toList)

end SearchRetrieve.Text
