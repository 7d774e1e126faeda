import SearchRetrieve.Text.Blank
import SearchRetrieve.Text.Digits

/-!
# Dates

The first line of a value is a date if it is written `yyyy-MM-dd`, `yyyy-MM` or `yyyy`; what is
left out is the first month and the first day. Which form is meant follows from the number of
bytes. White space may come before each number, month and day may have one digit, and a year with
a sign may have any number of digits.
-/
namespace SearchRetrieve

/-- A day of the Gregorian calendar, which is carried back before its beginning. -/
structure Date where
  year : Int
  month : Nat
  day : Nat
  deriving DecidableEq, Repr

namespace Date

def isLeapYear (year : Int) : Bool :=
  year % 4 == 0 && (year % 100 != 0 || year % 400 == 0)

def daysIn (year : Int) (month : Nat) : Nat :=
  match month with
  | 2 => if isLeapYear year then 29 else 28
  | 4 | 6 | 9 | 11 => 30
  | _ => 31

def isReal (d : Date) : Bool :=
  1 ≤ d.month && d.month ≤ 12 && 1 ≤ d.day && d.day ≤ daysIn d.year d.month

/-- A number of one digit at least and of `most` at most, and the text after it. -/
def readNumber (most : Nat) (cs : List Char) : Option (Nat × List Char) :=
  match (cs.takeWhile Text.isDigit).take most with
  | [] => none
  | digits => some (Text.digitsValue digits, cs.drop digits.length)

/-- A year: four digits at most, or any number of them after a sign. -/
def readYear (cs : List Char) : Option (Int × List Char) :=
  match cs with
  | '-' :: rest => (readNumber rest.length rest).map fun p => (-(p.1 : Int), p.2)
  | '+' :: rest => (readNumber rest.length rest).map fun p => ((p.1 : Int), p.2)
  | cs => (readNumber 4 cs).map fun p => ((p.1 : Int), p.2)

/-- A dash, white space and a number of two digits at most. -/
def readPart (cs : List Char) : Option (Nat × List Char) :=
  match cs with
  | '-' :: rest => readNumber 2 (Text.trimStartChars rest)
  | _ => none

def read (cs : List Char) : Option Date := do
  let (year, rest) ← readYear (Text.trimStartChars cs)
  let (month, rest) ← readPart rest
  let (day, rest) ← readPart rest
  let date : Date := ⟨year, month, day⟩
  if rest.isEmpty && date.isReal then return date else none

def padded (width n : Nat) : List Char :=
  let digits := (toString n).toList
  List.replicate (width - digits.length) '0' ++ digits

/-- A year in four digits; one that needs more or is negative has a sign. -/
def yearText (year : Int) : List Char :=
  if 0 ≤ year ∧ year ≤ 9999 then padded 4 year.toNat
  else (if year < 0 then '-' else '+') :: padded 4 year.natAbs

def term (d : Date) : String :=
  String.ofList (yearText d.year ++ padded 2 d.month ++ padded 2 d.day)

def byteCount (cs : List Char) : Nat := cs.foldl (fun n c => n + c.utf8Size) 0

def ofValue? (value : String) : Option Date :=
  let line := Text.trimChars ((value.toList.splitOn '\n').headD [])
  match byteCount line with
  | 10 => read line
  | 7 => read (line ++ "-01".toList)
  | 4 => if line.all Text.isDigit then read (line ++ "-01-01".toList) else none
  | _ => none

def normalize? (value : String) : Option String := (ofValue? value).map term

end Date

end SearchRetrieve
