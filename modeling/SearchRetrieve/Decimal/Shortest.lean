/-!
# Shortest decimal numbers

The decimal number with the fewest digits that still rounds to a given binary number `m · 2 ^ q`
with a significand of 53 bits; of several such numbers the one nearest to it. All arithmetic is on
natural numbers, in units of a quarter of the last binary place.
-/
namespace SearchRetrieve.Decimal

/-- A number of 53 significant bits. -/
structure Binary where
  significand : Nat
  exponent : Int
  deriving DecidableEq, Repr

namespace Binary

/-- The value and the two ends of what rounds to it, over a common denominator. -/
structure Span where
  low : Nat
  value : Nat
  high : Nat
  denominator : Nat
  /-- Do the ends themselves round to the value? -/
  closed : Bool
  deriving DecidableEq, Repr

/-- The gap below a power of two is half as wide as the one above it. -/
def span (b : Binary) : Span :=
  let m := 4 * b.significand
  let below := if b.significand = Nat.pow 2 52 ∧ -1074 < b.exponent then 1 else 2
  let (num, den) :=
    if 2 ≤ b.exponent then (Nat.pow 2 (b.exponent - 2).toNat, 1)
    else (1, Nat.pow 2 (2 - b.exponent).toNat)
  ⟨(m - below) * num, m * num, (m + 2) * num, den, b.significand % 2 == 0⟩

/-- Does `n / d` round to the value? -/
def Span.holds (s : Span) (n d : Nat) : Bool :=
  if s.closed then s.low * d ≤ n * s.denominator && n * s.denominator ≤ s.high * d
  else s.low * d < n * s.denominator && n * s.denominator < s.high * d

/-- How many places lie before the decimal point, or with a minus how many zeros follow it. -/
def Span.magnitude (s : Span) : Int :=
  let whole := s.value / s.denominator
  if 0 < whole then (toString whole).length
  else
    match (List.range 400).find? fun k => s.denominator ≤ s.value * Nat.pow 10 (k + 1) with
    | some k => -(k : Int)
    | none => 0

/-- Digits and the place of the last one, as a power of ten. -/
structure Digits where
  digits : Nat
  place : Int
  deriving DecidableEq, Repr

/-- The nearest of the numbers with `count` digits next to the value that round to it. -/
def Span.withDigits? (s : Span) (count : Nat) : Option Digits :=
  let place := s.magnitude - count
  let (up, down) :=
    if 0 ≤ place then (Nat.pow 10 place.toNat, 1) else (1, Nat.pow 10 (-place).toNat)
  let n := s.value * down / (s.denominator * up)
  let below := s.holds (n * up) down
  let above := s.holds ((n + 1) * up) down
  let fromBelow := s.value * down - n * up * s.denominator
  let fromAbove := (n + 1) * up * s.denominator - s.value * down
  if below && (!above || fromBelow ≤ fromAbove) then some ⟨n, place⟩
  else if above then some ⟨n + 1, place⟩
  else none

/-- Seventeen digits always suffice. -/
def shortest (b : Binary) : Digits :=
  let s := b.span
  ((List.range 17).findSome? fun k => s.withDigits? (k + 1)).getD ⟨s.value / s.denominator, 0⟩

end Binary

def Binary.Digits.text (d : Binary.Digits) : String :=
  let digits := (toString d.digits).toList
  if 0 ≤ d.place then String.ofList (digits ++ List.replicate d.place.toNat '0')
  else
    let places := (-d.place).toNat
    let padded := List.replicate (places + 1 - digits.length) '0' ++ digits
    let whole := padded.take (padded.length - places)
    let fraction := padded.drop (padded.length - places)
    let fraction := (fraction.reverse.dropWhile (· == '0')).reverse
    String.ofList (if fraction.isEmpty then whole else whole ++ '.' :: fraction)

/-- A natural number rounded to 53 bits, a half to the even neighbour. -/
def Binary.ofNat (n : Nat) : Binary :=
  let bits := if n = 0 then 0 else n.log2 + 1
  if bits ≤ 53 then ⟨n, 0⟩
  else
    let shift := bits - 53
    let unit := Nat.pow 2 shift
    let m := n / unit
    let rest := 2 * (n % unit)
    ⟨if rest < unit || (rest == unit && m % 2 == 0) then m else m + 1, shift⟩

def Binary.toNat (b : Binary) : Nat := b.significand * Nat.pow 2 b.exponent.toNat

def natText (n : Nat) : String := if n = 0 then "0" else (Binary.ofNat n).shortest.text

def Binary.ofFloat (x : Float) : Binary :=
  let bits : Nat := x.toBits.toNat
  let e : Nat := bits / Nat.pow 2 52 % Nat.pow 2 11
  let f : Nat := bits % Nat.pow 2 52
  if e = 0 then ⟨f, -1074⟩ else ⟨f + Nat.pow 2 52, (e : Int) - 1075⟩

def floatText (x : Float) : String :=
  let size := if x == 0 then "0" else (Binary.ofFloat x).shortest.text
  if x.toBits.toNat < Nat.pow 2 63 then size else "-" ++ size

end SearchRetrieve.Decimal
