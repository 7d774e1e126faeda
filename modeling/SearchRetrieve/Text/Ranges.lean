/-!
# Sorted tables of code points

A character class is an increasing array of ranges, a character map an increasing array of pairs.
Both are searched by halving.
-/
namespace SearchRetrieve.Text

/-- Ranges of code points, first and last included, in increasing order. -/
abbrev Ranges := Array (Nat × Nat)

/-- The last entry of `table` between `lo` and `hi` that starts at or before `n`. -/
def lastStart (table : Array (Nat × Nat)) (n lo hi : Nat) : Option (Nat × Nat) :=
  if lo < hi then
    let mid := (lo + hi) / 2
    match table[mid]? with
    | none => none
    | some entry =>
      if n < entry.1 then lastStart table n lo mid
      else (lastStart table n (mid + 1) hi).or (some entry)
  else none
termination_by hi - lo

def Ranges.covers (ranges : Ranges) (c : Char) : Bool :=
  match lastStart ranges c.toNat 0 ranges.size with
  | some range => c.toNat ≤ range.2
  | none => false

def valueIn (table : Array (Nat × Nat)) (n : Nat) : Option Nat :=
  match lastStart table n 0 table.size with
  | some entry => if entry.1 = n then some entry.2 else none
  | none => none

end SearchRetrieve.Text
