import SearchRetrieve.Decimal.Shortest

/-!
# Counters

What has been done so far, in numbers. A counter is a floating point number, which is rounded beyond
53 bits. Fields are counted by type and any number at a time. Every other counter goes up by one, so
that it is exact: no run makes as many calls as 53 bits can count.
-/
namespace SearchRetrieve

structure Counters where
  queriesCompiled : Nat
  pagesFetched : Nat
  attemptsFailed : Nat
  hardFailures : Nat
  missingRecords : Nat
  /-- Fields by type, in the order of the types. -/
  fieldsEmitted : List (String × Nat)
  fieldsSkipped : Nat
  deriving DecidableEq, Repr

namespace Counters

def zero : Counters := ⟨0, 0, 0, 0, 0, [], 0⟩

def rounded (n : Nat) : Nat := (Decimal.Binary.ofNat n).toNat

/-- Adds to the count of a type, which begins with zero. -/
def addTo (type : String) (count : Nat) : List (String × Nat) → List (String × Nat)
  | [] => [(type, rounded count)]
  | entry :: rest =>
    if type < entry.1 then (type, rounded count) :: entry :: rest
    else if type = entry.1 then (type, rounded (entry.2 + rounded count)) :: rest
    else entry :: addTo type count rest

def compiled (c : Counters) : Counters := { c with queriesCompiled := c.queriesCompiled + 1 }

def pageFetched (c : Counters) : Counters := { c with pagesFetched := c.pagesFetched + 1 }

def attemptFailed (c : Counters) : Counters := { c with attemptsFailed := c.attemptsFailed + 1 }

def hardFailure (c : Counters) : Counters := { c with hardFailures := c.hardFailures + 1 }

def missing (c : Counters) : Counters := { c with missingRecords := c.missingRecords + 1 }

def emitted (c : Counters) (type : String) (count : Nat) : Counters :=
  { c with fieldsEmitted := addTo type count c.fieldsEmitted }

def skipped (c : Counters) : Counters := { c with fieldsSkipped := c.fieldsSkipped + 1 }

end Counters

end SearchRetrieve
