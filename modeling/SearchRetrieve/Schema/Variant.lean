/-!
# Variants of a field

A logical field is stored under several physical names: its own and one for each representation,
marked by a suffix. A name is split at the longest suffix that leaves something in front.
-/
namespace SearchRetrieve

inductive Variant where
  /-- One term, for exact matches. -/
  | exact
  /-- `1` or `0`: whether the field has a value. -/
  | present
  /-- The normalised value, for sorting. -/
  | sort
  /-- Stemmed words. -/
  | stemmed
  /-- One stored term, for counting. -/
  | facet
  /-- The stored text, for highlighting. -/
  | stored
  deriving DecidableEq, Repr

namespace Variant

/-- All variants in the order in which suffixes are taken up. -/
def all : List Variant := [exact, present, sort, stemmed, facet, stored]

def name : Variant → String
  | exact => "exact"
  | present => "present"
  | sort => "sort"
  | stemmed => "stemmed"
  | facet => "facet"
  | stored => "stored"

def ofName? (name : String) : Option Variant := all.find? (·.name == name)

end Variant

/-- The suffixes that a deployment asks for; a variant without a suffix is disabled. -/
structure Suffixes where
  exact : Option String
  present : Option String
  sort : Option String
  stemmed : Option String
  facet : Option String
  stored : Option String
  deriving DecidableEq, Repr

namespace Suffixes

def standard : Suffixes :=
  ⟨some ".exact", some ".present", some ".sort", some ".stemmed", some ".facet", some ".stored"⟩

def none : Suffixes := ⟨.none, .none, .none, .none, .none, .none⟩

def get (s : Suffixes) : Variant → Option String
  | .exact => s.exact
  | .present => s.present
  | .sort => s.sort
  | .stemmed => s.stemmed
  | .facet => s.facet
  | .stored => s.stored

end Suffixes

abbrev SuffixTable := List (Variant × String)

namespace SuffixTable

/-- A suffix can be taken up if it is not empty and not in use yet. -/
def admits (table : SuffixTable) (suffix : String) : Bool :=
  suffix != "" && !table.any (·.2 == suffix)

def take (suffixes : Suffixes) (table : SuffixTable) (v : Variant) : SuffixTable :=
  match suffixes.get v with
  | some suffix => if table.admits suffix then table ++ [(v, suffix)] else table
  | none => table

def ofSuffixes (suffixes : Suffixes) : SuffixTable := Variant.all.foldl (take suffixes) []

def suffix? (table : SuffixTable) (v : Variant) : Option String :=
  (table.find? (·.1 == v)).map (·.2)

def endsWith (name suffix : String) : Bool := suffix.toList.isSuffixOf name.toList

/-- Does `name` end with `suffix` and have something in front of it? -/
def marks (suffix name : String) : Bool :=
  endsWith name suffix && suffix.toList.length < name.toList.length

/-- Of two entries the one with the longer suffix. -/
def longer (best : Option (Variant × String)) (entry : Variant × String) :
    Option (Variant × String) :=
  match best with
  | some b => if entry.2.toList.length < b.2.toList.length then some b else some entry
  | none => some entry

/-- The entry with the longest suffix that marks a name. -/
def matching? (table : SuffixTable) (name : String) : Option (Variant × String) :=
  (table.filter fun entry => marks entry.2 name).foldl longer none

def variant? (table : SuffixTable) (name : String) : Option Variant :=
  (table.matching? name).map (·.1)

def base (table : SuffixTable) (name : String) : String :=
  match table.matching? name with
  | some entry => String.ofList (name.toList.take (name.toList.length - entry.2.toList.length))
  | none => name

/-- The physical name of a variant of the field that `name` belongs to; a disabled variant has
the name of the field itself. -/
def rename (table : SuffixTable) (v : Variant) (name : String) : String :=
  table.base name ++ (table.suffix? v).getD ""

end SuffixTable

end SearchRetrieve
