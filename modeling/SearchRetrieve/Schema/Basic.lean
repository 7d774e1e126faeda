import SearchRetrieve.Notice
import SearchRetrieve.Schema.Settings
import SearchRetrieve.Text.LetterCase

/-!
# Schemas

A schema names the variants of fields and resolves the index of a clause to fields: by a synonym,
as an anywhere alias, or to itself.
-/
namespace SearchRetrieve

structure Schema where
  /-- The suffixes in use. -/
  suffixes : SuffixTable
  /-- Lower case anywhere aliases. -/
  anywhereAliases : List String
  /-- The fields that an anywhere alias stands for. -/
  anywhereFields : List String
  /-- Lower case aliases and their fields, an entry that counts before those it replaces. -/
  synonyms : List (String × List String)
  deriving DecidableEq, Repr

namespace Schema

def suffix? (s : Schema) (v : Variant) : Option String := s.suffixes.suffix? v

def variant? (s : Schema) (name : String) : Option Variant := s.suffixes.variant? name

def base (s : Schema) (name : String) : String := s.suffixes.base name

def variantName (s : Schema) (name : String) (v : Variant) : String := s.suffixes.rename v name

/-- A synonym in lower case, its fields without repetitions; without fields it says nothing. -/
def synonymOf? (entry : String × List String) : Option (String × List String) :=
  if entry.2.isEmpty then none else some (Text.lower entry.1, entry.2.eraseDups)

/-- A schema that knows all but the fields of an anywhere alias. -/
def withoutFields (settings : SchemaSettings) : Schema where
  suffixes := .ofSuffixes settings.suffixes
  anywhereAliases := settings.anywhereAliases.map Text.lower
  anywhereFields := []
  synonyms := (settings.synonyms.entries.filterMap synonymOf?).reverse

def baseNames (table : SuffixTable) (names : List String) : List String :=
  (names.filter fun name => (table.variant? name).isNone).eraseDups

def ofSettings (settings : SchemaSettings) : Schema :=
  let s := withoutFields settings
  { s with anywhereFields := baseNames s.suffixes settings.fields }

def insertName (name : String) : List String → List String
  | [] => [name]
  | first :: rest =>
    if name < first then name :: first :: rest
    else if name = first then first :: rest
    else first :: insertName name rest

def sortedNames (names : List String) : List String := names.foldr insertName []

/-- The schema of some settings over the names found in an index: anywhere is all of those names
that carry no suffix. -/
def discover (settings : SchemaSettings) (catalogue : List String) : Schema :=
  let s := withoutFields settings
  { s with anywhereFields := sortedNames (baseNames s.suffixes catalogue) }

def isAnywhereAlias (s : Schema) (index : String) : Bool :=
  s.anywhereAliases.contains (Text.lower index)

/-- The fields that an index stands for, never none. -/
def resolve (s : Schema) (index : String) : List String :=
  match s.synonyms.lookup (Text.lower index) with
  | some fields => fields
  | none =>
    if s.isAnywhereAlias index && !s.anywhereFields.isEmpty then s.anywhereFields else [index]

/-- Do two suffixes end alike, so that one name may carry both? -/
def overlap (a b : String) : Bool := SuffixTable.endsWith a b || SuffixTable.endsWith b a

def suffixNotices (suffixes : Suffixes) (table : SuffixTable) (v : Variant) : List Notice :=
  match suffixes.get v with
  | none => []
  | some suffix =>
    if suffix = "" then [.emptySuffix v]
    else
      match table.find? (·.2 == suffix) with
      | some (owner, _) => [.takenSuffix v suffix owner]
      | none =>
        (table.filter fun entry => overlap entry.2 suffix).map fun entry =>
          .overlappingSuffix v entry.1

def allSuffixNotices (suffixes : Suffixes) : List Variant → SuffixTable → List Notice
  | [], _ => []
  | v :: rest, table =>
    suffixNotices suffixes table v ++ allSuffixNotices suffixes rest (table.take suffixes v)

def noticesWithoutFields (settings : SchemaSettings) : List Notice :=
  allSuffixNotices settings.suffixes Variant.all [] ++
    (settings.synonyms.entries.filter (·.2.isEmpty)).map fun entry => .emptySynonym entry.1

def notices (settings : SchemaSettings) : List Notice :=
  let table := SuffixTable.ofSuffixes settings.suffixes
  noticesWithoutFields settings ++
    (settings.fields.filter fun field => (table.variant? field).isSome).map .variantField

end Schema

end SearchRetrieve
