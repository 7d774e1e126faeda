import SearchRetrieve.Schema.Settings
import SearchRetrieve.Text.Blank

/-!
# Settings from properties

One assignment a line, `key = value` or `key: value`. Blank lines and lines that begin with `#` or
`!` say nothing. A later assignment replaces an earlier one.
-/
namespace SearchRetrieve

abbrev Properties := List (String × String)

namespace Properties

/-- The key and the value of a line that is neither blank nor a comment. -/
def ofLine? (line : List Char) : Option (String × String) :=
  match Text.trimChars line with
  | [] => none
  | c :: rest =>
    if c = '#' ∨ c = '!' then none
    else
      let (key, value) := Text.cut (fun c => c == '=' || c == ':') (c :: rest)
      some (String.ofList (Text.trimChars key), String.ofList (Text.trimChars (value.getD [])))

def ofText (text : String) : Properties := (text.toList.splitOn '\n').filterMap ofLine?

def get? (p : Properties) (key : String) : Option String :=
  (p.reverse.find? (·.1 == key)).map (·.2)

def withoutComma (word : List Char) : List Char :=
  match word.reverse with
  | ',' :: rest => rest.reverse
  | _ => word

/-- The names in a list that is separated by white space, or by commas and white space. -/
def names (value : String) : List String :=
  (((Text.wordsChars value.toList).map withoutComma).filter fun word => !word.isEmpty).map
    String.ofList

def synonymKey : List Char := "indexSynonym.".toList

def aliasOf? (key : String) : Option String :=
  if synonymKey.isPrefixOf key.toList then
    some (String.ofList (key.toList.drop synonymKey.length))
  else none

def assignSynonym (s : Synonyms) (assignment : String × String) : Synonyms :=
  match aliasOf? assignment.1 with
  | some name => s.assign name (names assignment.2)
  | none => s

def suffixes (p : Properties) : Suffixes where
  exact := (p.get? "exactSuffix").map Text.trim
  present := (p.get? "isSetSuffix").map Text.trim
  sort := (p.get? "sortSuffix").map Text.trim
  stemmed := (p.get? "stemmedSuffix").map Text.trim
  facet := (p.get? "facetSuffix").map Text.trim
  stored := (p.get? "storedSuffix").map Text.trim

/-- The settings that properties make; without a key for it a variant is disabled. -/
def settings (p : Properties) : SchemaSettings where
  suffixes := p.suffixes
  fields := ((p.get? "fields").map names).getD []
  synonyms := p.foldl assignSynonym .empty
  anywhereAliases := SchemaSettings.standardAnywhereAliases

end Properties

end SearchRetrieve
