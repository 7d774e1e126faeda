import SearchRetrieve.Json.Reader
import SearchRetrieve.Schema.Properties

/-!
# Settings from JSON

Settings and suffixes are written as objects or as lists of their values in order. What is left
out takes its default, what is unknown is skipped, and a known name must not come twice. Inside an
object of suffixes what is left out is disabled.
-/
namespace SearchRetrieve

namespace SchemaSettings

def once? (name : String) (members : List (String × Json)) : Option (Option Json) :=
  match members.filter (·.1 == name) with
  | [] => some none
  | [m] => some (some m.2)
  | _ => none

def suffix? : Option Json → Option (Option String)
  | none => some none
  | some .null => some none
  | some (.text s) => some (some s)
  | some _ => none

/-- The values of named fields, from an object or from a list; a list may end early. -/
def fieldsOf? (names : List String) : Json → Option (List (Option Json))
  | .object members => names.mapM (once? · members)
  | .list items =>
    if items.length ≤ names.length then
      some ((List.range names.length).map fun i => items[i]?)
    else none
  | _ => none

def suffixesOf? (j : Json) : Option Suffixes := do
  let fields ← fieldsOf? (Variant.all.map Variant.name) j
  match ← fields.mapM suffix? with
  | [exact, present, sort, stemmed, facet, stored] =>
    return ⟨exact, present, sort, stemmed, facet, stored⟩
  | _ => none

/-- An object of lists of texts; the last of a repeated alias counts. -/
def synonymsOf? : Json → Option Synonyms
  | .object members => do
    let entries ← members.mapM fun m : String × Json =>
      m.2.texts?.map fun fields => (m.1, fields)
    return entries.foldl (fun s entry => s.assign entry.1 entry.2) .empty
  | _ => none

def orElse? {α : Type} (default : α) (read : Json → Option α) : Option Json → Option α
  | none => some default
  | some j => read j

def ofJson? (j : Json) : Option SchemaSettings := do
  match ← fieldsOf? ["suffixes", "fields", "synonyms", "anywhere_aliases"] j with
  | [suffixes, fields, synonyms, aliases] =>
    return {
      suffixes := ← orElse? .standard suffixesOf? suffixes
      fields := ← orElse? [] Json.texts? fields
      synonyms := ← orElse? .empty synonymsOf? synonyms
      anywhereAliases := ← orElse? standardAnywhereAliases Json.texts? aliases }
  | _ => none

def ofJsonText? (text : String) : Option SchemaSettings := Json.ofText? text >>= ofJson?

/-- Settings from a text: JSON if it begins with a brace, properties otherwise. -/
def ofText? (text : String) : Option SchemaSettings :=
  let trimmed := Text.trimStartChars text.toList
  if trimmed.head? = some '\x7b' then ofJsonText? (String.ofList trimmed)
  else some (Properties.ofText text).settings

/-- The part of a file name after its last dot, if something is in front of the dot; directories
are no part of the name. -/
def extension? (file : String) : Option String :=
  let name := (Text.cut (· == '/') file.toList.reverse).1
  match Text.cut (· == '.') name with
  | (ending, some (_ :: _)) => some (String.ofList ending.reverse)
  | _ => none

def ofFile? (file text : String) : Option SchemaSettings :=
  match extension? file with
  | some ending => if Text.sameIgnoringCase ending "json" then ofJsonText? text
    else some (Properties.ofText text).settings
  | none => some (Properties.ofText text).settings

end SchemaSettings

end SearchRetrieve
