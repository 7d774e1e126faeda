import SearchRetrieve.Stem.Dutch
import SearchRetrieve.Stem.English
import SearchRetrieve.Stem.French
import SearchRetrieve.Stem.German
import SearchRetrieve.Stem.Italian
import SearchRetrieve.Stem.Portuguese
import SearchRetrieve.Stem.Russian
import SearchRetrieve.Stem.Spanish
import SearchRetrieve.Stem.Swedish
import SearchRetrieve.StopWords

/-!
# Languages

The languages with a stemmer and a list of stop words.
-/
namespace SearchRetrieve

inductive Language where
  | english
  | french
  | german
  | spanish
  | italian
  | portuguese
  | dutch
  | swedish
  | russian
  deriving DecidableEq, Repr

namespace Language

/-- The language of an English name or a two-letter code, in any case of its letters. -/
def ofName? (name : String) : Option Language :=
  match Text.asciiLower name with
  | "english" | "en" => some english
  | "french" | "fr" => some french
  | "german" | "de" => some german
  | "spanish" | "es" => some spanish
  | "italian" | "it" => some italian
  | "portuguese" | "pt" => some portuguese
  | "dutch" | "nl" => some dutch
  | "swedish" | "sv" => some swedish
  | "russian" | "ru" => some russian
  | _ => none

def stem : Language → String → String
  | english => Stem.English.stem
  | french => Stem.French.stem
  | german => Stem.German.stem
  | spanish => Stem.Spanish.stem
  | italian => Stem.Italian.stem
  | portuguese => Stem.Portuguese.stem
  | dutch => Stem.Dutch.stem
  | swedish => Stem.Swedish.stem
  | russian => Stem.Russian.stem

def stopWords : Language → StopWords.WordSet
  | english => StopWords.english
  | french => StopWords.french
  | german => StopWords.german
  | spanish => StopWords.spanish
  | italian => StopWords.italian
  | portuguese => StopWords.portuguese
  | dutch => StopWords.dutch
  | swedish => StopWords.swedish
  | russian => StopWords.russian

end Language

end SearchRetrieve
