import SearchRetrieve.Stem.Endings

/-!
# Swedish stems

The Snowball stemmer for Swedish.
-/
namespace SearchRetrieve.Stem.Swedish

def isVowel : Char → Bool := isOneOf "aeiouyäåö"

/-- Where the region for endings begins: after the first vowel that a consonant follows, and after
three letters at the soonest. -/
def start (letters : List Char) : Nat :=
  if letters.length < 3 then letters.length
  else
    match pastSyllable isVowel letters with
    | some rest => max 3 (letters.length - rest.length)
    | none => letters.length

def inflections : List (Rule (List Char)) :=
  [⟨["a", "arna", "erna", "heterna", "orna", "ad", "e", "ade", "ande", "arne", "are", "aste", "en",
      "anden", "aren", "heten", "ern", "ar", "er", "heter", "or", "as", "arnas", "ernas", "ornas",
      "es", "ades", "andes", "ens", "arens", "hetens", "erns", "at", "andet", "het", "ast"],
      delete⟩,
    ⟨["s"], after (isOneOf "bcdfghjklmnoprtvy") delete⟩]

/-- The second of two final consonants. -/
def consonantPair (p : Nat) : Act (List Char) :=
  applyLongest p [⟨["dd", "gd", "nn", "dt", "gt", "kt", "tt"], delete⟩]

def derivations : List (Rule (List Char)) :=
  [⟨["lig", "ig", "els"], delete⟩, ⟨["löst"], replace "lös"⟩, ⟨["fullt"], replace "full"⟩]

def stem (word : String) : String :=
  let letters := word.toList
  let p := start letters
  let word := optionally (applyLongest p inflections) letters.reverse
  let word := if (consonantPair p word).isSome then word.drop 1 else word
  let word := optionally (applyLongest p derivations) word
  String.ofList word.reverse

end SearchRetrieve.Stem.Swedish
