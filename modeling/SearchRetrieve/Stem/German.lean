import SearchRetrieve.Stem.Endings

/-!
# German stems

The Snowball stemmer for German. A `u` or `y` between vowels is written as a capital while the
rules run, and umlauts lose their dots in the end.
-/
namespace SearchRetrieve.Stem.German

def isVowel : Char → Bool := isOneOf "aeiouyäöü"

/-- With a double s for a sharp one, and with consonants written as capitals. -/
def prepared (word : List Char) : List Char :=
  let consonant (previous c : Char) (rest : List Char) : Char :=
    if isVowel previous && startsWith isVowel rest then
      if c = 'u' then 'U' else if c = 'y' then 'Y' else c
    else c
  match word.flatMap fun c => if c = 'ß' then ['s', 's'] else [c] with
  | [] => []
  | c :: rest => c :: replaceFrom consonant c rest

/-- The regions; the first begins after three letters at the soonest. -/
def regionsOf (letters : List Char) : Regions :=
  if letters.length < 3 then ⟨letters.length, letters.length⟩
  else
    let r := regions isVowel letters
    ⟨if (pastSyllable isVowel letters).isSome then max 3 r.first else r.first, r.second⟩

def inflections (r : Regions) : List (Rule (List Char)) :=
  [⟨["em", "ern", "er"], inside r.first delete⟩,
    ⟨["e", "en", "es"], inside r.first (thenPerhaps delete (ending "niss" (replace "nis")))⟩,
    ⟨["s"], inside r.first (after (isOneOf "bdfghklmnrt") delete)⟩]

def comparisons (r : Regions) : List (Rule (List Char)) :=
  [⟨["en", "er", "est"], inside r.first delete⟩,
    ⟨["st"], inside r.first (after (isOneOf "bdfghklmnt") fun rest =>
      if 4 ≤ rest.length then some rest else none)⟩]

def derivations (r : Regions) : List (Rule (List Char)) :=
  [⟨["end", "ung"],
      inside r.second (thenPerhaps delete (ending "ig" (notAfter 'e' (inside r.second delete))))⟩,
    ⟨["ig", "ik", "isch"], inside r.second (notAfter 'e' delete)⟩,
    ⟨["lich", "heit"],
      inside r.second (thenPerhaps delete
        (orElse (ending "er" (inside r.first delete)) (ending "en" (inside r.first delete))))⟩,
    ⟨["keit"],
      inside r.second (thenPerhaps delete
        (applyLongest 0 [⟨["lich", "ig"], inside r.second delete⟩]))⟩]

def plain (c : Char) : Char :=
  match c with
  | 'Y' => 'y'
  | 'U' => 'u'
  | 'ä' => 'a'
  | 'ö' => 'o'
  | 'ü' => 'u'
  | c => c

def stem (word : String) : String :=
  let letters := prepared word.toList
  let r := regionsOf letters
  let word := optionally (applyLongest 0 (inflections r)) letters.reverse
  let word := optionally (applyLongest 0 (comparisons r)) word
  let word := optionally (applyLongest 0 (derivations r)) word
  String.ofList (word.reverse.map plain)

end SearchRetrieve.Stem.German
