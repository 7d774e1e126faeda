import SearchRetrieve.Stem.Endings

/-!
# English stems

The Snowball stemmer for English. A `y` that is a consonant is written `Y` while the rules run.
-/
namespace SearchRetrieve.Stem.English

def isVowel : Char → Bool := isOneOf "aeiouy"

def exceptions : List (String × String) :=
  [("skis", "ski"), ("skies", "sky"), ("dying", "die"), ("lying", "lie"), ("tying", "tie"),
    ("idly", "idl"), ("gently", "gentl"), ("ugly", "ugli"), ("early", "earli"), ("only", "onli"),
    ("singly", "singl"), ("sky", "sky"), ("news", "news"), ("howe", "howe"), ("atlas", "atlas"),
    ("cosmos", "cosmos"), ("bias", "bias"), ("andes", "andes")]

/-- Words that are stems once a plural ending is off. -/
def invariants : List String :=
  ["inning", "outing", "canning", "herring", "earring", "proceed", "exceed", "succeed"]

def withoutApostrophe : List Char → List Char
  | '\'' :: rest => rest
  | word => word

def prepared (word : List Char) : List Char :=
  let consonant (previous c : Char) (_ : List Char) : Char :=
    if c = 'y' && isVowel previous then 'Y' else c
  match word with
  | 'y' :: rest => 'Y' :: replaceFrom consonant 'Y' rest
  | c :: rest => c :: replaceFrom consonant c rest
  | [] => []

/-- The regions; a few beginnings end the first syllable sooner than the rule would. -/
def regionsOf (letters : List Char) : Regions :=
  match ["gener", "commun", "arsen"].find? fun s => s.toList.isPrefixOf letters with
  | some s =>
    let first := s.toList.length
    ⟨first, mark letters.length (pastSyllable isVowel (letters.drop first))⟩
  | none => regions isVowel letters

def endsShort : List Char → Bool
  | c :: v :: b :: _ => !isOneOf "aeiouywxY" c && isVowel v && !isVowel b
  | [c, v] => !isVowel c && isVowel v
  | _ => false

def possessives : List (Rule (List Char)) := [⟨["'", "'s", "'s'"], delete⟩]

def plurals : List (Rule (List Char)) :=
  [⟨["sses"], replace "ss"⟩,
    ⟨["ied", "ies"], fun rest => if 2 ≤ rest.length then replace "i" rest else replace "ie" rest⟩,
    ⟨["s"], fun rest => if (rest.drop 1).any isVowel then some rest else none⟩,
    ⟨["us", "ss"], fun _ => none⟩]

/-- What a verb becomes when its ending is off: an `e` comes back, or a double letter goes. -/
def mended (r : Regions) : List Char → List Char :=
  optionally <| applyLongest 0 <|
    [⟨["at"], replace "ate"⟩, ⟨["bl"], replace "ble"⟩, ⟨["iz"], replace "ize"⟩,
      ⟨[""], fun word =>
        if word.length = r.first && endsShort word then some ('e' :: word) else none⟩]
    ++ "bdfgmnprt".toList.map fun c => ⟨[String.ofList [c, c]], replace (String.ofList [c])⟩

def verbEndings (r : Regions) : List (Rule (List Char)) :=
  [⟨["eed", "eedly"], inside r.first (replace "ee")⟩,
    ⟨["ed", "edly", "ing", "ingly"],
      fun rest => if rest.any isVowel then some (mended r rest) else none⟩]

/-- A final `y` after a consonant that does not begin the word becomes an `i`. -/
def finalY : Act (List Char) := fun word =>
  match word with
  | y :: c :: b :: rest =>
    if (y = 'y' || y = 'Y') && !isVowel c then some ('i' :: c :: b :: rest) else none
  | _ => none

def derivations (r : Regions) : List (Rule (List Char)) :=
  [⟨["tional"], inside r.first (replace "tion")⟩,
    ⟨["enci"], inside r.first (replace "ence")⟩,
    ⟨["anci"], inside r.first (replace "ance")⟩,
    ⟨["abli"], inside r.first (replace "able")⟩,
    ⟨["entli"], inside r.first (replace "ent")⟩,
    ⟨["izer", "ization"], inside r.first (replace "ize")⟩,
    ⟨["ational", "ation", "ator"], inside r.first (replace "ate")⟩,
    ⟨["alism", "aliti", "alli"], inside r.first (replace "al")⟩,
    ⟨["fulness"], inside r.first (replace "ful")⟩,
    ⟨["ousli", "ousness"], inside r.first (replace "ous")⟩,
    ⟨["iveness", "iviti"], inside r.first (replace "ive")⟩,
    ⟨["biliti", "bli"], inside r.first (replace "ble")⟩,
    ⟨["ogi"], inside r.first (after (· == 'l') (replace "og"))⟩,
    ⟨["fulli"], inside r.first (replace "ful")⟩,
    ⟨["lessli"], inside r.first (replace "less")⟩,
    ⟨["li"], inside r.first (after (isOneOf "cdeghkmnrt") delete)⟩]

def adjectives (r : Regions) : List (Rule (List Char)) :=
  [⟨["tional"], inside r.first (replace "tion")⟩,
    ⟨["ational"], inside r.first (replace "ate")⟩,
    ⟨["alize"], inside r.first (replace "al")⟩,
    ⟨["icate", "iciti", "ical"], inside r.first (replace "ic")⟩,
    ⟨["ful", "ness"], inside r.first delete⟩,
    ⟨["ative"], inside r.first (inside r.second delete)⟩]

def nouns (r : Regions) : List (Rule (List Char)) :=
  [⟨["al", "ance", "ence", "er", "ic", "able", "ible", "ant", "ement", "ment", "ent", "ism", "ate",
      "iti", "ous", "ive", "ize"], inside r.second delete⟩,
    ⟨["ion"], inside r.second (after (isOneOf "st") delete)⟩]

def finalLetters (r : Regions) : List (Rule (List Char)) :=
  [⟨["e"], fun rest =>
      if r.second ≤ rest.length || (r.first ≤ rest.length && !endsShort rest) then some rest
      else none⟩,
    ⟨["l"], inside r.second (after (· == 'l') delete)⟩]

def reduced (r : Regions) (word : List Char) : List Char :=
  let word := optionally (applyLongest 0 possessives) word
  let word := optionally (applyLongest 0 plurals) word
  if invariants.contains (String.ofList word.reverse) then word
  else
    let word := optionally (applyLongest 0 (verbEndings r)) word
    let word := optionally finalY word
    let word := optionally (applyLongest 0 (derivations r)) word
    let word := optionally (applyLongest 0 (adjectives r)) word
    let word := optionally (applyLongest 0 (nouns r)) word
    optionally (applyLongest 0 (finalLetters r)) word

def stem (word : String) : String :=
  match exceptions.lookup word with
  | some stem => stem
  | none =>
    if word.length < 3 then word
    else
      let plain := withoutApostrophe word.toList
      let letters := prepared plain
      let found := (reduced (regionsOf letters) letters.reverse).reverse
      String.ofList (if letters = plain then found
        else found.map fun c => if c = 'Y' then 'y' else c)

end SearchRetrieve.Stem.English
