import SearchRetrieve.Stem.Endings

/-!
# Dutch stems

The Snowball stemmer for Dutch that removes endings. Accents other than a grave one go first, and
vowel letters that are consonants are written as capitals while the rules run.
-/
namespace SearchRetrieve.Stem.Dutch

def isVowel : Char → Bool := isOneOf "aeiouyè"

def plain (c : Char) : Char :=
  match c with
  | 'ä' | 'á' => 'a'
  | 'ë' | 'é' => 'e'
  | 'ï' | 'í' => 'i'
  | 'ö' | 'ó' => 'o'
  | 'ü' | 'ú' => 'u'
  | c => c

/-- Without accents, and with consonants written as capitals. -/
def prepared (word : List Char) : List Char :=
  let consonant (previous c : Char) (rest : List Char) : Char :=
    if isVowel previous then
      if c = 'y' then 'Y' else if c = 'i' && startsWith isVowel rest then 'I' else c
    else c
  match word.map plain with
  | [] => []
  | c :: rest =>
    let c := if c = 'y' then 'Y' else c
    c :: replaceFrom consonant c rest

/-- How many letters fill the first `size` bytes of a word in UTF-8. -/
def lettersFilling (size : Nat) : List Char → Nat
  | [] => 0
  | c :: rest => if size = 0 then 0 else lettersFilling (size - c.utf8Size) rest + 1

/-- The regions; the first begins after three bytes at the soonest. -/
def regionsOf (letters : List Char) : Regions :=
  let r := regions isVowel letters
  if (pastSyllable isVowel letters).isSome then
    ⟨max r.first (lettersFilling 3 letters), r.second⟩
  else r

def undoubled (word : List Char) : List Char :=
  if ["kk", "dd", "tt"].any fun e => (before? word e).isSome then word.drop 1 else word

def finalE (r : Regions) : Act (List Char) := fun word =>
  (ending "e" (inside r.first (after (fun c => !isVowel c) delete)) word).map undoubled

def endingEn (r : Regions) : Act (List Char) := fun rest =>
  if (before? rest "gem").isSome then none
  else (inside r.first (after (fun c => !isVowel c) delete) rest).map undoubled

def plurals (r : Regions) : List (Rule (List Char)) :=
  [⟨["heden"], inside r.first (replace "heid")⟩,
    ⟨["en", "ene"], endingEn r⟩,
    ⟨["s", "se"], inside r.first (after (fun c => !isVowel c && c != 'j') delete)⟩]

def endingHeid (r : Regions) : Act (List Char) :=
  ending "heid" (inside r.second (notAfter 'c' (thenPerhaps delete (ending "en" (endingEn r)))))

/-- Derivations; `-bar` goes only if an `e` went before. -/
def derivations (r : Regions) (lostE : Bool) : List (Rule (List Char)) :=
  [⟨["end", "ing"], inside r.second fun rest =>
      some ((ending "ig" (inside r.second (notAfter 'e' delete)) rest).getD (undoubled rest))⟩,
    ⟨["ig"], inside r.second (notAfter 'e' delete)⟩,
    ⟨["lijk"], inside r.second (thenPerhaps delete (finalE r))⟩,
    ⟨["baar"], inside r.second delete⟩,
    ⟨["bar"], inside r.second fun rest => if lostE then some rest else none⟩]

/-- A long vowel before a last consonant is written short. -/
def shortened : List Char → List Char
  | c :: v :: w :: b :: rest =>
    if !isVowel c && c != 'I' && v == w && isOneOf "aeou" v && !isVowel b then c :: w :: b :: rest
    else c :: v :: w :: b :: rest
  | word => word

def small (c : Char) : Char := if c = 'Y' then 'y' else if c = 'I' then 'i' else c

def stem (word : String) : String :=
  let letters := prepared word.toList
  let r := regionsOf letters
  let word := optionally (applyLongest 0 (plurals r)) letters.reverse
  let (word, lostE) :=
    match finalE r word with
    | some shorter => (shorter, true)
    | none => (word, false)
  let word := optionally (endingHeid r) word
  let word := optionally (applyLongest 0 (derivations r lostE)) word
  String.ofList ((shortened word).reverse.map small)

end SearchRetrieve.Stem.Dutch
