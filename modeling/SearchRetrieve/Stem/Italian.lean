import SearchRetrieve.Stem.Endings

/-!
# Italian stems

The Snowball stemmer for Italian. Acute accents are read as grave ones, and vowel letters that are
consonants are written as capitals while the rules run.
-/
namespace SearchRetrieve.Stem.Italian

def isVowel : Char → Bool := isOneOf "aeiouàèìòù"

def grave (c : Char) : Char :=
  match c with
  | 'á' => 'à'
  | 'é' => 'è'
  | 'í' => 'ì'
  | 'ó' => 'ò'
  | 'ú' => 'ù'
  | c => c

def prepared (word : List Char) : List Char :=
  let afterQ (previous c : Char) (_ : List Char) : Char :=
    if previous = 'q' && c = 'u' then 'U' else c
  let consonant (previous c : Char) (rest : List Char) : Char :=
    if isVowel previous && startsWith isVowel rest then
      if c = 'u' then 'U' else if c = 'i' then 'I' else c
    else c
  let replaced (f : Char → Char → List Char → Char) : List Char → List Char
    | [] => []
    | c :: rest => c :: replaceFrom f c rest
  replaced consonant (replaced afterQ (word.map grave))

def pronouns : List String :=
  ["ci", "gli", "la", "le", "li", "lo", "mi", "ne", "si", "ti", "vi", "sene", "gliela", "gliele",
    "glieli", "glielo", "gliene", "mela", "mele", "meli", "melo", "mene", "tela", "tele", "teli",
    "telo", "tene", "cela", "cele", "celi", "celo", "cene", "vela", "vele", "veli", "velo", "vene"]

/-- The forms of a verb that a pronoun is attached to; an infinitive gets its last vowel back. -/
def verbForms (v : Nat) : List (Rule (List Char)) :=
  [⟨["ando"], inside v (replace "ando")⟩,
    ⟨["endo"], inside v (replace "endo")⟩,
    ⟨["ar"], inside v (replace "are")⟩,
    ⟨["er"], inside v (replace "ere")⟩,
    ⟨["ir"], inside v (replace "ire")⟩]

def attachedPronoun (v : Nat) : Act (List Char) :=
  applyLongest 0 [⟨pronouns, applyLongest 0 (verbForms v)⟩]

def standardRules (v : Nat) (r : Regions) : List (Rule (List Char)) :=
  [⟨["anza", "anze", "ico", "ici", "ica", "ice", "iche", "ichi", "ismo", "ismi", "abile", "abili",
      "ibile", "ibili", "ista", "iste", "isti", "istà", "istè", "istì", "oso", "osi", "osa", "ose",
      "mente", "atrice", "atrici", "ante", "anti"], inside r.second delete⟩,
    ⟨["azione", "azioni", "atore", "atori"],
      inside r.second (thenPerhaps delete (ending "ic" (inside r.second delete)))⟩,
    ⟨["logia", "logie"], inside r.second (replace "log")⟩,
    ⟨["uzione", "uzioni", "usione", "usioni"], inside r.second (replace "u")⟩,
    ⟨["enza", "enze"], inside r.second (replace "ente")⟩,
    ⟨["amento", "amenti", "imento", "imenti"], inside v delete⟩,
    ⟨["amente"], inside r.first (thenPerhaps delete (beforeAmente ["os", "ic", "abil"] r))⟩,
    ⟨["ità"], inside r.second (thenPerhaps delete
      (applyLongest 0 [⟨["abil", "ic", "iv"], inside r.second delete⟩]))⟩,
    ⟨["ivo", "ivi", "iva", "ive"], inside r.second (thenPerhaps delete
      (ending "at" (thenPerhaps (inside r.second delete)
        (ending "ic" (inside r.second delete)))))⟩]

def verbs : List (Rule (List Char)) :=
  [⟨["ammo", "ando", "ano", "are", "arono", "asse", "assero", "assi", "assimo", "ata", "ate", "ati",
      "ato", "ava", "avamo", "avano", "avate", "avi", "avo", "emmo", "enda", "ende", "endi", "endo",
      "erà", "erai", "eranno", "ere", "erebbe", "erebbero", "erei", "eremmo", "eremo", "ereste",
      "eresti", "erete", "erò", "erono", "essero", "ete", "eva", "evamo", "evano", "evate", "evi",
      "evo", "Yamo", "iamo", "immo", "irà", "irai", "iranno", "ire", "irebbe", "irebbero", "irei",
      "iremmo", "iremo", "ireste", "iresti", "irete", "irò", "irono", "isca", "iscano", "isce",
      "isci", "isco", "iscono", "issero", "ita", "ite", "iti", "ito", "iva", "ivamo", "ivano",
      "ivate", "ivi", "ivo", "ono", "uta", "ute", "uti", "uto", "ar", "ir"], delete⟩]

def lastVowel (v : Nat) : Act (List Char) := fun word =>
  match word with
  | c :: rest =>
    if isOneOf "aeioàèìò" c && v ≤ rest.length then
      some (optionally (ending "i" (inside v delete)) rest)
    else none
  | [] => none

/-- An `h` that is written only to keep a `c` or a `g` hard. -/
def mutedH (v : Nat) : Act (List Char) := ending "h" (afterInside v (isOneOf "cg") delete)

def small (c : Char) : Char := if c = 'I' then 'i' else if c = 'U' then 'u' else c

def stem (word : String) : String :=
  let letters := prepared word.toList
  let v := verbRegion isVowel letters
  let r := regions isVowel letters
  let word := optionally (attachedPronoun v) letters.reverse
  let word := optionally (orElse (applyLongest 0 (standardRules v r)) (applyLongest v verbs)) word
  let word := optionally (mutedH v) (optionally (lastVowel v) word)
  String.ofList (word.reverse.map small)

end SearchRetrieve.Stem.Italian
