import SearchRetrieve.Stem.Endings

/-!
# Spanish stems

The Snowball stemmer for Spanish. Accents on vowels go in the end.
-/
namespace SearchRetrieve.Stem.Spanish

def isVowel : Char → Bool := isOneOf "aeiouáéíóúü"

def pronouns : List String :=
  ["me", "se", "sela", "selo", "selas", "selos", "la", "le", "lo", "las", "les", "los", "nos"]

/-- The forms of a verb that a pronoun is attached to, written without the accent that comes with
the pronoun. -/
def verbForms (v : Nat) : List (Rule (List Char)) :=
  [⟨["iéndo"], inside v (replace "iendo")⟩,
    ⟨["ándo"], inside v (replace "ando")⟩,
    ⟨["ár"], inside v (replace "ar")⟩,
    ⟨["ér"], inside v (replace "er")⟩,
    ⟨["ír"], inside v (replace "ir")⟩,
    ⟨["ando"], inside v (replace "ando")⟩,
    ⟨["iendo"], inside v (replace "iendo")⟩,
    ⟨["ar"], inside v (replace "ar")⟩,
    ⟨["er"], inside v (replace "er")⟩,
    ⟨["ir"], inside v (replace "ir")⟩,
    ⟨["yendo"], inside v (after (· == 'u') (replace "yendo"))⟩]

def attachedPronoun (v : Nat) : Act (List Char) :=
  applyLongest 0 [⟨pronouns, applyLongest 0 (verbForms v)⟩]

def standardRules (r : Regions) : List (Rule (List Char)) :=
  [⟨["anza", "anzas", "ico", "ica", "icos", "icas", "ismo", "ismos", "able", "ables", "ible",
      "ibles", "ista", "istas", "oso", "osa", "osos", "osas", "amiento", "amientos", "imiento",
      "imientos"], inside r.second delete⟩,
    ⟨["adora", "ador", "ación", "adoras", "adores", "aciones", "ante", "antes", "ancia", "ancias"],
      inside r.second (thenPerhaps delete (ending "ic" (inside r.second delete)))⟩,
    ⟨["logía", "logías"], inside r.second (replace "log")⟩,
    ⟨["ución", "uciones"], inside r.second (replace "u")⟩,
    ⟨["encia", "encias"], inside r.second (replace "ente")⟩,
    ⟨["amente"], inside r.first (thenPerhaps delete (beforeAmente ["os", "ic", "ad"] r))⟩,
    ⟨["mente"], inside r.second (thenPerhaps delete
      (applyLongest 0 [⟨["ante", "able", "ible"], inside r.second delete⟩]))⟩,
    ⟨["idad", "idades"], inside r.second (thenPerhaps delete
      (applyLongest 0 [⟨["abil", "ic", "iv"], inside r.second delete⟩]))⟩,
    ⟨["iva", "ivo", "ivas", "ivos"],
      inside r.second (thenPerhaps delete (ending "at" (inside r.second delete)))⟩]

def verbsInY : List (Rule (List Char)) :=
  [⟨["ya", "ye", "yan", "yen", "yeron", "yendo", "yo", "yó", "yas", "yes", "yais", "yamos"],
    after (· == 'u') delete⟩]

/-- A `u` that is written only to keep a `g` hard. -/
def mutedU : Act (List Char) := fun word =>
  match word with
  | 'u' :: 'g' :: rest => some ('g' :: rest)
  | _ => none

def verbs : List (Rule (List Char)) :=
  [⟨["en", "es", "éis", "emos"], thenPerhaps delete mutedU⟩,
    ⟨["arían", "arías", "arán", "arás", "aríais", "aría", "aréis", "aríamos", "aremos", "ará",
      "aré", "erían", "erías", "erán", "erás", "eríais", "ería", "eréis", "eríamos", "eremos",
      "erá", "eré", "irían", "irías", "irán", "irás", "iríais", "iría", "iréis", "iríamos",
      "iremos", "irá", "iré", "aba", "ada", "ida", "ía", "ara", "iera", "ad", "ed", "id", "ase",
      "iese", "aste", "iste", "an", "aban", "ían", "aran", "ieran", "asen", "iesen", "aron",
      "ieron", "ado", "ido", "ando", "iendo", "ió", "ar", "er", "ir", "as", "abas", "adas", "idas",
      "ías", "aras", "ieras", "ases", "ieses", "ís", "áis", "abais", "íais", "arais", "ierais",
      "aseis", "ieseis", "asteis", "isteis", "ados", "idos", "amos", "ábamos", "íamos", "imos",
      "áramos", "iéramos", "iésemos", "ásemos"], delete⟩]

def residual (v : Nat) : List (Rule (List Char)) :=
  [⟨["os", "a", "o", "á", "í", "ó"], inside v delete⟩,
    ⟨["e", "é"], inside v (thenPerhaps delete fun word =>
      (mutedU word).bind fun shorter => if v ≤ shorter.length then some shorter else none)⟩]

def plain (c : Char) : Char :=
  match c with
  | 'á' => 'a'
  | 'é' => 'e'
  | 'í' => 'i'
  | 'ó' => 'o'
  | 'ú' => 'u'
  | c => c

def stem (word : String) : String :=
  let letters := word.toList
  let v := verbRegion isVowel letters
  let r := regions isVowel letters
  let word := optionally (attachedPronoun v) letters.reverse
  let word := optionally (orElse (applyLongest 0 (standardRules r))
    (orElse (applyLongest v verbsInY) (applyLongest v verbs))) word
  let word := optionally (applyLongest 0 (residual v)) word
  String.ofList (word.reverse.map plain)

end SearchRetrieve.Stem.Spanish
