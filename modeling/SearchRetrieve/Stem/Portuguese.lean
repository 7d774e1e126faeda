import SearchRetrieve.Stem.Endings

/-!
# Portuguese stems

The Snowball stemmer for Portuguese. A nasal vowel is written as two letters while the rules run.
-/
namespace SearchRetrieve.Stem.Portuguese

def isVowel : Char → Bool := isOneOf "aeiouáéíóúâêô"

/-- With nasal vowels as two letters. -/
def prepared (word : List Char) : List Char :=
  word.flatMap fun c => if c = 'ã' then ['a', '~'] else if c = 'õ' then ['o', '~'] else [c]

def joined : List Char → List Char
  | 'a' :: '~' :: rest => 'ã' :: joined rest
  | 'o' :: '~' :: rest => 'õ' :: joined rest
  | c :: rest => c :: joined rest
  | [] => []

def standardRules (v : Nat) (r : Regions) : List (Rule (List Char)) :=
  [⟨["eza", "ezas", "ico", "ica", "icos", "icas", "ismo", "ismos", "ável", "ível", "ista", "istas",
      "oso", "osa", "osos", "osas", "amento", "amentos", "imento", "imentos", "adora", "ador",
      "aça~o", "adoras", "adores", "aço~es", "ante", "antes", "ância"], inside r.second delete⟩,
    ⟨["logia", "logias"], inside r.second (replace "log")⟩,
    ⟨["uça~o", "uço~es"], inside r.second (replace "u")⟩,
    ⟨["ência", "ências"], inside r.second (replace "ente")⟩,
    ⟨["amente"], inside r.first (thenPerhaps delete (beforeAmente ["os", "ic", "ad"] r))⟩,
    ⟨["mente"], inside r.second (thenPerhaps delete
      (applyLongest 0 [⟨["ante", "avel", "ível"], inside r.second delete⟩]))⟩,
    ⟨["idade", "idades"], inside r.second (thenPerhaps delete
      (applyLongest 0 [⟨["abil", "ic", "iv"], inside r.second delete⟩]))⟩,
    ⟨["iva", "ivo", "ivas", "ivos"],
      inside r.second (thenPerhaps delete (ending "at" (inside r.second delete)))⟩,
    ⟨["ira", "iras"], inside v (after (· == 'e') (replace "ir"))⟩]

def verbs : List (Rule (List Char)) :=
  [⟨["ada", "ida", "ia", "aria", "eria", "iria", "ará", "ara", "erá", "era", "irá", "ava", "asse",
      "esse", "isse", "aste", "este", "iste", "ei", "arei", "erei", "irei", "am", "iam", "ariam",
      "eriam", "iriam", "aram", "eram", "iram", "avam", "em", "arem", "erem", "irem", "assem",
      "essem", "issem", "ado", "ido", "ando", "endo", "indo", "ara~o", "era~o", "ira~o", "ar", "er",
      "ir", "as", "adas", "idas", "ias", "arias", "erias", "irias", "arás", "aras", "erás", "eras",
      "irás", "avas", "es", "ardes", "erdes", "irdes", "ares", "eres", "ires", "asses", "esses",
      "isses", "astes", "estes", "istes", "is", "ais", "eis", "íeis", "aríeis", "eríeis", "iríeis",
      "áreis", "areis", "éreis", "ereis", "íreis", "ireis", "ásseis", "ésseis", "ísseis", "áveis",
      "ados", "idos", "ámos", "amos", "íamos", "aríamos", "eríamos", "iríamos", "áramos", "éramos",
      "íramos", "ávamos", "emos", "aremos", "eremos", "iremos", "ássemos", "êssemos", "íssemos",
      "imos", "armos", "ermos", "irmos", "eu", "iu", "ou", "ira", "iras"], delete⟩]

def finalI (v : Nat) : Act (List Char) := ending "i" (after (· == 'c') (inside v delete))

def residual (v : Nat) : List (Rule (List Char)) :=
  [⟨["os", "a", "i", "o", "á", "í", "ó"], inside v delete⟩]

/-- A vowel that is written only for the sound of the letter before it. -/
def muted (v : Nat) : Act (List Char) :=
  orElse (ending "u" (after (· == 'g') (inside v delete)))
    (ending "i" (after (· == 'c') (inside v delete)))

def finalForms (v : Nat) : List (Rule (List Char)) :=
  [⟨["e", "é", "ê"], inside v (thenPerhaps delete (muted v))⟩, ⟨["ç"], replace "c"⟩]

def stem (word : String) : String :=
  let letters := prepared word.toList
  let v := verbRegion isVowel letters
  let r := regions isVowel letters
  let word := letters.reverse
  let word :=
    match orElse (applyLongest 0 (standardRules v r)) (applyLongest v verbs) word with
    | some shorter => optionally (finalI v) shorter
    | none => optionally (applyLongest 0 (residual v)) word
  let word := optionally (applyLongest 0 (finalForms v)) word
  String.ofList (joined word.reverse)

end SearchRetrieve.Stem.Portuguese
