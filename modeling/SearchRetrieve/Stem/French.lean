import SearchRetrieve.Stem.Endings

/-!
# French stems

The Snowball stemmer for French. Vowel letters that are consonants are written as capitals while
the rules run.
-/
namespace SearchRetrieve.Stem.French

def isVowel : Char → Bool := isOneOf "aeiouyâàëéêèïîôûù"

/-- The letter after `previous`, as a capital if it is a consonant there. -/
def consonant (previous c : Char) (rest : List Char) : Char :=
  if isVowel previous && c = 'u' && startsWith isVowel rest then 'U'
  else if isVowel previous && c = 'i' && startsWith isVowel rest then 'I'
  else if isVowel previous && c = 'y' then 'Y'
  else if previous = 'q' && c = 'u' then 'U'
  else c

def preparedFrom (c : Char) : List Char → List Char
  | [] => [c]
  | d :: rest =>
    let next := consonant c d rest
    let first := if c = 'y' && isVowel next then 'Y' else c
    first :: preparedFrom next rest

def prepared : List Char → List Char
  | [] => []
  | c :: rest => preparedFrom c rest

def verbStart (letters : List Char) : Nat :=
  match letters with
  | a :: b :: _ :: _ =>
    if (isVowel a && isVowel b) || ["par", "col", "tap"].any (·.toList.isPrefixOf letters) then 3
    else mark letters.length (past isVowel (letters.drop 1))
  | _ => mark letters.length (past isVowel (letters.drop 1))

/-- A changed word, and whether the rule that changed it ends the search for rules. -/
abbrev Outcome := List Char × Bool

def final (act : Act (List Char)) : Act Outcome := fun rest => (act rest).map (·, true)

/-- Changes the word, but leaves the search for a rule open. -/
def passing (act : Act (List Char)) : Act Outcome := fun rest => (act rest).map (·, false)

def deleteOr (start : Nat) (otherwise : Act (List Char)) : Act (List Char) :=
  orElse (inside start delete) otherwise

def beforeEment (v : Nat) (r : Regions) : Act (List Char) :=
  applyLongest 0
    [⟨["iv"], thenPerhaps (inside r.second delete) (ending "at" (inside r.second delete))⟩,
      ⟨["eus"], deleteOr r.second (inside r.first (replace "eux"))⟩,
      ⟨["abl", "iqU"], inside r.second delete⟩,
      ⟨["ièr", "Ièr"], inside v (replace "i")⟩]

def beforeIte (r : Regions) : Act (List Char) :=
  applyLongest 0
    [⟨["abil"], deleteOr r.second (replace "abl")⟩,
      ⟨["ic"], deleteOr r.second (replace "iqU")⟩,
      ⟨["iv"], inside r.second delete⟩]

def beforeIf (r : Regions) : Act (List Char) :=
  ending "at" (thenPerhaps (inside r.second delete)
    (ending "ic" (deleteOr r.second (replace "iqU"))))

def standardRules (v : Nat) (r : Regions) : List (Rule Outcome) :=
  [⟨["ance", "iqUe", "isme", "able", "iste", "eux", "ances", "iqUes", "ismes", "ables", "istes"],
      final (inside r.second delete)⟩,
    ⟨["atrice", "ateur", "ation", "atrices", "ateurs", "ations"],
      final (thenPerhaps (inside r.second delete)
        (ending "ic" (deleteOr r.second (replace "iqU"))))⟩,
    ⟨["logie", "logies"], final (inside r.second (replace "log"))⟩,
    ⟨["usion", "ution", "usions", "utions"], final (inside r.second (replace "u"))⟩,
    ⟨["ence", "ences"], final (inside r.second (replace "ent"))⟩,
    ⟨["ement", "ements"], final (thenPerhaps (inside v delete) (beforeEment v r))⟩,
    ⟨["ité", "ités"], final (thenPerhaps (inside r.second delete) (beforeIte r))⟩,
    ⟨["if", "ive", "ifs", "ives"], final (thenPerhaps (inside r.second delete) (beforeIf r))⟩,
    ⟨["eaux"], final (replace "eau")⟩,
    ⟨["aux"], final (inside r.first (replace "al"))⟩,
    ⟨["euse", "euses"], final (deleteOr r.second (inside r.first (replace "eux")))⟩,
    ⟨["issement", "issements"], final (inside r.first (after (fun c => !isVowel c) delete))⟩,
    ⟨["amment"], passing (inside v (replace "ant"))⟩,
    ⟨["emment"], passing (inside v (replace "ent"))⟩,
    ⟨["ment", "ments"], passing (afterInside v isVowel delete)⟩]

def verbsInI (v : Nat) : List (Rule (List Char)) :=
  [⟨["îmes", "ît", "îtes", "i", "ie", "ies", "ir", "ira", "irai", "iraIent", "irais", "irait",
      "iras", "irent", "irez", "iriez", "irions", "irons", "iront", "is", "issaIent", "issais",
      "issait", "issant", "issante", "issantes", "issants", "isse", "issent", "isses", "issez",
      "issiez", "issions", "issons", "it"],
    afterInside v (fun c => !isVowel c) delete⟩]

def verbs (v : Nat) (r : Regions) : List (Rule (List Char)) :=
  [⟨["ions"], inside r.second delete⟩,
    ⟨["é", "ée", "ées", "és", "èrent", "er", "era", "erai", "eraIent", "erais", "erait", "eras",
      "erez", "eriez", "erions", "erons", "eront", "ez", "iez"], delete⟩,
    ⟨["âmes", "ât", "âtes", "a", "ai", "aIent", "ais", "ait", "ant", "ante", "antes", "ants", "as",
      "asse", "assent", "asses", "assiez", "assions"],
      thenPerhaps delete (ending "e" (inside v delete))⟩]

def finalS : Act (List Char) :=
  ending "s" (after (fun c => !isOneOf "aiouès" c) delete)

def residual (v : Nat) (r : Regions) : List (Rule (List Char)) :=
  [⟨["ion"], inside r.second (afterInside v (isOneOf "st") delete)⟩,
    ⟨["ier", "ière", "Ier", "Ière"], replace "i"⟩,
    ⟨["e"], delete⟩,
    ⟨["ë"], fun rest => (ending "gu" (inside v delete) rest).bind fun _ => some rest⟩]

def tidied : List Char → List Char
  | 'Y' :: rest => 'i' :: rest
  | 'ç' :: rest => 'c' :: rest
  | word => word

/-- The rules for endings: standard ones, those of verbs, or what else may stand at the end. -/
def withoutEnding (v : Nat) (r : Regions) (word : List Char) : List Char :=
  let (word, finished) := (applyLongest 0 (standardRules v r) word).getD (word, false)
  if finished then tidied word
  else
    match orElse (applyLongest v (verbsInI v)) (applyLongest v (verbs v r)) word with
    | some shorter => tidied shorter
    | none => optionally (applyLongest v (residual v r)) (optionally finalS word)

def undoubled (word : List Char) : List Char :=
  if ["enn", "onn", "ett", "ell", "eill"].any fun e => (before? word e).isSome then word.drop 1
  else word

def unaccented (word : List Char) : List Char :=
  let consonants := word.takeWhile fun c => !isVowel c
  match word.dropWhile fun c => !isVowel c with
  | c :: rest =>
    if !consonants.isEmpty && (c = 'é' || c = 'è') then consonants ++ 'e' :: rest else word
  | [] => word

def small (c : Char) : Char :=
  if c = 'I' then 'i' else if c = 'U' then 'u' else if c = 'Y' then 'y' else c

def stem (word : String) : String :=
  let letters := prepared word.toList
  let r := regions isVowel letters
  let word := withoutEnding (verbStart letters) r letters.reverse
  String.ofList ((unaccented (undoubled word)).reverse.map small)

end SearchRetrieve.Stem.French
