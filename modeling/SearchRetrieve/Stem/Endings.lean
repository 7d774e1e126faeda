/-!
# Endings of words

A stemmer takes endings off a word. The word is a list of letters with the last one first, so an
ending is something at the front, and the length of what remains tells in which region of the word
the ending stands: a region is given by the number of letters before it.
-/
namespace SearchRetrieve.Stem

def isOneOf (letters : String) (c : Char) : Bool := letters.toList.contains c

/-- What a rule makes of the letters before an ending, if it applies. -/
abbrev Act (α : Type) := List Char → Option α

/-- Endings that are treated alike. -/
structure Rule (α : Type) where
  endings : List String
  act : Act α

def before? (word : List Char) (ending : String) : Option (List Char) :=
  let letters := ending.toList.reverse
  if letters.isPrefixOf word then some (word.drop letters.length) else none

/-- Of two candidates the one with fewer letters left, hence with the longer ending. -/
def longerEnding {α : Type} (best : Option (List Char × Act α)) (candidate : List Char × Act α) :
    Option (List Char × Act α) :=
  match best with
  | some b => if b.1.length ≤ candidate.1.length then some b else some candidate
  | none => some candidate

/-- Applies the rule of the longest ending that lies in the region from `limit` on. No shorter
ending is tried where that rule does not apply. -/
def applyLongest {α : Type} (limit : Nat) (rules : List (Rule α)) (word : List Char) : Option α :=
  let candidates := rules.flatMap fun rule =>
    ((rule.endings.filterMap (before? word)).filter fun rest => limit ≤ rest.length).map
      fun rest => (rest, rule.act)
  match candidates.foldl longerEnding none with
  | some (rest, act) => act rest
  | none => none

def delete : Act (List Char) := some

def replace (text : String) : Act (List Char) := fun rest => some (text.toList.reverse ++ rest)

def inside {α : Type} (start : Nat) (act : Act α) : Act α := fun rest =>
  if start ≤ rest.length then act rest else none

def after {α : Type} (letter : Char → Bool) (act : Act α) : Act α := fun rest =>
  match rest with
  | c :: _ => if letter c then act rest else none
  | [] => none

/-- Acts on endings after a letter of a class that stands in the region from `start` on itself. -/
def afterInside {α : Type} (start : Nat) (letter : Char → Bool) (act : Act α) : Act α := fun rest =>
  match rest with
  | c :: more => if letter c && start ≤ more.length then act rest else none
  | [] => none

def notAfter {α : Type} (letter : Char) (act : Act α) : Act α := fun rest =>
  if rest.head? = some letter then none else act rest

def orElse {α : Type} (first second : Act α) : Act α := fun rest =>
  match first rest with
  | some a => some a
  | none => second rest

def optionally (act : Act (List Char)) : List Char → List Char := fun word => (act word).getD word

def thenPerhaps (first second : Act (List Char)) : Act (List Char) := fun rest =>
  (first rest).map (optionally second)

def ending {α : Type} (text : String) (act : Act α) : Act α := fun word =>
  (before? word text).bind act

def past (letter : Char → Bool) (letters : List Char) : Option (List Char) :=
  match letters.dropWhile fun c => !letter c with
  | [] => none
  | _ :: rest => some rest

/-- The letters after the first vowel that another letter follows, and that letter. -/
def pastSyllable (isVowel : Char → Bool) (letters : List Char) : Option (List Char) :=
  (past isVowel letters).bind (past fun c => !isVowel c)

/-- The number of letters before `rest`, or all of them if there is no such place. -/
def mark (length : Nat) (rest : Option (List Char)) : Nat :=
  match rest with
  | some rest => length - rest.length
  | none => length

structure Regions where
  first : Nat
  second : Nat
  deriving DecidableEq, Repr

def regions (isVowel : Char → Bool) (letters : List Char) : Regions :=
  let first := pastSyllable isVowel letters
  ⟨mark letters.length first, mark letters.length (first.bind (pastSyllable isVowel))⟩

/-- What may stand before the ending of a Romance adverb and go with it. -/
def beforeAmente (others : List String) (r : Regions) : Act (List Char) :=
  applyLongest 0
    [⟨["iv"], thenPerhaps (inside r.second delete) (ending "at" (inside r.second delete))⟩,
      ⟨others, inside r.second delete⟩]

/-- Where the region for verb endings begins in Romance words: after the next vowel if the second
letter is a consonant, after the next consonant if the word begins with two vowels, and after the
third letter otherwise. -/
def verbRegion (isVowel : Char → Bool) (letters : List Char) : Nat :=
  mark letters.length <|
    match letters with
    | a :: b :: rest =>
      if !isVowel b then past isVowel rest
      else if isVowel a then past (fun c => !isVowel c) rest
      else
        match rest with
        | _ :: rest => some rest
        | [] => none
    | _ => none

/-- Replaces letters from the left; each new letter may depend on the new letter before it and on
the letters after it. -/
def replaceFrom (f : Char → Char → List Char → Char) (previous : Char) : List Char → List Char
  | [] => []
  | c :: rest =>
    let c := f previous c rest
    c :: replaceFrom f c rest

def startsWith (letter : Char → Bool) : List Char → Bool
  | c :: _ => letter c
  | [] => false

end SearchRetrieve.Stem
