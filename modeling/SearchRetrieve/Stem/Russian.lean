import SearchRetrieve.Stem.Endings

/-!
# Russian stems

The Snowball stemmer for Russian. All endings lie after the first vowel.
-/
namespace SearchRetrieve.Stem.Russian

def isVowel : Char → Bool := isOneOf "аеиоуыэюя"

/-- Endings that need an `а` or an `я` before them, and endings that do not. -/
def rules (v : Nat) (afterA plain : List String) : List (Rule (List Char)) :=
  [⟨afterA, afterInside v (isOneOf "ая") delete⟩, ⟨plain, delete⟩]

def gerunds (v : Nat) : List (Rule (List Char)) :=
  rules v ["в", "вши", "вшись"] ["ив", "ивши", "ившись", "ыв", "ывши", "ывшись"]

def adjectives : List (Rule (List Char)) :=
  [⟨["ее", "ие", "ые", "ое", "ими", "ыми", "ей", "ий", "ый", "ой", "ем", "им", "ым", "ом", "его",
    "ого", "ему", "ому", "их", "ых", "ую", "юю", "ая", "яя", "ою", "ею"], delete⟩]

def participles (v : Nat) : List (Rule (List Char)) :=
  rules v ["ем", "нн", "вш", "ющ", "щ"] ["ивш", "ывш", "ующ"]

def reflexives : List (Rule (List Char)) := [⟨["ся", "сь"], delete⟩]

def verbs (v : Nat) : List (Rule (List Char)) :=
  rules v
    ["ла", "на", "ете", "йте", "ли", "й", "л", "ем", "н", "ло", "но", "ет", "ют", "ны", "ть",
      "ешь", "нно"]
    ["ила", "ыла", "ена", "ейте", "уйте", "ите", "или", "ыли", "ей", "уй", "ил", "ыл", "им", "ым",
      "ен", "ило", "ыло", "ено", "ят", "ует", "уют", "ит", "ыт", "ены", "ить", "ыть", "ишь", "ую",
      "ю"]

def nouns : List (Rule (List Char)) :=
  [⟨["а", "ев", "ов", "ие", "ье", "е", "иями", "ями", "ами", "еи", "ии", "и", "ией", "ей", "ой",
    "ий", "й", "иям", "ям", "ием", "ем", "ам", "ом", "о", "у", "ах", "иях", "ях", "ы", "ь", "ию",
    "ью", "ю", "ия", "ья", "я"], delete⟩]

/-- The ending of an adjective, and that of a participle before it. -/
def adjectival (v : Nat) : Act (List Char) :=
  thenPerhaps (applyLongest v adjectives) (applyLongest v (participles v))

/-- The ending of a word that is no gerund. -/
def inflection (v : Nat) : Act (List Char) := fun word =>
  let other := orElse (applyLongest v (verbs v)) (applyLongest v nouns)
  some (optionally (orElse (adjectival v) other)
    (optionally (applyLongest v reflexives) word))

def derivations (v second : Nat) : Act (List Char) :=
  applyLongest v [⟨["ост", "ость"], inside second delete⟩]

/-- One of two final `н`. -/
def singleN (v : Nat) : Act (List Char) := ending "н" (afterInside v (· == 'н') delete)

def superlatives (v : Nat) : Act (List Char) :=
  applyLongest v
    [⟨["ейш", "ейше"], thenPerhaps delete (singleN v)⟩,
      ⟨["н"], afterInside v (· == 'н') delete⟩,
      ⟨["ь"], delete⟩]

def stem (word : String) : String :=
  let letters := word.toList
  let afterVowel := past isVowel letters
  let v := mark letters.length afterVowel
  let second := mark letters.length
    ((afterVowel.bind (past fun c => !isVowel c)).bind (pastSyllable isVowel))
  let word := optionally (orElse (applyLongest v (gerunds v)) (inflection v)) letters.reverse
  let word := optionally (applyLongest v [⟨["и"], delete⟩]) word
  let word := optionally (derivations v second) word
  let word := optionally (superlatives v) word
  String.ofList word.reverse

end SearchRetrieve.Stem.Russian
