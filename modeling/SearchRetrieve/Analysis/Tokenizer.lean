import SearchRetrieve.Language
import SearchRetrieve.Notice
import SearchRetrieve.Text.Accent
import SearchRetrieve.Text.LetterCase
import SearchRetrieve.Text.WordBreak

/-!
# Terms of a text

A text is cut into words, and every word that is neither too short, too long nor a stop word gives
a term. A term keeps the number of its word, counting all words, and the bytes that it stands on.
-/
namespace SearchRetrieve

structure TokenizerSettings where
  lowercase : Bool
  removeStopWords : Bool
  stem : Bool
  foldAccents : Bool
  /-- The fewest characters of a word that gives a term. -/
  minLength : Nat
  /-- The most characters of a word that gives a term. -/
  maxLength : Nat
  language : String
  deriving DecidableEq, Repr

structure Occurrence where
  term : String
  position : Nat
  start : Nat
  stop : Nat
  deriving DecidableEq, Repr

namespace TokenizerSettings

def standard : TokenizerSettings := ⟨true, false, false, true, 1, 255, "english"⟩

def stemming : TokenizerSettings := { standard with removeStopWords := true, stem := true }

/-- The language, English if there is none of that name. -/
def languageUsed (s : TokenizerSettings) : Language := (Language.ofName? s.language).getD .english

def notices (s : TokenizerSettings) : List Notice :=
  if (Language.ofName? s.language).isSome then []
  else [.unknownLanguage (Text.asciiLower s.language)]

/-- A text in the case and with the accents that are asked for. -/
def normalize (s : TokenizerSettings) (text : String) : String :=
  let text := if s.lowercase then Text.lower text else text
  if s.foldAccents then Text.foldAccents text else text

end TokenizerSettings

/-- How the words of a text are found and what is known about those of a language. The words are
slices of the text that are not empty and follow each other, each with the place of its first
byte. -/
structure Linguistics where
  words : List Char → List (Nat × List Char)
  stem : Language → String → String
  stopWords : Language → StopWords.WordSet
  mem_words : ∀ {cs word : List Char} {start : Nat}, (start, word) ∈ words cs →
    word ≠ [] ∧ ∃ before after, cs = before ++ word ++ after ∧ start = Text.utf8Length before
  words_pairwise : ∀ cs, (words cs).Pairwise fun a b => a.1 + Text.utf8Length a.2 ≤ b.1

namespace Linguistics

def standard : Linguistics where
  words := Text.wordIndices
  stem := Language.stem
  stopWords := Language.stopWords
  mem_words := Text.mem_wordIndices
  words_pairwise := Text.wordIndices_pairwise

def isStopWord (l : Linguistics) (s : TokenizerSettings) (word : String) : Bool :=
  s.removeStopWords && (l.stopWords s.languageUsed).contains word

def keeps (l : Linguistics) (s : TokenizerSettings) (word : String) : Bool :=
  s.minLength ≤ word.length && word.length ≤ s.maxLength && !l.isStopWord s word

def termOf (l : Linguistics) (s : TokenizerSettings) (word : String) : String :=
  if s.stem then l.stem s.languageUsed word else word

/-- What the word with a number gives; the number is kept in 32 bits. -/
def occurrence? (l : Linguistics) (s : TokenizerSettings) (word : (Nat × List Char) × Nat) :
    Option Occurrence :=
  let ((start, letters), position) := word
  let normal := s.normalize (String.ofList letters)
  if l.keeps s normal then
    some ⟨l.termOf s normal, position % UInt32.size, start, start + Text.utf8Length letters⟩
  else none

def occurrences (l : Linguistics) (s : TokenizerSettings) (text : String) : List Occurrence :=
  (l.words text.toList).zipIdx.filterMap (l.occurrence? s)

end Linguistics

namespace TokenizerSettings

def occurrences (s : TokenizerSettings) (text : String) : List Occurrence :=
  Linguistics.standard.occurrences s text

def terms (s : TokenizerSettings) (text : String) : List String :=
  (s.occurrences text).map Occurrence.term

end TokenizerSettings

end SearchRetrieve
