import SearchRetrieve.Text.Alphanumeric
import SearchRetrieve.Text.WordClass

/-!
# Words of a text

A text breaks into segments by the default rules for word boundaries (UAX #29), and its words are
the segments that have a letter or a digit. A rule looks at the last character before a place,
the one before that, and the characters after it; marks and format characters belong to the
character before them.
-/
namespace SearchRetrieve.Text

namespace WordClass

def isNewline : WordClass → Bool
  | carriageReturn | lineFeed | newline => true
  | _ => false

/-- Classes that do not count between other characters. -/
def isIgnored : WordClass → Bool
  | extend | joiner | format => true
  | _ => false

def isLetter : WordClass → Bool
  | letter | hebrewLetter => true
  | _ => false

def joinsLetters : WordClass → Bool
  | midLetter | midNumLet | singleQuote => true
  | _ => false

def joinsDigits : WordClass → Bool
  | midNum | midNumLet | singleQuote => true
  | _ => false

end WordClass

/-- What the rules know of the text before a place. -/
structure WordContext where
  /-- The class of the character just before. -/
  previous : WordClass
  /-- The class of the last character that counts. -/
  last : WordClass
  /-- The class of the one before it. -/
  earlier : WordClass
  /-- Is the number of regional indicators just before odd? -/
  oddIndicators : Bool
  deriving DecidableEq, Repr

namespace WordContext

def start (c : Char) : WordContext :=
  let k := wordClass c
  ⟨k, k, .other, k == .regionalIndicator⟩

/-- After one more character. A pictograph that a joiner ties to what is before it counts as a
symbol, even if it is a letter elsewhere. -/
def push (x : WordContext) (c : Char) : WordContext :=
  let k := wordClass c
  if x.previous == .joiner && isPictograph c then ⟨.other, .other, .other, false⟩
  else if k.isIgnored && !x.previous.isNewline then { x with previous := k }
  else ⟨k, k, x.last, k == .regionalIndicator && !(x.last == .regionalIndicator && x.oddIndicators)⟩

def following : List Char → WordClass
  | [] => .other
  | c :: rest =>
    let k := wordClass c
    if k.isIgnored then following rest else k

/-- The rules for two characters that count, with one more on either side. -/
def joinsClasses (x : WordContext) (k next : WordClass) : Bool :=
  (x.last.isLetter && k.isLetter) ||
  (x.last.isLetter && k.joinsLetters && next.isLetter) ||
  (x.earlier.isLetter && x.last.joinsLetters && k.isLetter) ||
  (x.last == .hebrewLetter && k == .singleQuote) ||
  (x.last == .hebrewLetter && k == .doubleQuote && next == .hebrewLetter) ||
  (x.earlier == .hebrewLetter && x.last == .doubleQuote && k == .hebrewLetter) ||
  (x.last == .numeric && k == .numeric) ||
  (x.last.isLetter && k == .numeric) ||
  (x.last == .numeric && k.isLetter) ||
  (x.earlier == .numeric && x.last.joinsDigits && k == .numeric) ||
  (x.last == .numeric && k.joinsDigits && next == .numeric) ||
  (x.last == .katakana && k == .katakana) ||
  ((x.last.isLetter || x.last == .numeric || x.last == .katakana || x.last == .extendNumLet) &&
    k == .extendNumLet) ||
  (x.last == .extendNumLet && (k.isLetter || k == .numeric || k == .katakana)) ||
  (x.last == .regionalIndicator && k == .regionalIndicator && x.oddIndicators)

/-- Does `c`, followed by `rest`, stay in the segment before it? -/
def joins (x : WordContext) (c : Char) (rest : List Char) : Bool :=
  let k := wordClass c
  if x.previous == .carriageReturn && k == .lineFeed then true
  else if x.previous.isNewline || k.isNewline then false
  else if x.previous == .joiner && isPictograph c then true
  else if x.previous == .space && k == .space then true
  else if k.isIgnored then true
  else x.joinsClasses k (following rest)

end WordContext

/-- The segments from one that has begun, its characters so far in reverse. -/
def segmentsFrom (x : WordContext) (begun : List Char) : List Char → List (List Char)
  | [] => [begun.reverse]
  | c :: rest =>
    if x.joins c rest then segmentsFrom (x.push c) (c :: begun) rest
    else begun.reverse :: segmentsFrom (x.push c) [c] rest

def segments : List Char → List (List Char)
  | [] => []
  | c :: rest => segmentsFrom (.start c) [c] rest

theorem flatten_segmentsFrom (x : WordContext) (begun rest : List Char) :
    (segmentsFrom x begun rest).flatten = begun.reverse ++ rest := by
  fun_induction segmentsFrom x begun rest with
  | case1 => simp
  | case2 x begun c rest _ ih => simp [ih]
  | case3 x begun c rest _ ih => simp [ih]

/-- The segments of a text are all of it. -/
theorem flatten_segments (cs : List Char) : (segments cs).flatten = cs := by
  cases cs with
  | nil => rfl
  | cons c cs => exact flatten_segmentsFrom _ _ _

def utf8Length (cs : List Char) : Nat := cs.foldl (fun n c => n + c.utf8Size) 0

theorem utf8Length_append (cs ds : List Char) :
    utf8Length (cs ++ ds) = utf8Length cs + utf8Length ds := by
  have hfold (n : Nat) : ds.foldl (fun n c => n + c.utf8Size) n = n + utf8Length ds := by
    induction ds generalizing n with
    | nil => rfl
    | cons d ds ih =>
      have hcons : utf8Length (d :: ds) = 0 + d.utf8Size + utf8Length ds := ih _
      rw [List.foldl_cons, ih, hcons]
      omega
  rw [utf8Length, List.foldl_append, hfold, ← utf8Length]

/-- Texts that follow each other, each with the place where it begins. -/
def placed (start : Nat) : List (List Char) → List (Nat × List Char)
  | [] => []
  | piece :: rest => (start, piece) :: placed (start + utf8Length piece) rest

theorem mem_placed {start place : Nat} {pieces : List (List Char)} {piece : List Char}
    (h : (place, piece) ∈ placed start pieces) :
    ∃ before after, pieces.flatten = before ++ piece ++ after ∧
      place = start + utf8Length before := by
  induction pieces generalizing start with
  | nil => simp [placed] at h
  | cons first pieces ih =>
    rcases List.mem_cons.1 h with hfirst | hlater
    · obtain ⟨rfl, rfl⟩ := Prod.mk.inj hfirst
      exact ⟨[], pieces.flatten, rfl, rfl⟩
    · obtain ⟨before, after, hpieces, rfl⟩ := ih hlater
      refine ⟨first ++ before, after, by simp [hpieces], ?_⟩
      rw [utf8Length_append, Nat.add_assoc]

theorem placed_pairwise (start : Nat) (pieces : List (List Char)) :
    (placed start pieces).Pairwise fun a b => a.1 + utf8Length a.2 ≤ b.1 := by
  induction pieces generalizing start with
  | nil => exact .nil
  | cons first pieces ih =>
    refine List.pairwise_cons.2 ⟨?_, ih _⟩
    rintro ⟨place, piece⟩ hlater
    obtain ⟨before, _, -, rfl⟩ := mem_placed hlater
    exact Nat.le_add_right _ _

/-- The words of a text, each with the place of its first byte. -/
def wordIndices (cs : List Char) : List (Nat × List Char) :=
  (placed 0 (segments cs)).filter fun w => w.2.any isAlphanumeric

theorem mem_wordIndices {cs word : List Char} {start : Nat} (h : (start, word) ∈ wordIndices cs) :
    word ≠ [] ∧ ∃ before after, cs = before ++ word ++ after ∧ start = utf8Length before := by
  obtain ⟨hplaced, hword⟩ := List.mem_filter.1 h
  constructor
  · rintro rfl
    simp at hword
  · obtain ⟨before, after, hparts, rfl⟩ := mem_placed hplaced
    exact ⟨before, after, by rw [← hparts, flatten_segments], Nat.zero_add _⟩

theorem wordIndices_pairwise (cs : List Char) :
    (wordIndices cs).Pairwise fun a b => a.1 + utf8Length a.2 ≤ b.1 :=
  (placed_pairwise 0 _).filter _

end SearchRetrieve.Text
