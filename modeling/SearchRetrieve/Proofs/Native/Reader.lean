import SearchRetrieve.Text.Blank

/-!
# Reading native queries

What a text says to an engine. A backslash makes the next character literal. Quotes that are not
literal delimit a phrase, parentheses group, `[lower TO upper]` is a range, white space separates,
a colon stands between a field and a value, and the words `AND`, `OR` and `NOT` alone are
operators, which group to the left. Nothing here knows how native queries are made.
-/
namespace SearchRetrieve.Native

inductive Operator where
  | and
  | or
  | not
  deriving DecidableEq, Repr

inductive Value where
  | word (text : String)
  | phrase (text : String)
  | range (lower upper : String)
  deriving DecidableEq, Repr

inductive Formula where
  /-- The group of nothing. -/
  | nothing
  | term (field : Option String) (value : Value)
  | join (op : Operator) (left right : Formula)
  deriving DecidableEq, Repr

def Formula.joinAll (op : Operator) : List Formula → Formula
  | [] => .nothing
  | f :: fs => fs.foldl (.join op) f

/-- A character with its own meaning or, after a backslash, without it. -/
structure Mark where
  char : Char
  literal : Bool
  deriving DecidableEq, Repr

def plain (c : Char) : Mark := ⟨c, false⟩

/-- The marks of a text, unless it ends with a backslash that stands before nothing. -/
def marks? : List Char → Option (List Mark)
  | [] => some []
  | ['\\'] => none
  | '\\' :: c :: rest => (marks? rest).map (⟨c, true⟩ :: ·)
  | c :: rest => (marks? rest).map (plain c :: ·)

def Mark.isSpace (m : Mark) : Bool := !m.literal && Text.isBlank m.char

/-- Does a word go on with this mark? -/
def Mark.isOrdinary (m : Mark) : Bool :=
  m.literal || !(Text.isBlank m.char || ['(', ')', '[', ']', '"', ':'].contains m.char)

def textOf (ms : List Mark) : String := String.ofList (ms.map Mark.char)

inductive Lexeme where
  | opening
  | closing
  | operator (op : Operator)
  | term (field : Option String) (value : Value)
  deriving DecidableEq, Repr

def upTo? (stop : Mark) : List Mark → Option (List Mark × List Mark)
  | [] => none
  | m :: rest =>
    if m = stop then some ([], rest) else (upTo? stop rest).map fun p => (m :: p.1, p.2)

def range? (ms : List Mark) : Option Value :=
  match (ms.splitOnP Mark.isSpace).filter fun piece => !piece.isEmpty with
  | [lower, between, upper] =>
    if between = "TO".toList.map plain then some (.range (textOf lower) (textOf upper)) else none
  | _ => none

def phrase? (ms : List Mark) : Option (Value × List Mark) :=
  (upTo? (plain '"') ms).map fun p => (.phrase (textOf p.1), p.2)

def bracketed? (ms : List Mark) : Option (Value × List Mark) :=
  (upTo? (plain ']') ms).bind fun p => (range? p.1).map (·, p.2)

/-- The value at the front: a phrase, a range, or a word, which may be empty. -/
def value? : List Mark → Option (Value × List Mark)
  | ⟨'"', false⟩ :: rest => phrase? rest
  | ⟨'[', false⟩ :: rest => bracketed? rest
  | ms => some (.word (textOf (ms.takeWhile Mark.isOrdinary)), ms.dropWhile Mark.isOrdinary)

/-- A word alone, which is an operator if it is written plainly as one. -/
def wordLexeme (word : List Mark) : Lexeme :=
  if word = "AND".toList.map plain then .operator .and
  else if word = "OR".toList.map plain then .operator .or
  else if word = "NOT".toList.map plain then .operator .not
  else .term none (.word (textOf word))

/-- The lexeme that a word begins: a term in the field that it names before a colon, or the word
alone. -/
def afterWord? (word : List Mark) : List Mark → Option (Lexeme × List Mark)
  | ⟨':', false⟩ :: rest => (value? rest).map fun p => (.term (some (textOf word)) p.1, p.2)
  | rest => some (wordLexeme word, rest)

/-- The lexeme that begins with a mark which is no white space. -/
def lexemeFrom? (m : Mark) (rest : List Mark) : Option (Lexeme × List Mark) :=
  if m = plain '(' then some (.opening, rest)
  else if m = plain ')' then some (.closing, rest)
  else if m = plain '"' then (phrase? rest).map fun p => (.term none p.1, p.2)
  else if m = plain '[' then (bracketed? rest).map fun p => (.term none p.1, p.2)
  else if m.isOrdinary then
    afterWord? (m :: rest.takeWhile Mark.isOrdinary) (rest.dropWhile Mark.isOrdinary)
  else none

theorem upTo?_length {stop : Mark} {ms before after : List Mark}
    (h : upTo? stop ms = some (before, after)) : after.length < ms.length := by
  induction ms generalizing before with
  | nil => simp [upTo?] at h
  | cons m ms ih =>
    unfold upTo? at h
    split at h
    · simp only [Option.some.injEq, Prod.mk.injEq] at h
      obtain ⟨-, rfl⟩ := h
      simp
    · obtain ⟨⟨earlier, later⟩, hp, h⟩ := Option.map_eq_some_iff.1 h
      simp only [Prod.mk.injEq] at h
      obtain ⟨-, rfl⟩ := h
      have := ih hp
      simp only [List.length_cons]
      omega

theorem phrase?_length {ms rest : List Mark} {v : Value} (h : phrase? ms = some (v, rest)) :
    rest.length < ms.length := by
  obtain ⟨⟨inside, after⟩, hp, h⟩ := Option.map_eq_some_iff.1 h
  obtain ⟨-, rfl⟩ := Prod.mk.inj h
  exact upTo?_length hp

theorem bracketed?_length {ms rest : List Mark} {v : Value}
    (h : bracketed? ms = some (v, rest)) : rest.length < ms.length := by
  obtain ⟨⟨inside, after⟩, hp, h⟩ := Option.bind_eq_some_iff.1 h
  obtain ⟨range, -, h⟩ := Option.map_eq_some_iff.1 h
  obtain ⟨-, rfl⟩ := Prod.mk.inj h
  exact upTo?_length hp

theorem value?_length {ms rest : List Mark} {v : Value} (h : value? ms = some (v, rest)) :
    rest.length ≤ ms.length := by
  unfold value? at h
  split at h
  · have := phrase?_length h
    simp only [List.length_cons]
    omega
  · have := bracketed?_length h
    simp only [List.length_cons]
    omega
  · obtain ⟨-, rfl⟩ := Prod.mk.inj (Option.some.inj h)
    exact (List.dropWhile_sublist _).length_le

theorem afterWord?_length {word rest after : List Mark} {l : Lexeme}
    (h : afterWord? word rest = some (l, after)) : after.length ≤ rest.length := by
  unfold afterWord? at h
  split at h
  · next later =>
    obtain ⟨⟨v, left⟩, hv, h⟩ := Option.map_eq_some_iff.1 h
    obtain ⟨-, rfl⟩ := Prod.mk.inj h
    exact Nat.le_succ_of_le (value?_length hv)
  · obtain ⟨-, rfl⟩ := Prod.mk.inj (Option.some.inj h)
    exact Nat.le_refl _

/-- Every lexeme takes at least one mark. -/
theorem lexemeFrom?_length {m : Mark} {rest after : List Mark} {l : Lexeme}
    (h : lexemeFrom? m rest = some (l, after)) : after.length ≤ rest.length := by
  unfold lexemeFrom? at h
  split at h
  · obtain ⟨-, rfl⟩ := Prod.mk.inj (Option.some.inj h)
    exact Nat.le_refl _
  split at h
  · obtain ⟨-, rfl⟩ := Prod.mk.inj (Option.some.inj h)
    exact Nat.le_refl _
  split at h
  · obtain ⟨⟨v, left⟩, hv, h⟩ := Option.map_eq_some_iff.1 h
    obtain ⟨-, rfl⟩ := Prod.mk.inj h
    exact Nat.le_of_lt (phrase?_length hv)
  split at h
  · obtain ⟨⟨v, left⟩, hv, h⟩ := Option.map_eq_some_iff.1 h
    obtain ⟨-, rfl⟩ := Prod.mk.inj h
    exact Nat.le_of_lt (bracketed?_length hv)
  split at h
  · exact Nat.le_trans (afterWord?_length h) (List.dropWhile_sublist _).length_le
  · simp at h

def lexemes? : List Mark → Option (List Lexeme)
  | [] => some []
  | m :: rest =>
    if m.isSpace then lexemes? rest
    else
      match _h : lexemeFrom? m rest with
      | some (l, after) => (lexemes? after).map (l :: ·)
      | none => none
termination_by ms => ms.length
decreasing_by
  · simp
  · have := lexemeFrom?_length _h
    simp only [List.length_cons]
    omega

/-- How far the reading of a group has come. -/
inductive Frame where
  | start
  | complete (f : Formula)
  /-- After an operator. -/
  | pending (f : Formula) (op : Operator)
  deriving DecidableEq, Repr

namespace Frame

/-- Two operands need an operator between them. -/
def operand (g : Formula) : Frame → Option Frame
  | start => some (complete g)
  | complete _ => none
  | pending f op => some (complete (.join op f g))

def operator (op : Operator) : Frame → Option Frame
  | complete f => some (pending f op)
  | _ => none

def result : Frame → Option Formula
  | start => some .nothing
  | complete f => some f
  | pending _ _ => none

end Frame

/-- Reads the lexemes of a group, inside the groups that have been opened before it. -/
def assemble? : List Lexeme → Frame → List Frame → Option Formula
  | [], .complete f, [] => some f
  | [], _, _ => none
  | .opening :: rest, frame, outer => assemble? rest .start (frame :: outer)
  | .closing :: rest, frame, enclosing :: outer => do
    let f ← frame.result
    let frame ← enclosing.operand f
    assemble? rest frame outer
  | .closing :: _, _, [] => none
  | .operator op :: rest, frame, outer => do
    let frame ← frame.operator op
    assemble? rest frame outer
  | .term field value :: rest, frame, outer => do
    let frame ← frame.operand (.term field value)
    assemble? rest frame outer

def formula? (text : String) : Option Formula := do
  let ms ← marks? text.toList
  let ls ← lexemes? ms
  assemble? ls .start []

end SearchRetrieve.Native
