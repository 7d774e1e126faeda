import SearchRetrieve.Proofs.Text.Words
import SearchRetrieve.Query.Printer
import SearchRetrieve.Query.Token

/-!
# Tokens read back

Each token is cut off the front of a text that begins with it, whatever follows, as long as what
follows cannot be taken for more of it. The words that are cut off are words.
-/
namespace SearchRetrieve.Token

def Sequence.prepend (ts : List Token) (s : Sequence) : Sequence := ⟨ts ++ s.tokens, s.complete⟩

@[simp] theorem Sequence.prepend_nil (s : Sequence) : s.prepend [] = s := rfl

@[simp] theorem Sequence.prepend_prepend (ts us : List Token) (s : Sequence) :
    (s.prepend us).prepend ts = s.prepend (ts ++ us) := by
  simp [Sequence.prepend]

theorem sequence_of_token {cs rest : List Char} {t : Token} (h : next cs = .token t rest) :
    sequence cs = (sequence rest).prepend [t] := by
  rw [sequence]
  split <;> simp_all [Sequence.prepend]

theorem sequence_congr {cs ds : List Char} (h : next cs = next ds) : sequence cs = sequence ds := by
  rw [sequence, sequence, h]

@[simp] theorem sequence_nil : sequence [] = ⟨[], true⟩ := by
  have h : next [] = .finished := rfl
  rw [sequence]
  split <;> simp_all

/-- What a word is made of: at least one character, none of them white space or a delimiter. -/
def IsWord (text : String) : Prop := text ≠ "" ∧ ∀ c ∈ text.toList, isWordChar c = true

instance (text : String) : Decidable (IsWord text) :=
  decidable_of_iff (text ≠ "" ∧ text.toList.all isWordChar = true)
    (by simp only [IsWord, List.all_eq_true])

def EndsWord (rest : List Char) : Prop := ∀ c ∈ rest.head?, isWordChar c = false

theorem not_blank_of_word {c : Char} (hc : isWordChar c = true) : Text.isBlank c = false := by
  simp only [isWordChar, Bool.and_eq_true, Bool.not_eq_true'] at hc
  exact hc.1

/-- A character that is no delimiter begins a word. -/
theorem startingWith_word {c : Char} (hc : isDelimiter c = false) (rest : List Char) :
    startingWith c rest = .token (.word (String.ofList (c :: rest.takeWhile isWordChar)))
      (rest.dropWhile isWordChar) := by
  have hcomparator : comparator? c rest = none := by
    unfold comparator?
    split <;> simp_all [isDelimiter]
  unfold startingWith
  split <;> simp_all [isDelimiter]

/-- A delimiter begins no word. -/
theorem startingWith_delimiter {c : Char} (hc : isDelimiter c = true) {rest rest' : List Char}
    {text : String} : startingWith c rest ≠ .token (.word text) rest' := by
  intro h
  unfold startingWith at h
  split at h
  · simp at h
  · simp at h
  · simp at h
  · split at h <;> simp at h
  · split at h
    · simp at h
    · next hcomparator =>
      unfold comparator? at hcomparator
      split at hcomparator <;> simp_all [isDelimiter]

theorem next_of_not_blank {c : Char} (hc : Text.isBlank c = false) (rest : List Char) :
    next (c :: rest) = startingWith c rest := by
  simp [next, Text.trimStartChars, hc]

theorem next_blank {c : Char} (hc : Text.isBlank c = true) (rest : List Char) :
    next (c :: rest) = next rest := by
  simp [next, Text.trimStartChars, hc]

theorem sequence_blank {c : Char} (hc : Text.isBlank c = true) (rest : List Char) :
    sequence (c :: rest) = sequence rest :=
  sequence_congr (next_blank hc rest)

theorem sequence_word {w : String} {rest : List Char} (hw : IsWord w) (hrest : EndsWord rest) :
    sequence (w.toList ++ rest) = (sequence rest).prepend [.word w] := by
  obtain ⟨hne, hchars⟩ := hw
  cases htext : w.toList with
  | nil => exact (hne (String.toList_eq_nil_iff.1 htext)).elim
  | cons c cs =>
    rw [htext] at hchars
    have hc : isWordChar c = true := hchars c (by simp)
    have hcs : ∀ d ∈ cs, isWordChar d = true := fun d hd => hchars d (by simp [hd])
    have hdelimiter : isDelimiter c = false := by
      simp only [isWordChar, Bool.and_eq_true, Bool.not_eq_true'] at hc
      exact hc.2
    have hnext : next (c :: (cs ++ rest)) = .token (.word w) rest := by
      rw [next_of_not_blank (not_blank_of_word hc), startingWith_word hdelimiter,
        Text.takeWhile_run hcs hrest, Text.dropWhile_run hcs hrest, ← htext, String.ofList_toList]
    exact sequence_of_token hnext

theorem sequence_leftParen (rest : List Char) :
    sequence ('(' :: rest) = (sequence rest).prepend [.leftParen] :=
  sequence_of_token (next_of_not_blank (by decide) rest)

theorem sequence_rightParen (rest : List Char) :
    sequence (')' :: rest) = (sequence rest).prepend [.rightParen] :=
  sequence_of_token (next_of_not_blank (by decide) rest)

theorem sequence_slash (rest : List Char) :
    sequence ('/' :: rest) = (sequence rest).prepend [.slash] :=
  sequence_of_token (next_of_not_blank (by decide) rest)

def EndsComparator (rest : List Char) : Prop := ∀ c ∈ rest.head?, c ≠ '=' ∧ c ≠ '>'

theorem comparator?_single {rest : List Char} (hrest : EndsComparator rest) :
    comparator? '=' rest = some (.equal, rest) ∧ comparator? '<' rest = some (.less, rest) ∧
      comparator? '>' rest = some (.greater, rest) := by
  cases rest with
  | nil => simp [comparator?]
  | cons d rest =>
    obtain ⟨heq, hgt⟩ := hrest d rfl
    simp [comparator?, heq, hgt]

/-- The comparator is the beginning of another one that goes on with this character. -/
def Lengthens (c : Char) (s : Comparator) : Prop :=
  ∃ longer : Comparator, longer.symbol.toList = s.symbol.toList ++ [c]

theorem Lengthens.eq_or_eq {c : Char} {s : Comparator} (h : Lengthens c s) :
    c = '=' ∨ c = '>' := by
  obtain ⟨longer, h⟩ := h
  cases s <;> cases longer <;> simp [Comparator.symbol] at h <;> subst h <;> simp

theorem comparator?_symbol (s : Comparator) {rest : List Char}
    (hrest : ∀ c ∈ rest.head?, ¬ Lengthens c s) :
    ∃ c cs, s.symbol.toList = c :: cs ∧ Text.isBlank c = false ∧
      comparator? c (cs ++ rest) = some (s, rest) := by
  cases s with
  | exactly => exact ⟨'=', ['='], rfl, by decide, rfl⟩
  | atMost => exact ⟨'<', ['='], rfl, by decide, rfl⟩
  | atLeast => exact ⟨'>', ['='], rfl, by decide, rfl⟩
  | different => exact ⟨'<', ['>'], rfl, by decide, rfl⟩
  | equal =>
    refine ⟨'=', [], rfl, by decide, ?_⟩
    cases rest with
    | nil => rfl
    | cons d rest =>
      have hd : d ≠ '=' := by
        rintro rfl
        exact hrest _ rfl ⟨.exactly, rfl⟩
      simp [comparator?, hd]
  | less =>
    refine ⟨'<', [], rfl, by decide, ?_⟩
    cases rest with
    | nil => rfl
    | cons d rest =>
      have hequal : d ≠ '=' := by
        rintro rfl
        exact hrest _ rfl ⟨.atMost, rfl⟩
      have hgreater : d ≠ '>' := by
        rintro rfl
        exact hrest _ rfl ⟨.different, rfl⟩
      simp [comparator?, hequal, hgreater]
  | greater =>
    refine ⟨'>', [], rfl, by decide, ?_⟩
    cases rest with
    | nil => rfl
    | cons d rest =>
      have hd : d ≠ '=' := by
        rintro rfl
        exact hrest _ rfl ⟨.atLeast, rfl⟩
      simp [comparator?, hd]

theorem startingWith_comparator {c : Char} {s : Comparator} {rest rest' : List Char}
    (h : comparator? c rest = some (s, rest')) :
    startingWith c rest = .token (.comparator s) rest' := by
  unfold startingWith
  split <;> simp_all [comparator?]

theorem next_comparator (s : Comparator) {rest : List Char}
    (hrest : ∀ c ∈ rest.head?, ¬ Lengthens c s) :
    next (s.symbol.toList ++ rest) = .token (.comparator s) rest := by
  obtain ⟨c, cs, hsymbol, hblank, hcomparator⟩ := comparator?_symbol s hrest
  rw [hsymbol, List.cons_append, next_of_not_blank hblank]
  exact startingWith_comparator hcomparator

theorem sequence_comparator (s : Comparator) {rest : List Char} (hrest : EndsComparator rest) :
    sequence (s.symbol.toList ++ rest) = (sequence rest).prepend [.comparator s] := by
  apply sequence_of_token
  apply next_comparator s
  intro c hc hlonger
  obtain ⟨hequal, hgreater⟩ := hrest c hc
  exact hlonger.eq_or_eq.elim hequal hgreater

/-- Reading a quotation undoes the escaping of its text. -/
theorem quotation?_escapeTerm (text rest : List Char) :
    quotation? (Query.escapeTerm text ++ '"' :: rest) = some (text, rest) := by
  induction text with
  | nil => rfl
  | cons c text ih =>
    by_cases hquote : c = '"'
    · subst hquote
      simp [Query.escapeTerm, quotation?, ih]
    · by_cases hbackslash : c = '\\'
      · subst hbackslash
        simp [Query.escapeTerm, quotation?, ih]
      · simp only [Query.escapeTerm, hquote, hbackslash, or_self, if_false, List.cons_append]
        rw [quotation?] <;> simp_all

theorem sequence_quoted (text : String) (rest : List Char) :
    sequence ((Query.quoteTerm text).toList ++ rest) =
      (sequence rest).prepend [.quoted text] := by
  have htext : (Query.quoteTerm text).toList ++ rest =
      '"' :: (Query.escapeTerm text.toList ++ '"' :: rest) := by simp [Query.quoteTerm]
  rw [htext]
  apply sequence_of_token
  rw [next_of_not_blank (by decide)]
  simp [startingWith, quotation?_escapeTerm]

/-- A token that a text can be cut into: every word has the characters of one. -/
def Valid : Token → Prop
  | word text => IsWord text
  | _ => True

theorem startingWith_valid {c : Char} {rest rest' : List Char} {t : Token}
    (hc : Text.isBlank c = false) (h : startingWith c rest = .token t rest') : t.Valid := by
  match t, h with
  | .word text, h =>
    have hdelimiter : isDelimiter c = false := by
      cases hc : isDelimiter c with
      | false => rfl
      | true => exact (startingWith_delimiter hc h).elim
    rw [startingWith_word hdelimiter] at h
    simp only [Step.token.injEq, Token.word.injEq] at h
    obtain ⟨rfl, -⟩ := h
    refine ⟨by simp, fun d hd => ?_⟩
    rw [String.toList_ofList] at hd
    rcases List.mem_cons.1 hd with rfl | hd
    · simp [isWordChar, hc, hdelimiter]
    · exact List.all_eq_true.1 List.all_takeWhile d hd
  | .quoted _, _ => trivial
  | .comparator _, _ => trivial
  | .slash, _ => trivial
  | .leftParen, _ => trivial
  | .rightParen, _ => trivial

theorem next_valid {cs rest : List Char} {t : Token} (h : next cs = .token t rest) :
    t.Valid := by
  unfold next at h
  split at h
  · simp at h
  · next c r hs =>
    have hc : Text.isBlank c = false := by
      have hhead := List.head?_dropWhile_not Text.isBlank cs
      rw [Text.trimStartChars] at hs
      rw [hs] at hhead
      simpa using hhead
    exact startingWith_valid hc h

theorem sequence_valid (cs : List Char) : ∀ t ∈ (sequence cs).tokens, t.Valid := by
  induction cs using sequence.induct with
  | case1 cs hnext =>
    rw [sequence]
    split <;> simp_all
  | case2 cs hnext =>
    rw [sequence]
    split <;> simp_all
  | case3 cs t rest hnext ih =>
    rw [sequence_of_token hnext]
    intro u hu
    rcases List.mem_cons.1 hu with rfl | hu
    · exact next_valid hnext
    · exact ih u hu

end SearchRetrieve.Token
