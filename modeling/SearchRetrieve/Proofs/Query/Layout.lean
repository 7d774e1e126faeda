import Mathlib.Data.List.Chain
import Mathlib.Logic.Function.Iterate
import SearchRetrieve.Proofs.Query.Lexing

/-!
# Tokens with white space between them

A list of tokens is written with any white space before, between and after its tokens, and with
none where two of them cannot be taken for one. Call after call, such a text gives its tokens
again. Every text comes to its end within one call more than it has characters.
-/
namespace SearchRetrieve.Token

/-- What a call leaves of a text: nothing, if no token begins the text. -/
def remaining (cs : List Char) : List Char :=
  match next cs with
  | .token _ rest => rest
  | .finished => []
  | .unterminated => []

/-- What the call after `n` others finds. -/
def call (cs : List Char) (n : Nat) : Step := next (remaining^[n] cs)

/-- The calls on a text give these tokens, then how the text ends, and from then on its end. -/
structure Delivers (cs : List Char) (s : Sequence) : Prop where
  tokens : ∀ n (h : n < s.tokens.length), ∃ rest, call cs n = .token s.tokens[n] rest
  ending : call cs s.tokens.length = if s.complete then .finished else .unterminated
  afterwards : ∀ n, s.tokens.length < n → call cs n = .finished

variable {t u : Token} {c : Char} {cs rest last : List Char}

theorem call_succ (h : next cs = .token t rest) (n : Nat) : call cs (n + 1) = call rest n := by
  have hrest : remaining cs = rest := by simp [remaining, h]
  rw [call, Function.iterate_succ_apply, hrest, call]

theorem call_of_ended (h : remaining cs = []) (n : Nat) : call cs (n + 1) = .finished := by
  have hnil : remaining [] = [] := rfl
  rw [call, Function.iterate_succ_apply, h, Function.iterate_fixed hnil]
  rfl

namespace Delivers

theorem cons {s : Sequence} (hnext : next cs = .token t rest) (h : Delivers rest s) :
    Delivers cs (s.prepend [t]) where
  tokens n hn := by
    cases n with
    | zero => exact ⟨rest, hnext⟩
    | succ n =>
      rw [call_succ hnext]
      exact h.tokens n (by simpa [Sequence.prepend] using hn)
  ending := (call_succ hnext _).trans h.ending
  afterwards n hn := by
    cases n with
    | zero => simp at hn
    | succ n =>
      rw [call_succ hnext]
      exact h.afterwards n (by simpa [Sequence.prepend] using hn)

theorem ended {complete : Bool}
    (hnext : next cs = if complete then .finished else .unterminated) :
    Delivers cs ⟨[], complete⟩ where
  tokens n hn := by simp at hn
  ending := hnext
  afterwards n hn := by
    obtain ⟨m, rfl⟩ := Nat.exists_eq_add_one_of_ne_zero (Nat.ne_of_gt hn)
    apply call_of_ended
    cases complete <;> simp_all [remaining]

end Delivers

theorem sequence_of_finished (h : next cs = .finished) : sequence cs = ⟨[], true⟩ := by
  rw [sequence]
  split <;> simp_all

theorem sequence_of_unterminated (h : next cs = .unterminated) : sequence cs = ⟨[], false⟩ := by
  rw [sequence]
  split <;> simp_all

theorem sequence_delivers (cs : List Char) : Delivers cs (sequence cs) := by
  induction cs using sequence.induct with
  | case1 cs hnext =>
    rw [sequence_of_finished hnext]
    exact .ended hnext
  | case2 cs hnext =>
    rw [sequence_of_unterminated hnext]
    exact .ended hnext
  | case3 cs t rest hnext ih =>
    rw [sequence_of_token hnext]
    exact .cons hnext ih

theorem length_tokens_le (cs : List Char) : (sequence cs).tokens.length ≤ cs.length := by
  induction cs using sequence.induct with
  | case1 cs hnext => simp [sequence_of_finished hnext]
  | case2 cs hnext => simp [sequence_of_unterminated hnext]
  | case3 cs t rest hnext ih =>
    have hshorter := next_length hnext
    simp only [sequence_of_token hnext, Sequence.prepend, List.length_append,
      List.length_singleton]
    omega

/-- White space aside, the text is a quotation that is never closed. -/
def Unclosed (cs : List Char) : Prop :=
  ∃ body, Text.trimStartChars cs = '"' :: body ∧ quotation? body = none

theorem unclosed_of_next (h : next cs = .unterminated) : Unclosed cs := by
  unfold next at h
  split at h
  · cases h
  · next c body hs =>
    unfold startingWith at h
    split at h
    · cases h
    · cases h
    · cases h
    · split at h
      · cases h
      · next hbody => exact ⟨body, hs, hbody⟩
    · split at h <;> cases h

def text : Token → String
  | word w => w
  | quoted s => Query.quoteTerm s
  | comparator s => s.symbol
  | slash => "/"
  | leftParen => "("
  | rightParen => ")"

/-- Side by side the two are read as other tokens: two words are one word, and a comparator goes on
with the first character of another one. -/
def Fuses : Token → Token → Prop
  | word _, word _ => True
  | comparator s, comparator s' => ∃ c ∈ s'.symbol.toList.head?, Lengthens c s
  | _, _ => False

structure Spaced where
  gap : List Char
  token : Token

def layout : List Spaced → List Char → List Char
  | [], last => last
  | p :: ps, last => p.gap ++ (p.token.text.toList ++ layout ps last)

/-- All that stands between tokens is white space, and there is some wherever it takes some. -/
structure Legible (ps : List Spaced) (last : List Char) : Prop where
  valid : ∀ p ∈ ps, p.token.Valid
  gaps : ∀ p ∈ ps, ∀ c ∈ p.gap, Text.isBlank c = true
  last : ∀ c ∈ last, Text.isBlank c = true
  apart : ps.IsChain fun p q => q.gap = [] → ¬ p.token.Fuses q.token

def GrowsBy (c : Char) : Token → Prop
  | word _ => isWordChar c = true
  | comparator s => Lengthens c s
  | _ => False

theorem sequence_token (ht : t.Valid) (hrest : ∀ c ∈ rest.head?, ¬ t.GrowsBy c) :
    sequence (t.text.toList ++ rest) = (sequence rest).prepend [t] := by
  cases t with
  | word w => exact sequence_word ht fun c hc => by simpa [GrowsBy] using hrest c hc
  | quoted s => exact sequence_quoted s rest
  | comparator s => exact sequence_of_token (next_comparator s hrest)
  | slash => exact sequence_slash rest
  | leftParen => exact sequence_leftParen rest
  | rightParen => exact sequence_rightParen rest

theorem not_growsBy_of_isBlank (hc : Text.isBlank c = true) (t : Token) : ¬ t.GrowsBy c := by
  intro h
  cases t with
  | word w => simp [not_blank_of_word h] at hc
  | comparator s => rcases Lengthens.eq_or_eq h with rfl | rfl <;> simp [Text.isBlank] at hc
  | quoted _ | slash | leftParen | rightParen => exact h

/-- The first character of a token tells what it is. -/
theorem exists_head (ht : t.Valid) : ∃ c, t.text.toList.head? = some c ∧
    ((∃ w, t = word w) ∧ isWordChar c = true ∨
      (∃ s, t = comparator s) ∧ c ∈ ['=', '<', '>'] ∨ c ∈ ['"', '/', '(', ')']) := by
  cases t with
  | word w =>
    cases hw : w.toList with
    | nil => exact (ht.1 (String.toList_eq_nil_iff.1 hw)).elim
    | cons c cs => exact ⟨c, by simp [text, hw], Or.inl ⟨⟨w, rfl⟩, ht.2 c (by simp [hw])⟩⟩
  | comparator s =>
    cases s <;> exact ⟨_, rfl, Or.inr (Or.inl ⟨⟨_, rfl⟩, by decide⟩)⟩
  | quoted s => exact ⟨'"', by simp [text, Query.quoteTerm], by simp⟩
  | slash => exact ⟨'/', rfl, by simp⟩
  | leftParen => exact ⟨'(', rfl, by simp⟩
  | rightParen => exact ⟨')', rfl, by simp⟩

theorem fuses_of_growsBy (hu : u.Valid) (hc : u.text.toList.head? = some c)
    (h : t.GrowsBy c) : t.Fuses u := by
  obtain ⟨d, hd, hkind⟩ := exists_head hu
  obtain rfl : c = d := Option.some.inj (hc.symm.trans hd)
  cases t with
  | word w =>
    have hdelimiter : isDelimiter c = false := by
      have hword : isWordChar c = true := h
      simp only [isWordChar, Bool.and_eq_true, Bool.not_eq_true'] at hword
      exact hword.2
    rcases hkind with ⟨⟨w', rfl⟩, -⟩ | ⟨-, hsymbol⟩ | hother
    · trivial
    · simp_all [isDelimiter]
    · simp_all [isDelimiter]
  | comparator s =>
    have hsecond : c = '=' ∨ c = '>' := Lengthens.eq_or_eq h
    rcases hkind with ⟨-, hword⟩ | ⟨⟨s', rfl⟩, -⟩ | hother
    · rcases hsecond with rfl | rfl <;> exact absurd hword (by decide)
    · exact ⟨c, hc, h⟩
    · rcases hsecond with rfl | rfl <;> simp at hother
  | quoted _ | slash | leftParen | rightParen => exact h.elim

variable {ps : List Spaced} {p : Spaced}

namespace Legible

theorem tail (h : Legible (p :: ps) last) : Legible ps last where
  valid q hq := h.valid q (by simp [hq])
  gaps q hq := h.gaps q (by simp [hq])
  last := h.last
  apart := h.apart.tail

theorem not_growsBy (h : Legible (p :: ps) last) :
    ∀ c ∈ (layout ps last).head?, ¬ p.token.GrowsBy c := by
  intro c hc
  cases ps with
  | nil => exact not_growsBy_of_isBlank (h.last c (List.mem_of_mem_head? hc)) p.token
  | cons q ps =>
    have hq : q.token.Valid := h.valid q (by simp)
    rw [layout] at hc
    cases hgap : q.gap with
    | nil =>
      obtain ⟨d, hd, -⟩ := exists_head hq
      have hhead : d = c := by simpa [hgap, List.head?_append, hd] using hc
      subst hhead
      intro hgrows
      exact (List.isChain_cons_cons.1 h.apart).1 hgap (fuses_of_growsBy hq hd hgrows)
    | cons b gap =>
      have hhead : b = c := by simpa [hgap] using hc
      subst hhead
      exact not_growsBy_of_isBlank (h.gaps q (by simp) b (by simp [hgap])) p.token

end Legible

theorem sequence_blanks {gap : List Char} (hgap : ∀ c ∈ gap, Text.isBlank c = true)
    (rest : List Char) : sequence (gap ++ rest) = sequence rest := by
  induction gap with
  | nil => rfl
  | cons c gap ih =>
    rw [List.cons_append, sequence_blank (hgap c (by simp)), ih fun d hd => hgap d (by simp [hd])]

theorem sequence_layout (h : Legible ps last) :
    sequence (layout ps last) = ⟨ps.map Spaced.token, true⟩ := by
  induction ps with
  | nil => simpa [layout] using sequence_blanks h.last []
  | cons p ps ih =>
    rw [layout, sequence_blanks (h.gaps p (by simp)),
      sequence_token (h.valid p (by simp)) h.not_growsBy, ih h.tail]
    rfl

/-- The calls on a list of tokens, whatever white space is chosen for it, give the tokens one by
one and from then on the end. On any text the first call that gives no token comes after at most as
many as the text has characters, and it finds the end or a quotation that is never closed. -/
theorem layout_reads_back :
    (∀ (ps : List Spaced) (last : List Char), Legible ps last →
      sequence (layout ps last) = ⟨ps.map Spaced.token, true⟩ ∧
      (∀ n (h : n < ps.length), ∃ rest, call (layout ps last) n = .token ps[n].token rest) ∧
      ∀ n, ps.length ≤ n → call (layout ps last) n = .finished) ∧
    ∀ cs : List Char, ∃ n ≤ cs.length,
      (∀ i < n, ∃ t rest, call cs i = .token t rest) ∧
      (call cs n = .finished ∨ call cs n = .unterminated ∧ Unclosed (remaining^[n] cs)) ∧
      ∀ i, n < i → call cs i = .finished := by
  constructor
  · intro ps last h
    have hdelivers := sequence_delivers (layout ps last)
    rw [sequence_layout h] at hdelivers
    refine ⟨sequence_layout h, fun n hn => ?_, fun n hn => ?_⟩
    · obtain ⟨rest, hcall⟩ := hdelivers.tokens n (by simpa using hn)
      exact ⟨rest, by simpa using hcall⟩
    · rcases Nat.eq_or_lt_of_le hn with rfl | hlater
      · simpa using hdelivers.ending
      · exact hdelivers.afterwards n (by simpa using hlater)
  · intro cs
    have hdelivers := sequence_delivers cs
    refine ⟨(sequence cs).tokens.length, length_tokens_le cs, fun i hi => ?_, ?_,
      hdelivers.afterwards⟩
    · exact ⟨_, hdelivers.tokens i hi⟩
    · have hending := hdelivers.ending
      split at hending
      · exact Or.inl hending
      · exact Or.inr ⟨hending, unclosed_of_next hending⟩

/-- Tokens that touch: a comparator before a longer one that it cannot go on with, a quotation that
holds a quote and ends with a backslash, and the word after it. -/
theorem layout_reads_back_touching :
    let ps : List Spaced := [⟨[' '], word "title"⟩, ⟨[], comparator .greater⟩,
      ⟨[], comparator .atLeast⟩, ⟨[], quoted "a\"\\"⟩, ⟨[], word "and"⟩, ⟨['\t'], word "x"⟩]
    layout ps ['\n'] = " title>>=\"a\\\"\\\\\"and\tx\n".toList ∧ Legible ps ['\n'] ∧
      sequence (layout ps ['\n']) = ⟨ps.map Spaced.token, true⟩ ∧
      call (layout ps ['\n']) 6 = .finished := by
  intro ps
  have happart : ¬ Fuses (comparator .greater) (comparator .atLeast) := by
    rintro ⟨c, hc, longer, h⟩
    obtain rfl : '>' = c := by simpa [Comparator.symbol] using hc
    cases longer <;> simp [Comparator.symbol] at h
  have hothers : ¬ Fuses (word "title") (comparator .greater) ∧
      ¬ Fuses (comparator .atLeast) (quoted "a\"\\") ∧ ¬ Fuses (quoted "a\"\\") (word "and") :=
    ⟨id, id, id⟩
  have hwords : IsWord "title" ∧ IsWord "and" ∧ IsWord "x" := by decide
  have hlegible : Legible ps ['\n'] := by
    refine ⟨?_, ?_, ?_, ?_⟩
    · simp [ps, Valid, hwords]
    · simp [ps, Text.isBlank]
    · simp [Text.isBlank]
    · simp [ps, happart, hothers]
  obtain ⟨hsequence, -, hend⟩ := layout_reads_back.1 ps ['\n'] hlegible
  exact ⟨by decide, hlegible, hsequence, hend 6 (by decide)⟩

end SearchRetrieve.Token
