import SearchRetrieve.Native.Compile
import SearchRetrieve.Proofs.Query.Lexing
import SearchRetrieve.Proofs.Query.Parsing

/-!
# Queries inside queries

The tokens of a text stay the same before any text that cannot go on with its last token, and the
clauses of a query stay the same before an operator. So a query that is put into another one, in
parentheses or as the first operand, keeps its meaning and leaves the meaning of the other as it is.
-/
namespace SearchRetrieve

namespace Token

variable {c : Char} {cs rest text more : List Char} {t : Token} {s : Comparator}

theorem quotation?_append (h : quotation? cs = some (text, rest)) (more : List Char) :
    quotation? (cs ++ more) = some (text, rest ++ more) := by
  fun_induction quotation? cs generalizing text with
  | case1 => simp at h
  | case2 later =>
    obtain ⟨rfl, rfl⟩ := Prod.mk.inj (Option.some.inj h)
    rfl
  | case3 later ih | case4 later ih =>
    obtain ⟨⟨text', rest'⟩, hlater, h⟩ := Option.map_eq_some_iff.1 h
    obtain ⟨rfl, rfl⟩ := Prod.mk.inj h
    simp [quotation?, ih hlater]
  | case5 c later hquote hescaped hbackslash ih =>
    obtain ⟨⟨text', rest'⟩, hlater, h⟩ := Option.map_eq_some_iff.1 h
    obtain ⟨rfl, rfl⟩ := Prod.mk.inj h
    cases later with
    | nil => simp [quotation?] at hlater
    | cons d later =>
      have hmore := ih hlater
      rw [List.cons_append] at hmore ⊢
      rw [List.cons_append, quotation?] <;> simp_all

theorem comparator?_append (h : comparator? c cs = some (s, rest)) (hmore : EndsComparator more) :
    comparator? c (cs ++ more) = some (s, rest ++ more) := by
  cases cs with
  | nil =>
    obtain ⟨hequal, hless, hgreater⟩ := comparator?_single hmore
    unfold comparator? at h
    split at h <;> simp_all
  | cons d cs =>
    rw [List.cons_append]
    unfold comparator? at h
    split at h <;> cases h <;> simp_all [comparator?]

theorem startingWith_append (h : startingWith c cs = .token t rest) (hword : EndsWord more)
    (hcomparator : EndsComparator more) :
    startingWith c (cs ++ more) = .token t (rest ++ more) := by
  cases hc : isDelimiter c with
  | false =>
    rw [startingWith_word hc] at h ⊢
    obtain ⟨rfl, rfl⟩ := Step.token.inj h
    rw [Text.takeWhile_append_of_head? hword, Text.dropWhile_append_of_head? hword]
  | true =>
    have hstep := h
    unfold startingWith at h
    split at h
    · obtain ⟨rfl, rfl⟩ := Step.token.inj h
      rfl
    · obtain ⟨rfl, rfl⟩ := Step.token.inj h
      rfl
    · obtain ⟨rfl, rfl⟩ := Step.token.inj h
      rfl
    · split at h
      · next hquotation =>
        obtain ⟨rfl, rfl⟩ := Step.token.inj h
        simp [startingWith, quotation?_append hquotation]
      · cases h
    · split at h
      · next hsymbol =>
        obtain ⟨rfl, rfl⟩ := Step.token.inj h
        unfold startingWith
        split <;> simp_all [comparator?_append hsymbol hcomparator]
      · obtain ⟨rfl, rfl⟩ := Step.token.inj h
        exact (startingWith_delimiter hc hstep).elim

theorem next_append (h : next cs = .token t rest) (hword : EndsWord more)
    (hcomparator : EndsComparator more) : next (cs ++ more) = .token t (rest ++ more) := by
  induction cs with
  | nil => cases h
  | cons c cs ih =>
    cases hc : Text.isBlank c with
    | true =>
      rw [next_blank hc] at h
      rw [List.cons_append, next_blank hc]
      exact ih h
    | false =>
      rw [next_of_not_blank hc] at h
      rw [List.cons_append, next_of_not_blank hc]
      exact startingWith_append h hword hcomparator

theorem startingWith_ne_finished (c : Char) (cs : List Char) : startingWith c cs ≠ .finished := by
  unfold startingWith
  split
  · simp
  · simp
  · simp
  · split <;> simp
  · split <;> simp

theorem next_append_of_finished (h : next cs = .finished) (more : List Char) :
    next (cs ++ more) = next more := by
  induction cs with
  | nil => rfl
  | cons c cs ih =>
    cases hc : Text.isBlank c with
    | true =>
      rw [next_blank hc] at h
      rw [List.cons_append, next_blank hc]
      exact ih h
    | false =>
      rw [next_of_not_blank hc] at h
      exact (startingWith_ne_finished c cs h).elim

/-- The tokens of a text are those of its beginning and then those of its end, if the beginning is
cut into tokens as a whole and the end does not go on with the last of them. -/
theorem sequence_append {ts : List Token} (h : sequence cs = ⟨ts, true⟩) (hword : EndsWord more)
    (hcomparator : EndsComparator more) :
    sequence (cs ++ more) = (sequence more).prepend ts := by
  induction cs using sequence.induct generalizing ts with
  | case1 cs hnext =>
    have hempty : sequence cs = ⟨[], true⟩ := (sequence_congr hnext).trans sequence_nil
    rw [hempty] at h
    obtain ⟨rfl, -⟩ := Sequence.mk.inj h
    exact sequence_congr (next_append_of_finished hnext more)
  | case2 cs hnext =>
    rw [sequence] at h
    split at h <;> simp_all
  | case3 cs t rest hnext ih =>
    rw [sequence_of_token hnext] at h
    cases hrest : sequence rest with
    | mk later complete =>
      rw [hrest] at h
      obtain ⟨rfl, rfl⟩ := Sequence.mk.inj h
      rw [sequence_of_token (next_append hnext hword hcomparator), ih hrest,
        Sequence.prepend_prepend]

theorem toNat_lt_of_isDelimiter (h : isDelimiter c = true) : c.toNat < 65 := by
  simp only [isDelimiter, Bool.or_eq_true, beq_iff_eq, or_assoc] at h
  rcases h with rfl | rfl | rfl | rfl | rfl | rfl | rfl <;> decide

theorem isWordChar_of_toLower (h : isWordChar c.toLower = true) : isWordChar c = true := by
  unfold Char.toLower at h
  split at h
  · next hcapital =>
    have hlower : 65 ≤ c.toNat := hcapital.1
    have hupper : c.toNat ≤ 90 := hcapital.2
    have hblank : Text.isBlank c = false := by
      simp [Text.isBlank]
      omega
    have hdelimiter : isDelimiter c = false := by
      cases hc : isDelimiter c with
      | false => rfl
      | true =>
        have := toNat_lt_of_isDelimiter hc
        omega
    simp [isWordChar, hblank, hdelimiter]
  · exact h

end Token

/-- The words that name operators are words. -/
theorem BoolOp.SpelledBy.isWord {op : BoolOp} {word : String} (h : op.SpelledBy word) :
    Token.IsWord word := by
  have hnames : ∀ name ∈ ["and", "or", "not", "prox"], Token.IsWord name := by decide
  have hlower : Token.IsWord (Text.asciiLower word) := by
    rcases spelledBy_iff.1 h with ⟨-, h⟩ | ⟨-, h⟩ | ⟨-, h⟩ | ⟨-, h⟩ <;>
      exact hnames _ (by simp [h])
  refine ⟨?_, fun c hc => ?_⟩
  · rintro rfl
    exact hlower.1 rfl
  · apply Token.isWordChar_of_toLower
    apply hlower.2
    simpa [Text.asciiLower] using ⟨c, hc, rfl⟩

namespace Grammar

/-- One more operator and clause after the others. -/
def OperandsTree.extend (operator : OperatorTree) (clause : ClauseTree) :
    OperandsTree → OperandsTree
  | .done => .more operator [] clause .done
  | .more operator' modifiers clause' others =>
    .more operator' modifiers clause' (others.extend operator clause)

def QueryTree.extend (operator : OperatorTree) (clause : ClauseTree) : QueryTree → QueryTree
  | .operands first others => .operands first (others.extend operator clause)

variable (operator : OperatorTree) (clause : ClauseTree)

theorem OperandsTree.tokens_extend : (d : OperandsTree) →
    (d.extend operator clause).tokens = d.tokens ++ .word operator.word :: clause.tokens
  | .done => by simp [OperandsTree.extend, OperandsTree.tokens, modifierTokens]
  | .more _ _ _ others => by
    simp [OperandsTree.extend, OperandsTree.tokens, tokens_extend others]

theorem OperandsTree.query_extend : (d : OperandsTree) → (left : Query) →
    (d.extend operator clause).query left = .join operator.op (d.query left) clause.query
  | .done, _ => rfl
  | .more _ _ _ others, _ => query_extend others _

theorem QueryTree.tokens_extend (d : QueryTree) :
    (d.extend operator clause).tokens = d.tokens ++ .word operator.word :: clause.tokens := by
  obtain ⟨first, others⟩ := d
  simp [QueryTree.extend, QueryTree.tokens, OperandsTree.tokens_extend]

theorem QueryTree.query_extend (d : QueryTree) :
    (d.extend operator clause).query = .join operator.op d.query clause.query := by
  obtain ⟨first, others⟩ := d
  exact others.query_extend operator clause first.query

end Grammar

namespace Query

open Grammar Token

def enclosed : Nat → String → String
  | 0, text => text
  | n + 1, text => "(" ++ enclosed n text ++ ")"

/-- Before any text that does not go on with its last token, the text is cut into the tokens of the
derivation. -/
def Spells (text : String) (d : QueryTree) : Prop :=
  ∀ more, EndsWord more → EndsComparator more →
    sequence (text.toList ++ more) = (sequence more).prepend d.tokens

variable {s t text word : String} {q left right : Query} {op : BoolOp} {d e : QueryTree}

theorem parse_eq_ok_iff_spells : parse text = .ok q ↔ ∃ d, Spells text d ∧ d.query = q := by
  rw [parse_eq_ok]
  constructor
  · rintro ⟨d, hd, hquery⟩
    exact ⟨d, fun more hword hcomparator => sequence_append hd hword hcomparator, hquery⟩
  · rintro ⟨d, hd, hquery⟩
    have hwhole := hd [] (by simp [EndsWord]) (by simp [EndsComparator])
    rw [List.append_nil, sequence_nil] at hwhole
    exact ⟨d, by simpa [Sequence.prepend] using hwhole, hquery⟩

namespace Spells

/-- In parentheses the text is one clause, whatever follows. -/
theorem sequence_group (h : Spells text d) (more : List Char) :
    sequence ('(' :: (text.toList ++ ')' :: more)) =
      (sequence more).prepend (ClauseTree.group d).tokens := by
  have hword : EndsWord (')' :: more) := by simp [EndsWord, isWordChar, isDelimiter]
  have hcomparator : EndsComparator (')' :: more) := by simp [EndsComparator]
  rw [sequence_leftParen, h _ hword hcomparator, sequence_rightParen]
  simp [ClauseTree.tokens]

theorem parentheses (h : Spells text d) :
    Spells ("(" ++ text ++ ")") (.operands (.group d) .done) := by
  intro more _ _
  have htext : ("(" ++ text ++ ")").toList ++ more = '(' :: (text.toList ++ ')' :: more) := by
    simp
  rw [htext, h.sequence_group]
  simp [QueryTree.tokens, OperandsTree.tokens]

theorem join (hs : Spells s d) (ht : Spells t e) (hop : op.SpelledBy word) :
    Spells (s ++ " " ++ word ++ " " ++ ("(" ++ t ++ ")"))
      (d.extend ⟨word, op, hop⟩ (.group e)) := by
  intro more _ _
  have hblank : Text.isBlank ' ' = true := by decide
  have hspace (rest : List Char) : EndsWord (' ' :: rest) ∧ EndsComparator (' ' :: rest) := by
    simp [EndsWord, EndsComparator, isWordChar, hblank]
  have htext : (s ++ " " ++ word ++ " " ++ ("(" ++ t ++ ")")).toList ++ more =
      s.toList ++ ' ' :: (word.toList ++ ' ' :: '(' :: (t.toList ++ ')' :: more)) := by
    simp
  rw [htext, hs _ (hspace _).1 (hspace _).2, sequence_blank hblank,
    sequence_word hop.isWord (hspace _).1, sequence_blank hblank, ht.sequence_group]
  simp [QueryTree.tokens_extend]

end Spells

theorem parse_enclosed (h : parse text = .ok q) (n : Nat) : parse (enclosed n text) = .ok q := by
  induction n with
  | zero => exact h
  | succ n ih =>
    obtain ⟨d, hd, hquery⟩ := parse_eq_ok_iff_spells.1 ih
    exact parse_eq_ok_iff_spells.2 ⟨_, hd.parentheses, hquery⟩

theorem parse_join_group (hs : parse s = .ok left) (ht : parse t = .ok right)
    (hop : op.SpelledBy word) :
    parse (s ++ " " ++ word ++ " " ++ ("(" ++ t ++ ")")) = .ok (.join op left right) := by
  obtain ⟨d, hd, rfl⟩ := parse_eq_ok_iff_spells.1 hs
  obtain ⟨e, he, rfl⟩ := parse_eq_ok_iff_spells.1 ht
  exact parse_eq_ok_iff_spells.2 ⟨_, hd.join he hop, d.query_extend _ _⟩

/-- Two queries in parentheses around an operator are read as the operator over exactly these two
queries, with any further parentheses and also without those of the first query. The native query
is that of the operator over the native queries of the two. -/
theorem parse_join (hs : parse s = .ok left) (ht : parse t = .ok right) (hop : op.SpelledBy word) :
    (∀ n, parse (enclosed n s) = .ok left ∧ parse (enclosed n t) = .ok right) ∧
    ∀ m n,
      parse (enclosed m s ++ " " ++ word ++ " " ++ enclosed (n + 1) t) =
        .ok (.boolean op [] left right) ∧
      ∀ schema, (parse (enclosed m s ++ " " ++ word ++ " " ++ enclosed (n + 1) t)).map
        (native schema) = .ok (Native.joinTexts op (left.native schema) (right.native schema)) := by
  refine ⟨fun n => ⟨parse_enclosed hs n, parse_enclosed ht n⟩, fun m n => ?_⟩
  have hjoin := parse_join_group (parse_enclosed hs m) (parse_enclosed ht n) hop
  have hnative (schema : Schema) : (Query.join op left right).native schema =
      Native.joinTexts op (left.native schema) (right.native schema) := rfl
  refine ⟨hjoin, fun schema => ?_⟩
  rw [← hnative schema]
  exact congrArg (Except.map (native schema)) hjoin

/-- A term that is an operator's name, and a quotation that looks like the end of its group. -/
theorem parse_join_brackets :
    parse "(and) OR (\"x) or (y\" not b)" =
      .ok (.boolean .or [] (.bare "and") (.boolean .not [] (.bare "x) or (y") (.bare "b"))) := by
  have hnot : BoolOp.SpelledBy .not "not" := BoolOp.ofWord?_eq_some.1 (by decide)
  have hs : parse "and" = .ok (.bare "and") :=
    parse_eq_ok.2 ⟨.operands (.alone (.word "and")) .done, by decide +kernel, rfl⟩
  have htokens : sequence "\"x) or (y\" not b".toList =
      ⟨[.quoted "x) or (y", .word "not", .word "b"], true⟩ := by decide +kernel
  have ht : parse "\"x) or (y\" not b" =
      .ok (.boolean .not [] (.bare "x) or (y") (.bare "b")) :=
    parse_eq_ok.2 ⟨.operands (.alone (.quoted "x) or (y"))
      (.more ⟨"not", .not, hnot⟩ [] (.alone (.word "b")) .done), htokens, rfl⟩
  have hop : BoolOp.SpelledBy .or "OR" := BoolOp.ofWord?_eq_some.1 (by decide)
  exact ((parse_join hs ht hop).2 1 0).1

end Query

end SearchRetrieve
