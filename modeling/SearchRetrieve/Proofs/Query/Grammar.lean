import SearchRetrieve.Query.Parser

/-!
# Derivations of the query grammar

A derivation is a tree with one constructor for each production of the grammar. It spells the
tokens that it derives and denotes a query. Two derivations of the same tokens are equal.
-/
namespace SearchRetrieve

/-- A word names one of the four operators, in any case of its letters. -/
def BoolOp.SpelledBy (op : BoolOp) (word : String) : Prop :=
  op ∈ [BoolOp.and, .or, .not, .prox] ∧ Text.sameIgnoringCase word op.name

namespace BoolOp

theorem spelledBy_iff {op : BoolOp} {word : String} :
    op.SpelledBy word ↔
      (op = .and ∧ Text.asciiLower word = "and") ∨ (op = .or ∧ Text.asciiLower word = "or") ∨
        (op = .not ∧ Text.asciiLower word = "not") ∨
        (op = .prox ∧ Text.asciiLower word = "prox") := by
  have lower : ∀ name ∈ ["and", "or", "not", "prox"], Text.asciiLower name = name := by decide
  simp only [List.mem_cons, List.not_mem_nil, or_false, forall_eq_or_imp, forall_eq] at lower
  obtain ⟨hand, hor, hnot, hprox⟩ := lower
  constructor
  · rintro ⟨hop, hword⟩
    simp only [List.mem_cons, List.not_mem_nil, or_false] at hop
    rcases hop with rfl | rfl | rfl | rfl <;>
      simpa [Text.sameIgnoringCase, name, hand, hor, hnot, hprox] using hword
  · rintro (⟨rfl, h⟩ | ⟨rfl, h⟩ | ⟨rfl, h⟩ | ⟨rfl, h⟩) <;>
      simp [SpelledBy, Text.sameIgnoringCase, name, h, hand, hor, hnot, hprox]

theorem ofWord?_eq_some {word : String} {op : BoolOp} :
    ofWord? word = some op ↔ op.SpelledBy word := by
  rw [spelledBy_iff]
  unfold ofWord?
  generalize Text.asciiLower word = lower
  split <;> simp_all [eq_comm]

/-- A word names one operator at most. -/
theorem SpelledBy.unique {a b : BoolOp} {word : String} (ha : a.SpelledBy word)
    (hb : b.SpelledBy word) : a = b := by
  have h := (ofWord?_eq_some.2 ha).symm.trans (ofWord?_eq_some.2 hb)
  simpa using h

end BoolOp

namespace Grammar

/-- A word that can stand where a relation is expected: one of the known relations, or any name
with a dot in it. -/
def IsRelationWord (word : String) : Prop :=
  (∃ name ∈ ["any", "all", "exact", "within", "adj", "scr", "encloses"],
    Text.sameIgnoringCase word name) ∨ '.' ∈ word.toList

theorem isRelationWord_iff {word : String} :
    Query.isRelationWord word = true ↔ IsRelationWord word := by
  have lower : ∀ name ∈ Query.relationWords, Text.asciiLower name = name := by decide
  simp only [Query.isRelationWord, IsRelationWord, Bool.or_eq_true, List.contains_iff_mem]
  refine or_congr ?_ Iff.rfl
  constructor
  · intro h
    exact ⟨_, h, by simp [Text.sameIgnoringCase, lower _ h]⟩
  · rintro ⟨name, hname, h⟩
    have h : Text.asciiLower word = Text.asciiLower name := by simpa [Text.sameIgnoringCase] using h
    rw [h, lower name hname]
    exact hname

/-- Lower case leaves a dot where it is. -/
theorem dot_mem_asciiLower {word : String} (h : '.' ∈ word.toList) :
    '.' ∈ (Text.asciiLower word).toList := by
  simp only [Text.asciiLower, String.toList_ofList, List.mem_map]
  exact ⟨'.', h, by decide⟩

/-- No word is an operator and a relation at once. -/
theorem not_isRelationWord {op : BoolOp} {word : String} (h : op.SpelledBy word) :
    ¬ IsRelationWord word := by
  rintro (⟨name, hname, hword⟩ | hdot)
  · have hlower : Text.asciiLower word = Text.asciiLower name := by
      simpa [Text.sameIgnoringCase] using hword
    rcases BoolOp.spelledBy_iff.1 h with ⟨-, h⟩ | ⟨-, h⟩ | ⟨-, h⟩ | ⟨-, h⟩ <;>
      rw [h] at hlower <;> clear hword h <;> revert name <;> decide
  · have hdot := dot_mem_asciiLower hdot
    rcases BoolOp.spelledBy_iff.1 h with ⟨-, h⟩ | ⟨-, h⟩ | ⟨-, h⟩ | ⟨-, h⟩ <;>
      rw [h] at hdot <;> revert hdot <;> decide

/-- `term := WORD | QUOTED` -/
inductive TermTree where
  | word (text : String)
  | quoted (text : String)

/-- `'/' WORD (COMPARATOR term)?` -/
inductive ModifierTree where
  | plain (name : String)
  | comparison (name : String) (c : Comparator) (value : TermTree)

/-- `relation := COMPARATOR | RELWORD` -/
inductive RelationTree where
  | comparator (c : Comparator)
  | word (text : String) (known : IsRelationWord text)

/-- `BOOL`, with the operator that the word names. -/
structure OperatorTree where
  word : String
  op : BoolOp
  spelled : op.SpelledBy word

mutual

/-- `clause := '(' query ')' | WORD relation modifiers term | term` -/
inductive ClauseTree where
  | group (inner : QueryTree)
  | search (index : String) (relation : RelationTree) (modifiers : List ModifierTree)
      (term : TermTree)
  | alone (term : TermTree)

/-- `query := clause (BOOL modifiers clause)*` -/
inductive QueryTree where
  | operands (first : ClauseTree) (others : OperandsTree)

/-- `(BOOL modifiers clause)*` -/
inductive OperandsTree where
  | done
  | more (operator : OperatorTree) (modifiers : List ModifierTree) (clause : ClauseTree)
      (others : OperandsTree)

end

def TermTree.token : TermTree → Token
  | .word text => .word text
  | .quoted text => .quoted text

def ModifierTree.tokens : ModifierTree → List Token
  | .plain name => [.slash, .word name]
  | .comparison name c value => [.slash, .word name, .comparator c, value.token]

def RelationTree.token : RelationTree → Token
  | .comparator c => .comparator c
  | .word text _ => .word text

def modifierTokens (ms : List ModifierTree) : List Token := ms.flatMap ModifierTree.tokens

mutual

def ClauseTree.tokens : ClauseTree → List Token
  | .group inner => .leftParen :: (inner.tokens ++ [.rightParen])
  | .search index relation modifiers term =>
    .word index :: relation.token :: (modifierTokens modifiers ++ [term.token])
  | .alone term => [term.token]

def QueryTree.tokens : QueryTree → List Token
  | .operands first others => first.tokens ++ others.tokens

def OperandsTree.tokens : OperandsTree → List Token
  | .done => []
  | .more operator modifiers clause others =>
    .word operator.word :: (modifierTokens modifiers ++ (clause.tokens ++ others.tokens))

end

def TermTree.text : TermTree → String
  | .word text => text
  | .quoted text => text

def ModifierTree.modifier : ModifierTree → Modifier
  | .plain name => ⟨name, none, none⟩
  | .comparison name c value => ⟨name, some c.symbol, some value.text⟩

def RelationTree.base : RelationTree → String
  | .comparator c => c.symbol
  | .word text _ => text

mutual

/-- A term alone is looked for in `cql.serverChoice` under the relation `scr`. -/
def ClauseTree.query : ClauseTree → Query
  | .group inner => inner.query
  | .search index relation modifiers term =>
    .clause index ⟨relation.base, modifiers.map ModifierTree.modifier⟩ term.text
  | .alone term => .clause "cql.serverChoice" ⟨"scr", []⟩ term.text

def QueryTree.query : QueryTree → Query
  | .operands first others => others.query first.query

/-- Operators group to the left, all alike. -/
def OperandsTree.query : OperandsTree → Query → Query
  | .done, left => left
  | .more operator modifiers clause others, left =>
    others.query (.boolean operator.op (modifiers.map ModifierTree.modifier) left clause.query)

end

def EndsModifiers : List Token → Prop
  | .slash :: _ => False
  | .comparator _ :: _ => False
  | _ => True

/-- Tokens after which a clause cannot go on: none, a closing parenthesis, or an operator. -/
def EndsClause : List Token → Prop
  | [] => True
  | .rightParen :: _ => True
  | .word word :: _ => ∃ op : BoolOp, op.SpelledBy word
  | _ => False

def EndsQuery : List Token → Prop
  | [] => True
  | .rightParen :: _ => True
  | _ => False

theorem endsModifiers_term (t : TermTree) (r : List Token) : EndsModifiers (t.token :: r) := by
  cases t <;> trivial

theorem endsModifiers_clause (c : ClauseTree) (r : List Token) :
    EndsModifiers (c.tokens ++ r) := by
  cases c with
  | group inner => trivial
  | search index relation modifiers term => trivial
  | alone term => exact endsModifiers_term term r

theorem endsClause_operands (others : OperandsTree) {r : List Token} (hr : EndsQuery r) :
    EndsClause (others.tokens ++ r) := by
  cases others with
  | done =>
    match r, hr with
    | [], _ => trivial
    | .rightParen :: _, _ => trivial
  | more operator modifiers clause others => exact ⟨operator.op, operator.spelled⟩

theorem TermTree.token_inj {s t : TermTree} (h : s.token = t.token) : s = t := by
  cases s <;> cases t <;> simp_all [TermTree.token]

theorem RelationTree.token_inj {s t : RelationTree} (h : s.token = t.token) : s = t := by
  cases s <;> cases t <;> simp_all [RelationTree.token]

theorem OperatorTree.word_inj {a b : OperatorTree} (h : a.word = b.word) : a = b := by
  obtain ⟨word, op, spelled⟩ := a
  obtain ⟨word', op', spelled'⟩ := b
  obtain rfl : word = word' := h
  obtain rfl := spelled.unique spelled'
  rfl

/-- A comparator belongs to the modifier before it. -/
theorem modifierTokens_ne_comparator {ms : List ModifierTree} {r rest : List Token}
    {c : Comparator} (hr : EndsModifiers r) :
    modifierTokens ms ++ r ≠ .comparator c :: rest := by
  rintro h
  cases ms with
  | nil =>
    obtain rfl : r = .comparator c :: rest := h
    exact hr
  | cons m ms => cases m <;> simp [modifierTokens, ModifierTree.tokens] at h

theorem modifierTokens_inj {ms ms' : List ModifierTree} {r r' : List Token}
    (hr : EndsModifiers r) (hr' : EndsModifiers r')
    (h : modifierTokens ms ++ r = modifierTokens ms' ++ r') : ms = ms' ∧ r = r' := by
  induction ms generalizing ms' with
  | nil =>
    cases ms' with
    | nil => exact ⟨rfl, h⟩
    | cons m' ms' =>
      obtain rfl : r = modifierTokens (m' :: ms') ++ r' := h
      cases m' <;> exact hr.elim
  | cons m ms ih =>
    cases ms' with
    | nil =>
      obtain rfl : modifierTokens (m :: ms) ++ r = r' := h
      cases m <;> exact hr'.elim
    | cons m' ms' =>
      cases m with
      | plain name =>
        cases m' with
        | plain name' =>
          simp only [modifierTokens, List.flatMap_cons, ModifierTree.tokens, List.cons_append,
            List.nil_append, List.cons.injEq, Token.word.injEq, true_and] at h
          obtain ⟨rfl, h⟩ := h
          obtain ⟨rfl, rfl⟩ := ih h
          exact ⟨rfl, rfl⟩
        | comparison name' c' value' =>
          simp only [modifierTokens, List.flatMap_cons, ModifierTree.tokens, List.cons_append,
            List.nil_append, List.cons.injEq] at h
          exact (modifierTokens_ne_comparator hr h.2.2).elim
      | comparison name c value =>
        cases m' with
        | plain name' =>
          simp only [modifierTokens, List.flatMap_cons, ModifierTree.tokens, List.cons_append,
            List.nil_append, List.cons.injEq] at h
          exact (modifierTokens_ne_comparator hr' h.2.2.symm).elim
        | comparison name' c' value' =>
          simp only [modifierTokens, List.flatMap_cons, ModifierTree.tokens, List.cons_append,
            List.nil_append, List.cons.injEq, Token.word.injEq, Token.comparator.injEq,
            true_and] at h
          obtain ⟨rfl, rfl, hvalue, h⟩ := h
          obtain rfl := TermTree.token_inj hvalue
          obtain ⟨rfl, rfl⟩ := ih h
          exact ⟨rfl, rfl⟩

/-- A term alone ends its clause, so no relation follows it. -/
theorem not_endsClause_relation (relation : RelationTree) (rest : List Token) :
    ¬ EndsClause (relation.token :: rest) := by
  cases relation with
  | comparator c => exact id
  | word text known =>
    rintro ⟨op, hop⟩
    exact not_isRelationWord hop known

theorem search_ne_alone {index : String} {relation : RelationTree} {rest r : List Token}
    {term : TermTree} (hr : EndsClause r) :
    .word index :: relation.token :: rest ≠ term.token :: r := by
  intro h
  simp only [List.cons.injEq] at h
  obtain ⟨-, rfl⟩ := h
  exact not_endsClause_relation relation rest hr

mutual

theorem ClauseTree.tokens_unique (d e : ClauseTree) {r r' : List Token} (hr : EndsClause r)
    (hr' : EndsClause r') (h : d.tokens ++ r = e.tokens ++ r') : d = e ∧ r = r' := by
  cases d with
  | group inner =>
    cases e with
    | group inner' =>
      simp only [ClauseTree.tokens, List.cons_append, List.append_assoc, List.cons.injEq,
        true_and] at h
      have ends (r : List Token) : EndsQuery ([.rightParen] ++ r) := trivial
      obtain ⟨rfl, hrest⟩ := inner.tokens_unique inner' (ends r) (ends r') h
      exact ⟨rfl, List.append_cancel_left hrest⟩
    | search index relation modifiers term => simp [ClauseTree.tokens] at h
    | alone term => cases term <;> simp [ClauseTree.tokens, TermTree.token] at h
  | search index relation modifiers term =>
    cases e with
    | group inner => simp [ClauseTree.tokens] at h
    | search index' relation' modifiers' term' =>
      simp only [ClauseTree.tokens, List.cons_append, List.append_assoc, List.cons.injEq,
        Token.word.injEq, List.nil_append] at h
      obtain ⟨rfl, hrelation, h⟩ := h
      obtain rfl := RelationTree.token_inj hrelation
      obtain ⟨rfl, hrest⟩ :=
        modifierTokens_inj (endsModifiers_term term r) (endsModifiers_term term' r') h
      simp only [List.cons.injEq] at hrest
      obtain ⟨hterm, rfl⟩ := hrest
      obtain rfl := TermTree.token_inj hterm
      exact ⟨rfl, rfl⟩
    | alone term' => exact (search_ne_alone hr' h).elim
  | alone term =>
    cases e with
    | group inner => cases term <;> simp [ClauseTree.tokens, TermTree.token] at h
    | search index relation modifiers term' => exact (search_ne_alone hr h.symm).elim
    | alone term' =>
      simp only [ClauseTree.tokens, List.cons_append, List.nil_append, List.cons.injEq] at h
      obtain ⟨hterm, rfl⟩ := h
      obtain rfl := TermTree.token_inj hterm
      exact ⟨rfl, rfl⟩

theorem QueryTree.tokens_unique (d e : QueryTree) {r r' : List Token} (hr : EndsQuery r)
    (hr' : EndsQuery r') (h : d.tokens ++ r = e.tokens ++ r') : d = e ∧ r = r' := by
  cases d with
  | operands first others =>
    cases e with
    | operands first' others' =>
      simp only [QueryTree.tokens, List.append_assoc] at h
      obtain ⟨rfl, hrest⟩ := first.tokens_unique first' (endsClause_operands others hr)
        (endsClause_operands others' hr') h
      obtain ⟨rfl, rfl⟩ := others.tokens_unique others' hr hr' hrest
      exact ⟨rfl, rfl⟩

theorem OperandsTree.tokens_unique (d e : OperandsTree) {r r' : List Token} (hr : EndsQuery r)
    (hr' : EndsQuery r') (h : d.tokens ++ r = e.tokens ++ r') : d = e ∧ r = r' := by
  cases d with
  | done =>
    cases e with
    | done => exact ⟨rfl, h⟩
    | more operator' modifiers' clause' others' =>
      obtain rfl : r = _ := h
      exact hr.elim
  | more operator modifiers clause others =>
    cases e with
    | done =>
      obtain rfl : _ = r' := h
      exact hr'.elim
    | more operator' modifiers' clause' others' =>
      simp only [OperandsTree.tokens, List.cons_append, List.append_assoc, List.cons.injEq,
        Token.word.injEq] at h
      obtain ⟨hword, h⟩ := h
      obtain rfl := OperatorTree.word_inj hword
      obtain ⟨rfl, hclause⟩ := modifierTokens_inj (endsModifiers_clause clause _)
        (endsModifiers_clause clause' _) h
      obtain ⟨rfl, hothers⟩ := clause.tokens_unique clause' (endsClause_operands others hr)
        (endsClause_operands others' hr') hclause
      obtain ⟨rfl, rfl⟩ := others.tokens_unique others' hr hr' hothers
      exact ⟨rfl, rfl⟩

end

end Grammar

end SearchRetrieve
