import SearchRetrieve.Proofs.Fallible
import SearchRetrieve.Proofs.Query.Grammar

/-!
# Parsing is derivation

Whatever the parser reads has a derivation, and whatever has a derivation is read. The parser
refuses a text that ends inside a quotation because it looks one token ahead.
-/
namespace SearchRetrieve

namespace Query

open Grammar

variable {complete : Bool} {ts : List Token}

/-- There is something to look at: a token, or the end of a text that is cut into tokens as a
whole. -/
def Visible (complete : Bool) (rest : List Token) : Prop := rest ≠ [] ∨ complete = true

theorem look_eq_ok {rest : List Token} {u : Unit} :
    look complete rest = .ok u ↔ Visible complete rest := by
  cases rest <;> cases complete <;> simp [look, Visible]

theorem parseTerm_sound {p : Parsed Token String ts.length}
    (h : parseTerm complete ts = .ok p) :
    ∃ t : TermTree, ts = t.token :: p.rest ∧ p.value = t.text ∧ Visible complete p.rest := by
  unfold parseTerm at h
  split at h
  · obtain ⟨_, hlook, h⟩ := ok_of_bind h
    obtain rfl := Except.ok.inj h
    exact ⟨.word _, rfl, rfl, look_eq_ok.1 hlook⟩
  · obtain ⟨_, hlook, h⟩ := ok_of_bind h
    obtain rfl := Except.ok.inj h
    exact ⟨.quoted _, rfl, rfl, look_eq_ok.1 hlook⟩
  · simp at h

theorem parseComparison_sound {name : String} {p : Parsed Token Modifier (ts.length + 1)}
    (hts : Visible complete ts) (h : parseComparison complete name ts = .ok p) :
    ∃ m : ModifierTree, .slash :: .word name :: ts = m.tokens ++ p.rest ∧
      p.value = m.modifier ∧ Visible complete p.rest := by
  unfold parseComparison at h
  split at h
  · next c rest =>
    obtain ⟨_, hlook, h⟩ := ok_of_bind h
    obtain ⟨value, hvalue, h⟩ := ok_of_bind h
    obtain rfl := Except.ok.inj h
    obtain ⟨t, hrest, ht, hvisible⟩ := parseTerm_sound hvalue
    refine ⟨.comparison name c t, ?_, ?_, hvisible⟩
    · simpa [ModifierTree.tokens, Parsed.weaken, Parsed.map] using hrest
    · simp [ModifierTree.modifier, Parsed.weaken, Parsed.map, ht]
  · obtain rfl := Except.ok.inj h
    exact ⟨.plain name, rfl, rfl, hts⟩

theorem parseModifier_sound {p : Parsed Token Modifier ts.length}
    (h : parseModifier complete ts = .ok p) :
    ∃ m : ModifierTree, .slash :: ts = m.tokens ++ p.rest ∧ p.value = m.modifier ∧
      Visible complete p.rest := by
  unfold parseModifier at h
  split at h
  · obtain ⟨_, hlook, h⟩ := ok_of_bind h
    exact parseComparison_sound (look_eq_ok.1 hlook) h
  · simp at h

theorem parseModifiers_sound {p : Parsed Token (List Modifier) (ts.length + 1)}
    (hts : Visible complete ts) (h : parseModifiers complete ts = .ok p) :
    ∃ ms : List ModifierTree, ts = modifierTokens ms ++ p.rest ∧
      p.value = ms.map ModifierTree.modifier ∧ Visible complete p.rest := by
  induction ts using parseModifiers.induct with
  | case1 rest ih =>
    unfold parseModifiers at h
    obtain ⟨_, hlook, h⟩ := ok_of_bind h
    obtain ⟨first, hfirst, h⟩ := ok_of_bind h
    obtain ⟨others, hothers, h⟩ := ok_of_bind h
    obtain rfl := Except.ok.inj h
    obtain ⟨m, htokens, hm, hvisible⟩ := parseModifier_sound hfirst
    obtain ⟨ms, hrest, hms, hvisible⟩ := ih first hvisible hothers
    refine ⟨m :: ms, ?_, ?_, hvisible⟩
    · refine htokens.trans ((congrArg (m.tokens ++ ·) hrest).trans ?_)
      simp [modifierTokens, Parsed.weaken, Parsed.map]
    · simp [Parsed.weaken, Parsed.map, hm, hms]
  | case2 ts hslash =>
    rw [parseModifiers.eq_2 complete ts hslash] at h
    obtain rfl := Except.ok.inj h
    exact ⟨[], rfl, rfl, hts⟩

theorem parseRelationTail_sound {index : String} (relation : RelationTree)
    {p : Parsed Token Query ts.length} (hts : Visible complete ts)
    (h : parseRelationTail complete index relation.base ts = .ok p) :
    ∃ d : ClauseTree, .word index :: relation.token :: ts = d.tokens ++ p.rest ∧
      p.value = d.query ∧ Visible complete p.rest := by
  unfold parseRelationTail at h
  obtain ⟨modifiers, hmodifiers, h⟩ := ok_of_bind h
  obtain ⟨term, hterm, h⟩ := ok_of_bind h
  obtain rfl := Except.ok.inj h
  obtain ⟨ms, htokens, hms, -⟩ := parseModifiers_sound hts hmodifiers
  obtain ⟨t, hrest, ht, hvisible⟩ := parseTerm_sound hterm
  refine ⟨.search index relation ms t, ?_, ?_, hvisible⟩
  · have hts := htokens.trans (congrArg (modifierTokens ms ++ ·) hrest)
    simpa [ClauseTree.tokens, Parsed.weaken, Parsed.map] using hts
  · simp [ClauseTree.query, Parsed.weaken, Parsed.map, hms, ht]

theorem parseAfterWord_sound {word : String} {p : Parsed Token Query (ts.length + 1)}
    (hts : Visible complete ts) (h : parseAfterWord complete word ts = .ok p) :
    ∃ d : ClauseTree, .word word :: ts = d.tokens ++ p.rest ∧ p.value = d.query ∧
      Visible complete p.rest := by
  unfold parseAfterWord at h
  split at h
  · obtain ⟨_, hlook, h⟩ := ok_of_bind h
    obtain ⟨found, hfound, h⟩ := ok_of_bind h
    obtain rfl := Except.ok.inj h
    exact parseRelationTail_sound (.comparator _) (look_eq_ok.1 hlook) hfound
  · split at h
    · obtain rfl := Except.ok.inj h
      exact ⟨.alone (.word word), rfl, rfl, hts⟩
    · split at h
      · next hrelation =>
        obtain ⟨_, hlook, h⟩ := ok_of_bind h
        obtain ⟨found, hfound, h⟩ := ok_of_bind h
        obtain rfl := Except.ok.inj h
        exact parseRelationTail_sound (.word _ (isRelationWord_iff.1 hrelation))
          (look_eq_ok.1 hlook) hfound
      · simp at h
  · obtain rfl := Except.ok.inj h
    exact ⟨.alone (.word word), rfl, rfl, hts⟩

def ClauseSound (complete : Bool) (ts : List Token) : Prop :=
  ∀ p, parseClause complete ts = .ok p →
    ∃ d : ClauseTree, ts = d.tokens ++ p.rest ∧ p.value = d.query ∧ Visible complete p.rest

def QuerySound (complete : Bool) (ts : List Token) : Prop :=
  ∀ p, parseQuery complete ts = .ok p →
    ∃ d : QueryTree, ts = d.tokens ++ p.rest ∧ p.value = d.query ∧ Visible complete p.rest

def OperandsSound (complete : Bool) (left : Query) (ts : List Token) : Prop :=
  ∀ p, Visible complete ts → parseOperands complete left ts = .ok p →
    ∃ d : OperandsTree, ts = d.tokens ++ p.rest ∧ p.value = d.query left ∧
      Visible complete p.rest

theorem clauseSound_group {rest : List Token} (ih : QuerySound complete rest) :
    ClauseSound complete (.leftParen :: rest) := by
  intro p h
  unfold parseClause at h
  obtain ⟨_, hlook, h⟩ := ok_of_bind h
  obtain ⟨inner, hinner, h⟩ := ok_of_bind h
  split at h
  · next after hafter =>
    obtain ⟨_, hlook, h⟩ := ok_of_bind h
    obtain rfl := Except.ok.inj h
    obtain ⟨d, hd, hquery, -⟩ := ih inner hinner
    refine ⟨.group d, ?_, hquery, look_eq_ok.1 hlook⟩
    have hrest := hd.trans (congrArg (d.tokens ++ ·) hafter)
    simpa [ClauseTree.tokens] using hrest
  · simp at h

theorem querySound_of_clause {ts : List Token} (hclause : ClauseSound complete ts)
    (hoperands : ∀ first : Parsed Token Query ts.length,
      OperandsSound complete first.value first.rest) : QuerySound complete ts := by
  intro p h
  unfold parseQuery at h
  obtain ⟨first, hfirst, h⟩ := ok_of_bind h
  obtain ⟨whole, hwhole, h⟩ := ok_of_bind h
  obtain rfl := Except.ok.inj h
  obtain ⟨c, hc, hcquery, hvisible⟩ := hclause first hfirst
  obtain ⟨os, hos, hosquery, hvisible⟩ := hoperands first whole hvisible hwhole
  refine ⟨.operands c os, ?_, ?_, hvisible⟩
  · have hts := hc.trans (congrArg (c.tokens ++ ·) hos)
    simpa [QueryTree.tokens, Parsed.weaken] using hts
  · simp [QueryTree.query, Parsed.weaken, hosquery, hcquery]

theorem operandsSound_more {left : Query} {word : String} {rest : List Token} {op : BoolOp}
    (hop : BoolOp.ofWord? word = some op)
    (hclause : ∀ modifiers : Parsed Token (List Modifier) (rest.length + 1),
      ClauseSound complete modifiers.rest)
    (hothers : ∀ (modifiers : Parsed Token (List Modifier) (rest.length + 1))
      (right : Parsed Token Query modifiers.rest.length),
      OperandsSound complete (.boolean op modifiers.value left right.value) right.rest) :
    OperandsSound complete left (.word word :: rest) := by
  intro p hts h
  unfold parseOperands at h
  simp only [hop] at h
  obtain ⟨_, hlook, h⟩ := ok_of_bind h
  obtain ⟨modifiers, hmodifiers, h⟩ := ok_of_bind h
  obtain ⟨right, hright, h⟩ := ok_of_bind h
  obtain ⟨whole, hwhole, h⟩ := ok_of_bind h
  obtain rfl := Except.ok.inj h
  obtain ⟨ms, hms, hmsvalue, -⟩ := parseModifiers_sound (look_eq_ok.1 hlook) hmodifiers
  obtain ⟨c, hc, hcquery, hvisible⟩ := hclause modifiers right hright
  obtain ⟨os, hos, hosquery, hvisible⟩ := hothers modifiers right whole hvisible hwhole
  refine ⟨.more ⟨word, op, BoolOp.ofWord?_eq_some.1 hop⟩ ms c os, ?_, ?_, hvisible⟩
  · have hafter := hc.trans (congrArg (c.tokens ++ ·) hos)
    have hrest := hms.trans (congrArg (modifierTokens ms ++ ·) hafter)
    simpa [OperandsTree.tokens, Parsed.weaken] using hrest
  · simp [OperandsTree.query, Parsed.weaken, hosquery, hcquery, hmsvalue]

theorem parse_sound_all (complete : Bool) :
    (∀ ts, ClauseSound complete ts) ∧ (∀ ts, QuerySound complete ts) ∧
      ∀ left ts, OperandsSound complete left ts := by
  -- one case for each branch of the three parsers, with what their recursive calls read
  apply parseClause.mutual_induct
  case case1 => exact fun rest ih => clauseSound_group ih
  case case2 =>
    intro term rest p h
    unfold parseClause at h
    obtain ⟨_, hlook, h⟩ := ok_of_bind h
    obtain rfl := Except.ok.inj h
    exact ⟨.alone (.quoted term), rfl, rfl, look_eq_ok.1 hlook⟩
  case case3 =>
    intro word rest p h
    unfold parseClause at h
    obtain ⟨_, hlook, h⟩ := ok_of_bind h
    exact parseAfterWord_sound (look_eq_ok.1 hlook) h
  case case4 =>
    intro ts hparen hquoted hword p h
    rw [parseClause.eq_4 complete ts hparen hquoted hword] at h
    simp at h
  case case5 => exact fun ts => querySound_of_clause
  case case6 => exact fun left word rest op => operandsSound_more
  case case7 =>
    intro left word rest hop p hts h
    unfold parseOperands at h
    simp only [hop] at h
    obtain rfl := Except.ok.inj h
    exact ⟨.done, rfl, rfl, hts⟩
  case case8 =>
    intro left ts hword p hts h
    rw [parseOperands.eq_2 complete left ts hword] at h
    obtain rfl := Except.ok.inj h
    exact ⟨.done, rfl, rfl, hts⟩

@[simp] theorem look_complete (rest : List Token) : look true rest = .ok () :=
  look_eq_ok.2 (Or.inr rfl)

theorem parseTerm_complete (t : TermTree) (r : List Token) :
    ∃ h, parseTerm true (t.token :: r) = .ok ⟨t.text, r, h⟩ := by
  cases t <;> refine ⟨by simp, ?_⟩ <;>
    simp only [parseTerm, TermTree.token, TermTree.text, look_complete, ok_bind] <;> rfl

theorem parseModifier_complete (m : ModifierTree) {r : List Token}
    (hr : ∀ c rest, r ≠ .comparator c :: rest) :
    ∃ ts, m.tokens ++ r = .slash :: ts ∧
      ∃ h, parseModifier true ts = .ok ⟨m.modifier, r, h⟩ := by
  cases m with
  | plain name =>
    refine ⟨.word name :: r, rfl, by simp, ?_⟩
    simp only [parseModifier, look_complete, ok_bind]
    unfold parseComparison
    split
    · next c rest => exact (hr c rest rfl).elim
    · rfl
  | comparison name c value =>
    obtain ⟨h, hvalue⟩ := parseTerm_complete value r
    refine ⟨.word name :: .comparator c :: value.token :: r, rfl, by simp; omega, ?_⟩
    simp only [parseModifier, parseComparison, look_complete, ok_bind, hvalue]
    rfl

theorem parseModifiers_complete (ms : List ModifierTree) {r : List Token}
    (hr : EndsModifiers r) :
    ∃ h, parseModifiers true (modifierTokens ms ++ r) =
      .ok ⟨ms.map ModifierTree.modifier, r, h⟩ := by
  induction ms with
  | nil =>
    refine ⟨Nat.lt_succ_self _, ?_⟩
    have hslash : ∀ rest, r ≠ .slash :: rest := by
      rintro rest rfl
      exact hr
    exact parseModifiers.eq_2 true r hslash
  | cons m ms ih =>
    obtain ⟨hlater, hms⟩ := ih
    obtain ⟨ts, hts, hfirst, hm⟩ := parseModifier_complete m
      (r := modifierTokens ms ++ r) (fun c rest => modifierTokens_ne_comparator hr)
    have htokens : modifierTokens (m :: ms) ++ r = .slash :: ts := by
      rw [← hts]
      simp [modifierTokens]
    rw [htokens]
    refine ⟨by simp; omega, ?_⟩
    rw [parseModifiers]
    simp only [look_complete, ok_bind, hm, hms]
    rfl

theorem parseRelationTail_complete (index base : String) (ms : List ModifierTree) (t : TermTree)
    (r : List Token) :
    ∃ h, parseRelationTail true index base (modifierTokens ms ++ t.token :: r) =
      .ok ⟨.clause index ⟨base, ms.map ModifierTree.modifier⟩ t.text, r, h⟩ := by
  obtain ⟨hms, hmodifiers⟩ := parseModifiers_complete ms (endsModifiers_term t r)
  obtain ⟨ht, hterm⟩ := parseTerm_complete t r
  refine ⟨by simp; omega, ?_⟩
  simp only [parseRelationTail, hmodifiers, ok_bind, hterm]
  rfl

theorem parseAfterWord_relation (index : String) (relation : RelationTree)
    (ms : List ModifierTree) (t : TermTree) (r : List Token) :
    ∃ h, parseAfterWord true index (relation.token :: (modifierTokens ms ++ t.token :: r)) =
      .ok ⟨.clause index ⟨relation.base, ms.map ModifierTree.modifier⟩ t.text, r, h⟩ := by
  obtain ⟨h, htail⟩ := parseRelationTail_complete index relation.base ms t r
  refine ⟨by simp; omega, ?_⟩
  cases relation with
  | comparator c =>
    simp only [RelationTree.base] at htail
    simp only [parseAfterWord, RelationTree.token, RelationTree.base, look_complete, ok_bind, htail]
    rfl
  | word text known =>
    have hoperator : BoolOp.ofWord? text = none := by
      cases hop : BoolOp.ofWord? text with
      | none => rfl
      | some op => exact (not_isRelationWord (BoolOp.ofWord?_eq_some.1 hop) known).elim
    simp only [RelationTree.base] at htail
    simp only [parseAfterWord, RelationTree.token, RelationTree.base, hoperator,
      isRelationWord_iff.2 known, look_complete, ok_bind, htail]
    rfl

theorem parseAfterWord_alone (word : String) {r : List Token} (hr : EndsClause r) :
    parseAfterWord true word r = .ok ⟨.bare word, r, Nat.lt_succ_self _⟩ := by
  unfold parseAfterWord
  split
  · exact hr.elim
  · next following rest =>
    obtain ⟨op, hop⟩ := hr
    simp only [BoolOp.ofWord?_eq_some.2 hop, Option.isSome_some, if_true]
    rfl
  · rfl

mutual

theorem parseClause_complete (d : ClauseTree) {r : List Token} (hr : EndsClause r) :
    ∃ h, parseClause true (d.tokens ++ r) = .ok ⟨d.query, r, h⟩ := by
  cases d with
  | group inner =>
    obtain ⟨h, hinner⟩ := parseQuery_complete inner (r := .rightParen :: r) trivial
    have htokens : (ClauseTree.group inner).tokens ++ r =
        .leftParen :: (inner.tokens ++ .rightParen :: r) := by simp [ClauseTree.tokens]
    rw [htokens]
    refine ⟨by simp; omega, ?_⟩
    rw [parseClause]
    simp only [look_complete, ok_bind, hinner]
    rfl
  | search index relation ms t =>
    obtain ⟨h, hafter⟩ := parseAfterWord_relation index relation ms t r
    have htokens : (ClauseTree.search index relation ms t).tokens ++ r =
        .word index :: relation.token :: (modifierTokens ms ++ t.token :: r) := by
      simp [ClauseTree.tokens]
    rw [htokens]
    refine ⟨h, ?_⟩
    rw [parseClause]
    simp only [look_complete, ok_bind, hafter]
    rfl
  | alone t =>
    refine ⟨by simp [ClauseTree.tokens], ?_⟩
    cases t with
    | word word =>
      simp only [ClauseTree.tokens, TermTree.token, List.cons_append, List.nil_append]
      rw [parseClause]
      simp only [look_complete, ok_bind, parseAfterWord_alone word hr]
      rfl
    | quoted text =>
      simp only [ClauseTree.tokens, TermTree.token, List.cons_append, List.nil_append]
      rw [parseClause]
      simp only [look_complete, ok_bind]
      rfl

theorem parseQuery_complete (d : QueryTree) {r : List Token} (hr : EndsQuery r) :
    ∃ h, parseQuery true (d.tokens ++ r) = .ok ⟨d.query, r, h⟩ := by
  cases d with
  | operands first others =>
    obtain ⟨hfirst, hclause⟩ := parseClause_complete first (endsClause_operands others hr)
    obtain ⟨hothers, hoperands⟩ := parseOperands_complete others first.query hr
    have htokens : (QueryTree.operands first others).tokens ++ r =
        first.tokens ++ (others.tokens ++ r) := by simp [QueryTree.tokens]
    rw [htokens]
    refine ⟨by omega, ?_⟩
    rw [parseQuery]
    simp only [hclause, ok_bind, hoperands]
    rfl

theorem parseOperands_complete (d : OperandsTree) (left : Query) {r : List Token}
    (hr : EndsQuery r) :
    ∃ h, parseOperands true left (d.tokens ++ r) = .ok ⟨d.query left, r, h⟩ := by
  cases d with
  | done =>
    refine ⟨Nat.lt_succ_self _, ?_⟩
    have hword : ∀ word rest, r ≠ .word word :: rest := by
      rintro word rest rfl
      exact hr
    exact parseOperands.eq_2 true left r hword
  | more operator ms clause others =>
    obtain ⟨hms, hmodifiers⟩ :=
      parseModifiers_complete ms (endsModifiers_clause clause (others.tokens ++ r))
    obtain ⟨hfirst, hclause⟩ := parseClause_complete clause (endsClause_operands others hr)
    obtain ⟨hothers, hoperands⟩ := parseOperands_complete others
      (.boolean operator.op (ms.map ModifierTree.modifier) left clause.query) hr
    have htokens : (OperandsTree.more operator ms clause others).tokens ++ r =
        .word operator.word :: (modifierTokens ms ++ (clause.tokens ++ (others.tokens ++ r))) := by
      simp [OperandsTree.tokens]
    rw [htokens]
    refine ⟨by simp only [List.length_cons]; omega, ?_⟩
    rw [parseOperands]
    simp only [BoolOp.ofWord?_eq_some.2 operator.spelled, look_complete, ok_bind, hmodifiers,
      hclause, hoperands]
    rfl

end

theorem QueryTree.tokens_ne_nil (d : QueryTree) : d.tokens ≠ [] := by
  obtain ⟨first, others⟩ := d
  cases first <;> simp [QueryTree.tokens, ClauseTree.tokens]

/-- A token sequence spells a query exactly if it has a derivation that denotes the query. -/
theorem ofSequence_eq_ok {s : Token.Sequence} {n : Query} :
    ofSequence s = .ok n ↔ ∃ d : QueryTree, s = ⟨d.tokens, true⟩ ∧ d.query = n := by
  constructor
  · intro h
    unfold ofSequence at h
    obtain ⟨_, -, h⟩ := ok_of_bind h
    split at h
    · simp at h
    · obtain ⟨whole, hwhole, h⟩ := ok_of_bind h
      split at h
      · next hrest =>
        obtain ⟨d, htokens, hquery, hvisible⟩ :=
          (parse_sound_all s.complete).2.1 s.tokens whole hwhole
        have hempty : whole.rest = [] := List.isEmpty_iff.1 hrest
        rw [hempty, List.append_nil] at htokens
        rw [hempty] at hvisible
        refine ⟨d, ?_, hquery.symm.trans (Except.ok.inj h)⟩
        obtain ⟨tokens, complete⟩ := s
        simp_all [Visible]
      · simp at h
  · rintro ⟨d, rfl, rfl⟩
    have hend : EndsQuery [] := trivial
    have hwhole := parseQuery_complete d hend
    rw [List.append_nil] at hwhole
    obtain ⟨h, hparse⟩ := hwhole
    simp only [ofSequence, look_complete, ok_bind, List.isEmpty_iff, QueryTree.tokens_ne_nil,
      if_false, hparse]
    rfl

theorem parse_eq_ok {text : String} {n : Query} :
    parse text = .ok n ↔
      ∃ d : QueryTree, Token.sequence text.toList = ⟨d.tokens, true⟩ ∧ d.query = n :=
  ofSequence_eq_ok

/-- The parser reads the query that the one derivation of its tokens denotes, and refuses every
text without a derivation. -/
theorem parse_iff_derivation :
    (∀ (text : String) (n : Query), parse text = .ok n ↔
      ∃ d : QueryTree, Token.sequence text.toList = ⟨d.tokens, true⟩ ∧ d.query = n) ∧
    Function.Injective QueryTree.tokens ∧
    ∀ text : String, (∃ e : QueryError, parse text = .error e) ↔
      ¬ ∃ d : QueryTree, Token.sequence text.toList = ⟨d.tokens, true⟩ := by
  refine ⟨fun text n => parse_eq_ok, fun d e h => ?_, fun text => ?_⟩
  · have hend : EndsQuery [] := trivial
    have hnil : d.tokens ++ [] = e.tokens ++ [] := congrArg (· ++ []) h
    exact (QueryTree.tokens_unique d e hend hend hnil).1
  · constructor
    · rintro ⟨e, he⟩ ⟨d, hd⟩
      have hparse := parse_eq_ok.2 ⟨d, hd, rfl⟩
      rw [he] at hparse
      simp at hparse
    · intro hnone
      cases hparse : parse text with
      | error e => exact ⟨e, rfl⟩
      | ok n =>
        obtain ⟨d, hd, -⟩ := parse_eq_ok.1 hparse
        exact (hnone ⟨d, hd⟩).elim

end Query

end SearchRetrieve
