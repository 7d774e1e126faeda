import SearchRetrieve.Proofs.Query.Lexing
import SearchRetrieve.Proofs.Query.Parsing

/-!
# Printing and parsing

The text of a query reads back as the query exactly if the query is well formed, and every query
that can be read at all is well formed.
-/
namespace SearchRetrieve

open Grammar Token

def comparatorSymbols : List String := ["=", "==", "<>", "<", ">", "<=", ">="]

/-- A modifier has a word for its name, and a comparator and a value together or neither. -/
def Modifier.WellFormed (m : Modifier) : Prop :=
  IsWord m.name ∧
    ((m.comparator = none ∧ m.value = none) ∨
      ∃ c ∈ comparatorSymbols, ∃ value, m.comparator = some c ∧ m.value = some value)

def Relation.WellFormed (r : Relation) : Prop :=
  (r.base ∈ comparatorSymbols ∨ IsWord r.base ∧ Query.isRelationWord r.base) ∧
    ∀ m ∈ r.modifiers, m.WellFormed

def Query.WellFormed : Query → Prop
  | boolean op modifiers left right =>
    op ∈ [BoolOp.and, .or, .not, .prox] ∧ (∀ m ∈ modifiers, m.WellFormed) ∧
      left.WellFormed ∧ right.WellFormed
  | clause index relation _ => IsWord index ∧ relation.WellFormed

theorem mem_comparatorSymbols {s : String} :
    s ∈ comparatorSymbols ↔ ∃ c : Comparator, c.symbol = s := by
  constructor
  · intro h
    simp only [comparatorSymbols, List.mem_cons, List.not_mem_nil, or_false] at h
    rcases h with rfl | rfl | rfl | rfl | rfl | rfl | rfl
    · exact ⟨.equal, rfl⟩
    · exact ⟨.exactly, rfl⟩
    · exact ⟨.different, rfl⟩
    · exact ⟨.less, rfl⟩
    · exact ⟨.greater, rfl⟩
    · exact ⟨.atMost, rfl⟩
    · exact ⟨.atLeast, rfl⟩
  · rintro ⟨c, rfl⟩
    cases c <;> decide

/-- After a name or a comparator of the text of a query: a blank, or the slash of a modifier. -/
def EndsName (rest : List Char) : Prop := ∀ c ∈ rest.head?, c = ' ' ∨ c = '/'

theorem EndsName.endsWord {rest : List Char} (h : EndsName rest) : EndsWord rest := by
  intro c hc
  rcases h c hc with rfl | rfl <;> decide

theorem EndsName.endsComparator {rest : List Char} (h : EndsName rest) :
    EndsComparator rest := by
  intro c hc
  rcases h c hc with rfl | rfl <;> decide

theorem endsName_blank (rest : List Char) : EndsName (' ' :: rest) := by simp [EndsName]

theorem endsName_modifiers (ms : List Modifier) {rest : List Char} (hrest : EndsName rest) :
    EndsName ((Modifier.textOfAll ms).toList ++ rest) := by
  cases ms with
  | nil => simpa [Modifier.textOfAll] using hrest
  | cons m ms =>
    have hslash : ∃ tail, m.text.toList = '/' :: tail := by
      unfold Modifier.text
      split <;> exact ⟨_, by simp; rfl⟩
    obtain ⟨tail, htail⟩ := hslash
    simp [EndsName, Modifier.textOfAll, htail]

theorem sequence_modifier {m : Modifier} (hm : m.WellFormed) :
    ∃ d : ModifierTree, d.modifier = m ∧
      ∀ rest, EndsName rest →
        sequence (m.text.toList ++ rest) = (sequence rest).prepend d.tokens := by
  obtain ⟨name, comparator, value⟩ := m
  obtain ⟨hname, ⟨rfl, rfl⟩ | ⟨s, hs, v, rfl, rfl⟩⟩ := hm
  · refine ⟨.plain name, rfl, fun rest hrest => ?_⟩
    simp [Modifier.text, sequence_slash, sequence_word hname hrest.endsWord, ModifierTree.tokens]
  · obtain ⟨c, rfl⟩ := mem_comparatorSymbols.1 hs
    refine ⟨.comparison name c (.quoted v), rfl, fun rest hrest => ?_⟩
    have hsymbol : EndsWord (c.symbol.toList ++ ((Query.quoteTerm v).toList ++ rest)) := by
      cases c <;> simp [EndsWord, Comparator.symbol] <;> decide
    have hquote : EndsComparator ((Query.quoteTerm v).toList ++ rest) := by
      simp [EndsComparator, Query.quoteTerm]
    simp [Modifier.text, sequence_slash, sequence_word hname hsymbol,
      sequence_comparator c hquote, sequence_quoted, ModifierTree.tokens, TermTree.token]

theorem sequence_modifiers {ms : List Modifier} (hms : ∀ m ∈ ms, m.WellFormed) :
    ∃ ds : List ModifierTree, ds.map ModifierTree.modifier = ms ∧
      ∀ rest, EndsName rest →
        sequence ((Modifier.textOfAll ms).toList ++ rest) =
          (sequence rest).prepend (modifierTokens ds) := by
  induction ms with
  | nil => exact ⟨[], rfl, fun rest _ => by simp [Modifier.textOfAll, modifierTokens]⟩
  | cons m ms ih =>
    obtain ⟨d, hd, hone⟩ := sequence_modifier (hms m (by simp))
    obtain ⟨ds, hds, hall⟩ := ih fun m hm => hms m (by simp [hm])
    refine ⟨d :: ds, by simp [hd, hds], fun rest hrest => ?_⟩
    have htext : (Modifier.textOfAll (m :: ms)).toList ++ rest =
        m.text.toList ++ ((Modifier.textOfAll ms).toList ++ rest) := by
      simp [Modifier.textOfAll]
    rw [htext, hone _ (endsName_modifiers ms hrest), hall rest hrest]
    simp [modifierTokens]

theorem sequence_base {base : String}
    (hbase : base ∈ comparatorSymbols ∨ IsWord base ∧ Query.isRelationWord base) :
    ∃ d : RelationTree, d.base = base ∧
      ∀ rest, EndsName rest →
        sequence (base.toList ++ rest) = (sequence rest).prepend [d.token] := by
  rcases hbase with hsymbol | ⟨hword, hrelation⟩
  · obtain ⟨c, rfl⟩ := mem_comparatorSymbols.1 hsymbol
    exact ⟨.comparator c, rfl, fun rest hrest => sequence_comparator c hrest.endsComparator⟩
  · exact ⟨.word base (isRelationWord_iff.1 hrelation), rfl,
      fun rest hrest => sequence_word hword hrest.endsWord⟩

theorem operatorName_isWord {op : BoolOp} (hop : op ∈ [BoolOp.and, .or, .not, .prox]) :
    IsWord op.name := by
  simp only [List.mem_cons, List.not_mem_nil, or_false] at hop
  rcases hop with rfl | rfl | rfl | rfl <;> decide

/-- The text of a well-formed query is cut into the tokens of a derivation of it, whatever text
follows. -/
theorem sequence_text {n : Query} (hn : n.WellFormed) :
    ∃ d : ClauseTree, d.query = n ∧
      ∀ rest, sequence (n.text.toList ++ rest) = (sequence rest).prepend d.tokens := by
  induction n with
  | boolean op ms left right ihLeft ihRight =>
    obtain ⟨hop, hms, hleft, hright⟩ := hn
    obtain ⟨l, rfl, hl⟩ := ihLeft hleft
    obtain ⟨r, rfl, hr⟩ := ihRight hright
    obtain ⟨ds, rfl, hds⟩ := sequence_modifiers hms
    let operator : OperatorTree := ⟨op.name, op, hop, by simp [Text.sameIgnoringCase]⟩
    refine ⟨.group (.operands l (.more operator ds r .done)), rfl, fun rest => ?_⟩
    have hblank : Text.isBlank ' ' = true := by decide
    have hname (tail : List Char) :
        EndsWord ((Modifier.textOfAll (ds.map ModifierTree.modifier)).toList ++ ' ' :: tail) :=
      (endsName_modifiers _ (endsName_blank tail)).endsWord
    simp [Query.text, sequence_leftParen, hl, sequence_blank hblank,
      sequence_word (operatorName_isWord hop) (hname _), hds _ (endsName_blank _), hr,
      sequence_rightParen, ClauseTree.tokens, QueryTree.tokens, OperandsTree.tokens, operator]
  | clause index relation term =>
    obtain ⟨base, ms⟩ := relation
    obtain ⟨hindex, hbase, hms⟩ := hn
    obtain ⟨d, rfl, hd⟩ := sequence_base hbase
    obtain ⟨ds, rfl, hds⟩ := sequence_modifiers hms
    refine ⟨.search index d ds (.quoted term), rfl, fun rest => ?_⟩
    have hblank : Text.isBlank ' ' = true := by decide
    have hindexEnds (tail : List Char) : EndsWord (' ' :: tail) := (endsName_blank tail).endsWord
    simp [Query.text, sequence_word hindex (hindexEnds _), sequence_blank hblank,
      hd _ (endsName_modifiers _ (endsName_blank _)), hds _ (endsName_blank _), sequence_quoted,
      ClauseTree.tokens, TermTree.token]

theorem parse_text_of_wellFormed {n : Query} (hn : n.WellFormed) :
    Query.parse n.text = .ok n := by
  obtain ⟨d, hquery, hd⟩ := sequence_text hn
  have hsequence : sequence n.text.toList = ⟨d.tokens, true⟩ := by
    have hd := hd []
    simpa [Sequence.prepend] using hd
  apply Query.parse_eq_ok.2
  refine ⟨.operands d .done, ?_, hquery⟩
  rw [hsequence]
  simp [QueryTree.tokens, OperandsTree.tokens]

namespace Grammar

theorem RelationTree.base_wellFormed (d : RelationTree) (hd : d.token.Valid) :
    d.base ∈ comparatorSymbols ∨ IsWord d.base ∧ Query.isRelationWord d.base := by
  cases d with
  | comparator c => exact Or.inl (mem_comparatorSymbols.2 ⟨c, rfl⟩)
  | word text known => exact Or.inr ⟨hd, isRelationWord_iff.2 known⟩

theorem ModifierTree.modifier_wellFormed (d : ModifierTree) (hd : ∀ t ∈ d.tokens, t.Valid) :
    d.modifier.WellFormed := by
  cases d with
  | plain name => exact ⟨hd (.word name) (by simp [ModifierTree.tokens]), Or.inl ⟨rfl, rfl⟩⟩
  | comparison name c value =>
    exact ⟨hd (.word name) (by simp [ModifierTree.tokens]),
      Or.inr ⟨c.symbol, mem_comparatorSymbols.2 ⟨c, rfl⟩, value.text, rfl, rfl⟩⟩

theorem modifiers_wellFormed (ds : List ModifierTree) (hds : ∀ t ∈ modifierTokens ds, t.Valid) :
    ∀ m ∈ ds.map ModifierTree.modifier, m.WellFormed := by
  intro m hm
  obtain ⟨d, hd, rfl⟩ := List.mem_map.1 hm
  exact d.modifier_wellFormed fun t ht => hds t (List.mem_flatMap.2 ⟨d, hd, ht⟩)

mutual

theorem ClauseTree.query_wellFormed (d : ClauseTree) (hd : ∀ t ∈ d.tokens, t.Valid) :
    d.query.WellFormed := by
  cases d with
  | group inner => exact inner.query_wellFormed fun t ht => hd t (by simp [ClauseTree.tokens, ht])
  | search index relation ds term =>
    have hindex : IsWord index := hd (.word index) (by simp [ClauseTree.tokens])
    have hrelation : relation.token.Valid := hd relation.token (by simp [ClauseTree.tokens])
    exact ⟨hindex, relation.base_wellFormed hrelation,
      modifiers_wellFormed ds fun t ht => hd t (by simp [ClauseTree.tokens, ht])⟩
  | alone term =>
    exact ⟨by decide, Or.inr ⟨by decide, by decide⟩, by simp⟩

theorem QueryTree.query_wellFormed (d : QueryTree) (hd : ∀ t ∈ d.tokens, t.Valid) :
    d.query.WellFormed := by
  cases d with
  | operands first others =>
    have hfirst := first.query_wellFormed fun t ht => hd t (by simp [QueryTree.tokens, ht])
    exact others.query_wellFormed hfirst fun t ht => hd t (by simp [QueryTree.tokens, ht])

theorem OperandsTree.query_wellFormed (d : OperandsTree) {left : Query}
    (hleft : left.WellFormed) (hd : ∀ t ∈ d.tokens, t.Valid) : (d.query left).WellFormed := by
  cases d with
  | done => exact hleft
  | more operator ds clause others =>
    have hds := modifiers_wellFormed ds fun t ht => hd t (by simp [OperandsTree.tokens, ht])
    have hclause := clause.query_wellFormed fun t ht => hd t (by simp [OperandsTree.tokens, ht])
    exact others.query_wellFormed ⟨operator.spelled.1, hds, hleft, hclause⟩
      fun t ht => hd t (by simp [OperandsTree.tokens, ht])

end

end Grammar

theorem wellFormed_of_parse {text : String} {n : Query} (h : Query.parse text = .ok n) :
    n.WellFormed := by
  obtain ⟨d, hsequence, rfl⟩ := Query.parse_eq_ok.1 h
  apply d.query_wellFormed
  intro t ht
  apply sequence_valid text.toList t
  rw [hsequence]
  exact ht

/-- Reading undoes printing on the well-formed queries and on no others, and only well-formed
queries can be read from any text, so printing what has been read loses nothing. -/
theorem parse_text_iff_wellFormed :
    (∀ n : Query, Query.parse n.text = .ok n ↔ n.WellFormed) ∧
    ∀ (text : String) (n : Query), Query.parse text = .ok n →
      n.WellFormed ∧ Query.parse n.text = .ok n := by
  refine ⟨fun n => ⟨wellFormed_of_parse, parse_text_of_wellFormed⟩, fun text n h => ?_⟩
  have hn := wellFormed_of_parse h
  exact ⟨hn, parse_text_of_wellFormed hn⟩

end SearchRetrieve
