import SearchRetrieve.Proofs.Native.Scan
import SearchRetrieve.Proofs.Query.RoundTrip

/-!
# Grouping of native queries

The native query of a text is empty or one group in parentheses, if every relation that has no
translation is closed in itself. Otherwise it is no group: the name of such a relation is put into
the native query as it is, and a bracket or a backslash in it counts.
-/
namespace SearchRetrieve

/-- One group: the parenthesis that opens it closes with its last character, and nothing is left
open in it. -/
structure Native.IsGroup (text : String) : Prop where
  opening : text.toList.head? = some '('
  closed : Closed text
  whole : ∀ before after, text.toList = before ++ after → before ≠ [] → after ≠ [] →
    ∃ s, Scan.outside.read? before = some s ∧ s.closers ≠ []

/-- The relations without a translation, once for each field that their clause asks for. -/
def Query.untranslated (schema : Schema) : Query → List String
  | boolean _ _ left right => left.untranslated schema ++ right.untranslated schema
  | clause index relation _ =>
    if Text.sameIgnoringCase index Native.resultSetIndex ∨
      (Native.Lookup.ofRelation? relation).isSome then []
    else (schema.resolve index).map fun _ => relation.base

namespace Native

variable {cs ds : List Char} {text : String} {ok : Prop}

theorem inside_of_split {before after : List Char} (h : '(' :: (cs ++ [')']) = before ++ after)
    (hbefore : before ≠ []) (hafter : after ≠ []) : ∃ rest, before = '(' :: rest ∧ rest <+: cs := by
  cases before with
  | nil => exact (hbefore rfl).elim
  | cons c rest =>
    rw [List.cons_append] at h
    obtain ⟨rfl, hinside⟩ := List.cons.inj h
    obtain hnil | ⟨last, d, hlast⟩ := List.eq_nil_or_concat after
    · exact (hafter hnil).elim
    · rw [hlast, List.concat_eq_append, ← List.append_assoc] at hinside
      obtain ⟨hcs, -⟩ := List.append_inj' hinside rfl
      exact ⟨rest, rfl, last, hcs.symm⟩

theorem isGroup_of_neutral (h : Neutral cs) (htext : text.toList = '(' :: (cs ++ [')'])) :
    IsGroup text where
  opening := by rw [htext]; rfl
  closed := by
    rw [← neutral_iff_closed, htext]
    exact h.parentheses
  whole := by
    intro before after hsplit hbefore hafter
    rw [htext] at hsplit
    obtain ⟨rest, rfl, others, rfl⟩ := inside_of_split hsplit hbefore hafter
    have hread := h []
    rw [Scan.read?_append] at hread
    obtain ⟨s, hs, -⟩ := Option.bind_eq_some_iff.1 hread
    exact ⟨s.above [')'], Scan.read?_above hs [')'], by simp [Scan.above]⟩

/-- What a scan of the text opens stays open, if the text does not meet a condition. -/
def LeavesOpen (cs : List Char) (ok : Prop) : Prop :=
  ∀ closers s, Scan.read? ⟨closers, false, false⟩ cs = some s →
    ∃ opened, s = ⟨opened ++ closers, false, false⟩ ∧ (opened = [] → ok)

theorem Neutral.leavesOpen (h : Neutral cs) : LeavesOpen cs True := by
  intro closers s hs
  rw [h] at hs
  cases hs
  exact ⟨[], rfl, fun _ => trivial⟩

namespace LeavesOpen

theorem mono {ok' : Prop} (h : LeavesOpen cs ok) (himp : ok → ok') : LeavesOpen cs ok' := by
  intro closers s hs
  obtain ⟨opened, hopened, hok⟩ := h closers s hs
  exact ⟨opened, hopened, fun hnil => himp (hok hnil)⟩

theorem append {ok' : Prop} (hcs : LeavesOpen cs ok) (hds : LeavesOpen ds ok') :
    LeavesOpen (cs ++ ds) (ok ∧ ok') := by
  intro closers s hs
  rw [Scan.read?_append] at hs
  obtain ⟨s₁, hfirst, hrest⟩ := Option.bind_eq_some_iff.1 hs
  obtain ⟨opened, rfl, hok⟩ := hcs closers s₁ hfirst
  obtain ⟨opened', rfl, hok'⟩ := hds _ s hrest
  refine ⟨opened' ++ opened, by simp, fun hnil => ?_⟩
  obtain ⟨hnil', hnil⟩ := List.append_eq_nil_iff.1 hnil
  exact ⟨hok hnil, hok' hnil'⟩

theorem parentheses (h : LeavesOpen cs ok) : LeavesOpen ('(' :: (cs ++ [')'])) ok := by
  intro closers s hs
  rw [Scan.read?_parentheses] at hs
  obtain ⟨s₁, hinside, hclosing⟩ := Option.bind_eq_some_iff.1 hs
  obtain ⟨opened, rfl, hok⟩ := h _ s₁ hinside
  cases opened with
  | nil =>
    cases hclosing
    exact ⟨[], rfl, fun _ => hok rfl⟩
  | cons c opened =>
    by_cases hc : c = ')'
    · subst hc
      cases hclosing
      exact ⟨opened ++ [')'], by simp, by simp⟩
    · simp [Scan.step?, hc] at hclosing

theorem of_closed (h : LeavesOpen text.toList ok) (hclosed : Closed text) : ok := by
  obtain ⟨opened, hopened, hok⟩ := h [] _ hclosed
  simp only [Scan.outside, Scan.mk.injEq, List.append_nil] at hopened
  exact hok hopened.1.symm

end LeavesOpen

/-- A text in parentheses that is one group exactly under a condition. -/
structure Bracketed (text : String) (ok : Prop) : Prop where
  group : ok → ∃ cs, text.toList = '(' :: (cs ++ [')']) ∧ Neutral cs
  leavesOpen : LeavesOpen text.toList ok

namespace Bracketed

theorem neutral (h : Bracketed text ok) (hok : ok) : Neutral text.toList := by
  obtain ⟨cs, htext, hcs⟩ := h.group hok
  rw [htext]
  exact hcs.parentheses

theorem ne_empty (h : Bracketed text ok) : text ≠ "" := by
  rintro rfl
  obtain ⟨cs, htext, -⟩ := h.group (h.leavesOpen.of_closed rfl)
  cases htext

theorem isGroup_iff (h : Bracketed text ok) : IsGroup text ↔ ok := by
  constructor
  · exact fun hgroup => h.leavesOpen.of_closed hgroup.closed
  · intro hok
    obtain ⟨cs, htext, hcs⟩ := h.group hok
    exact isGroup_of_neutral hcs htext

theorem of_content {content : String} (htext : text = "(" ++ content ++ ")")
    (hneutral : ok → Neutral content.toList) (hopen : LeavesOpen content.toList ok) :
    Bracketed text ok := by
  have hlist : text.toList = '(' :: (content.toList ++ [')']) := by simp [htext]
  exact ⟨fun hok => ⟨_, hlist, hneutral hok⟩, by rw [hlist]; exact hopen.parentheses⟩

end Bracketed

theorem joiner_neutral {op : BoolOp} (hop : op ∈ [BoolOp.and, .or, .not, .prox]) :
    Neutral (joiner op).toList := by
  simp only [List.mem_cons, List.not_mem_nil, or_false] at hop
  rcases hop with rfl | rfl | rfl | rfl
  · exact .ofPlain (by simp [marking, joiner])
  · exact .ofPlain (by simp [marking, joiner])
  · exact .ofPlain (by simp [marking, joiner])
  · intro closers
    rfl

theorem bracketed_join {ok' : Prop} {between left right : String}
    (hbetween : Neutral between.toList) (hleft : Bracketed left ok) (hright : Bracketed right ok') :
    Bracketed ("(" ++ left ++ between ++ right ++ ")") (ok ∧ ok') := by
  have htext : "(" ++ left ++ between ++ right ++ ")" =
      "(" ++ (left ++ between ++ right) ++ ")" := by simp [String.append_assoc]
  refine .of_content htext (fun ⟨hok, hok'⟩ => ?_) ?_
  · rw [String.toList_append, String.toList_append]
    exact ((hleft.neutral hok).append hbetween).append (hright.neutral hok')
  · rw [String.toList_append, String.toList_append]
    exact ((hleft.leavesOpen.append hbetween.leavesOpen).append hright.leavesOpen).mono
      fun ⟨⟨hok, _⟩, hok'⟩ => ⟨hok, hok'⟩

theorem bracketed_exclude {right : String} (hright : Bracketed right ok) :
    Bracketed ("(*:* NOT " ++ right ++ ")") ok := by
  have hfront : Neutral "*:* NOT ".toList := .ofPlain (by simp [marking])
  have htext : "(*:* NOT " ++ right ++ ")" = "(" ++ ("*:* NOT " ++ right) ++ ")" := by
    rw [← String.append_assoc]
    rfl
  refine .of_content htext (fun hok => ?_) ?_
  · rw [String.toList_append]
    exact hfront.append (hright.neutral hok)
  · rw [String.toList_append]
    exact (hfront.leavesOpen.append hright.leavesOpen).mono And.right

theorem wordGroup_neutral (field term : String) {between : String}
    (hbetween : Neutral between.toList) : Neutral (wordGroup field term between).toList := by
  have hcolon : Neutral ":".toList := .ofPlain (by simp [marking])
  have hwords : Neutral (String.intercalate between
      ((Text.words term).map fun word => escape field ++ ":" ++ escape word)).toList := by
    apply Neutral.intercalate hbetween
    simp only [List.mem_map]
    rintro _ ⟨word, -, rfl⟩
    rw [String.toList_append, String.toList_append]
    exact ((neutral_escape field).append hcolon).append (neutral_escape word)
  have hgroup := hwords.parentheses
  simpa [wordGroup] using hgroup

theorem range_neutral (field lower upper : String) :
    Neutral (escape field ++ ":[" ++ escape lower ++ " TO " ++ escape upper ++ "]").toList := by
  have hcolon : Neutral ":".toList := .ofPlain (by simp [marking])
  have hbetween : Neutral " TO ".toList := .ofPlain (by simp [marking])
  have hbounds := ((neutral_escape lower).append hbetween).append (neutral_escape upper)
  have hall := ((neutral_escape field).append hcolon).append hbounds.brackets
  simpa using hall

/-- A relation with a translation gives a neutral text in every field. -/
theorem fieldText_neutral (schema : Schema) {relation : Relation} {lookup : Lookup}
    (hlookup : Lookup.ofRelation? relation = some lookup) (term field : String) :
    Neutral (fieldText schema relation term field).toList := by
  have hclause (name : String) : Neutral (escape name ++ ":" ++ quoteIfBlank term).toList := by
    have hcolon : Neutral ":".toList := .ofPlain (by simp [marking])
    rw [String.toList_append, String.toList_append]
    exact ((neutral_escape name).append hcolon).append (neutral_quoteIfBlank term)
  rw [fieldText_of_lookup schema hlookup]
  cases lookup with
  | term =>
    rw [Lookup.text]
    split
    · exact neutral_quoteIfBlank term
    · exact hclause _
  | exact => exact hclause _
  | words op =>
    have hbetween : Neutral op.between.toList :=
      .ofPlain (by cases op <;> simp [marking, Operator.between])
    exact wordGroup_neutral _ term hbetween
  | range =>
    rw [Lookup.text]
    split
    · exact range_neutral field _ _
    · exact .nil

def grouping : List Char := ['(', ')', '"']

def Scan.inBrackets (n : Nat) (below : List Char) (escaped : Bool) : Scan :=
  ⟨List.replicate n ']' ++ below, false, escaped⟩

variable {c : Char} {word : List Char} {n : Nat} {below closers : List Char} {escaped : Bool}
  {s : Scan}

theorem Scan.step?_word (hc : c ∉ grouping)
    (h : (inBrackets n (')' :: closers) escaped).step? c = some s) :
    ∃ n' escaped', s = inBrackets n' (')' :: closers) escaped' ∧
      ∀ below, (inBrackets n below escaped).step? c = some (inBrackets n' below escaped') := by
  simp only [grouping, List.mem_cons, List.not_mem_nil, or_false, not_or] at hc
  obtain ⟨hopening, hclosing, hquote⟩ := hc
  cases escaped with
  | true =>
    cases h
    exact ⟨n, false, rfl, fun _ => rfl⟩
  | false =>
    by_cases hbackslash : c = '\\'
    · subst hbackslash
      cases h
      exact ⟨n, true, rfl, fun _ => rfl⟩
    by_cases hleft : c = '['
    · subst hleft
      cases h
      exact ⟨n + 1, false, rfl, fun _ => rfl⟩
    by_cases hright : c = ']'
    · subst hright
      cases n with
      | zero => cases h
      | succ n =>
        cases h
        exact ⟨n, false, rfl, fun _ => rfl⟩
    · have hplain : c ∉ marking := by simp [marking, *]
      have hstep (below : List Char) :
          (inBrackets n below false).step? c = some (inBrackets n below false) :=
        step?_of_not_marking hplain _ false
      rw [hstep] at h
      cases h
      exact ⟨n, false, rfl, hstep⟩

/-- A word closes no parenthesis around it: it can only leave brackets and a backslash open. -/
theorem Scan.read?_word (hword : ∀ c ∈ word, c ∉ grouping)
    (h : (inBrackets n (')' :: closers) escaped).read? word = some s) :
    ∃ n' escaped', s = inBrackets n' (')' :: closers) escaped' ∧
      ∀ below, (inBrackets n below escaped).read? word = some (inBrackets n' below escaped') := by
  induction word generalizing n escaped with
  | nil =>
    cases h
    exact ⟨n, escaped, rfl, fun _ => rfl⟩
  | cons c word ih =>
    obtain ⟨s₁, hstep, hrest⟩ := Option.bind_eq_some_iff.1 h
    obtain ⟨m, after, rfl, hfirst⟩ := step?_word (hword c (by simp)) hstep
    obtain ⟨n', escaped', hs, hothers⟩ := ih (fun d hd => hword d (by simp [hd])) hrest
    refine ⟨n', escaped', hs, fun below => ?_⟩
    rw [read?_cons, hfirst]
    exact hothers below

theorem Scan.inBrackets_inBrackets (m n : Nat) (below : List Char) (escaped : Bool) :
    inBrackets m (List.replicate n ']' ++ below) escaped = inBrackets (m + n) below escaped := by
  simp [inBrackets, ← List.append_assoc]

/-- Each further copy of a word leaves its brackets open as well. -/
theorem Scan.read?_copies {text : String}
    (h : ∀ below, (inBrackets 0 below false).read? text.toList = some (inBrackets n below escaped))
    (k : Nat) (below : List Char) :
    (⟨below, false, escaped⟩ : Scan).read? ((List.replicate k text).flatMap
      fun copy => " OR ".toList ++ copy.toList) = some (inBrackets (k * n) below escaped) := by
  have hbetween (below : List Char) :
      (⟨below, false, escaped⟩ : Scan).read? " OR ".toList = some (inBrackets 0 below false) := by
    cases escaped <;> rfl
  induction k generalizing below with
  | zero => simp [inBrackets]
  | succ k ih =>
    rw [List.replicate_succ, List.flatMap_cons, read?_append, read?_append, hbetween,
      Option.bind_some, h, Option.bind_some, Nat.succ_mul, ← inBrackets_inBrackets]
    exact ih _

/-- A parenthesis closes its group only if the words in it left nothing open. -/
theorem Scan.step?_closing (h : (inBrackets n (')' :: closers) escaped).step? ')' = some s) :
    ∃ opened, s = ⟨opened ++ closers, false, false⟩ ∧
      (opened = [] → n = 0 ∧ escaped = false) := by
  cases escaped with
  | true =>
    cases h
    exact ⟨List.replicate n ']' ++ [')'], by simp [inBrackets], by simp⟩
  | false =>
    cases n with
    | zero =>
      cases h
      exact ⟨[], rfl, fun _ => ⟨rfl, rfl⟩⟩
    | succ n => cases h

theorem placeholder_front : Neutral "Unsupported Relation: ".toList :=
  .ofPlain (by simp [marking])

theorem Scan.read?_placeholder (below : List Char) (base : String) :
    (inBrackets 0 below false).read? ("Unsupported Relation: " ++ base).toList =
      (inBrackets 0 below false).read? base.toList := by
  have hfront : (inBrackets 0 below false).read? "Unsupported Relation: ".toList =
      some (inBrackets 0 below false) := placeholder_front below
  rw [String.toList_append, read?_append, hfront, Option.bind_some]

theorem placeholder_neutral {base : String} (h : Closed base) :
    Neutral ("Unsupported Relation: " ++ base).toList := by
  rw [String.toList_append]
  exact placeholder_front.append (neutral_iff_closed.2 h)

theorem alternatives_replicate {text : String} (htext : text ≠ "") (k : Nat) :
    (alternatives (List.replicate (k + 1) text)).toList =
      '(' :: (text.toList ++ ((List.replicate k text).flatMap
        fun copy => " OR ".toList ++ copy.toList) ++ [')']) := by
  have hkept : (List.replicate (k + 1) text).filter (· ≠ "") = text :: List.replicate k text := by
    simp [htext, List.replicate_succ]
  have hopening : "(".toList = ['('] := rfl
  have hclosing : ")".toList = [')'] := rfl
  unfold alternatives
  rw [hkept]
  simp only [String.toList_append, toList_intercalate_cons, hopening, hclosing, List.cons_append,
    List.nil_append]

/-- Placeholders leave nothing open only if the name of their relation is closed. -/
theorem Scan.read?_placeholders {base : String} (hbase : ∀ c ∈ base.toList, c ∉ grouping) (k : Nat)
    (h : (inBrackets 0 (')' :: closers) false).read?
      (("Unsupported Relation: " ++ base).toList ++
        ((List.replicate k ("Unsupported Relation: " ++ base)).flatMap
          fun copy => " OR ".toList ++ copy.toList)) = some s) :
    ∃ m escaped, s = inBrackets m (')' :: closers) escaped ∧
      (m = 0 ∧ escaped = false → Closed base) := by
  rw [read?_append, read?_placeholder] at h
  obtain ⟨s₁, hfirst, hothers⟩ := Option.bind_eq_some_iff.1 h
  obtain ⟨n, escaped, rfl, hword⟩ := read?_word hbase hfirst
  have hcopy (below : List Char) :
      (inBrackets 0 below false).read? ("Unsupported Relation: " ++ base).toList =
        some (inBrackets n below escaped) := by
    rw [read?_placeholder, hword]
  have hcopies := read?_copies hcopy k (List.replicate n ']' ++ ')' :: closers)
  rw [inBrackets_inBrackets] at hcopies
  refine ⟨k * n + n, escaped, Option.some.inj (hothers.symm.trans hcopies), ?_⟩
  rintro ⟨hcount, rfl⟩
  obtain rfl : n = 0 := by omega
  exact hword []

/-- The placeholders of a relation are one group exactly if its name is closed. -/
theorem placeholders_bracketed {base : String} (hbase : ∀ c ∈ base.toList, c ∉ grouping)
    (k : Nat) :
    Bracketed (alternatives (List.replicate (k + 1) ("Unsupported Relation: " ++ base)))
      (Closed base) := by
  have hnonempty : "Unsupported Relation: " ++ base ≠ "" := by simp
  constructor
  · intro hclosed
    refine ⟨_, alternatives_replicate hnonempty k, ?_⟩
    rw [← toList_intercalate_cons]
    apply Neutral.intercalate (.ofPlain (by simp [marking]))
    intro text htext
    obtain rfl : text = "Unsupported Relation: " ++ base := by
      rw [← List.replicate_succ] at htext
      exact List.eq_of_mem_replicate htext
    exact placeholder_neutral hclosed
  · rw [alternatives_replicate hnonempty]
    intro closers s hs
    rw [Scan.read?_parentheses] at hs
    obtain ⟨s₁, hinside, hclosing⟩ := Option.bind_eq_some_iff.1 hs
    obtain ⟨m, escaped, rfl, hclosed⟩ := Scan.read?_placeholders hbase k hinside
    obtain ⟨opened, hs, hnothing⟩ := Scan.step?_closing hclosing
    exact ⟨opened, hs, fun hnil => hclosed (hnothing hnil)⟩

theorem alternatives_neutral {texts : List String} (h : ∀ text ∈ texts, Neutral text.toList) :
    alternatives texts = "" ∨ Bracketed (alternatives texts) True := by
  have hkept : ∀ text ∈ texts.filter (· ≠ ""), Neutral text.toList :=
    fun text htext => h text (List.mem_filter.1 htext).1
  unfold alternatives
  generalize texts.filter (· ≠ "") = kept at hkept
  cases kept with
  | nil => exact .inl rfl
  | cons text kept =>
    have hbetween : Neutral " OR ".toList := .ofPlain (by simp [marking])
    have hneutral := Neutral.intercalate hbetween hkept
    exact .inr (.of_content rfl (fun _ => hneutral) hneutral.leavesOpen)

/-- The text is empty and names no relation, or it is one group if all the names are closed. -/
def Groups (text : String) (names : List String) : Prop :=
  text = "" ∧ names = [] ∨ Bracketed text (∀ base ∈ names, Closed base)

theorem base_grouping {relation : Relation} (h : relation.WellFormed) :
    ∀ c ∈ relation.base.toList, c ∉ grouping := by
  rcases h.1 with hsymbol | ⟨hword, -⟩
  · have hsymbols : ∀ symbol ∈ comparatorSymbols, ∀ c ∈ symbol.toList, c ∉ grouping := by
      simp [comparatorSymbols, grouping]
    exact hsymbols _ hsymbol
  · have hdelimiter : ∀ c ∈ grouping, Token.isWordChar c = false := by
      simp [grouping, Token.isWordChar, Token.isDelimiter]
    intro c hc hmem
    have hchar := hword.2 c hc
    simp [hdelimiter c hmem] at hchar

theorem clauseText_groups (schema : Schema) (index : String) {relation : Relation}
    (hrelation : relation.WellFormed) (term : String) :
    Groups (clauseText schema index relation term)
      ((Query.clause index relation term).untranslated schema) := by
  by_cases hset : Text.sameIgnoringCase index resultSetIndex = true
  · simp [clauseText, Query.untranslated, hset, Groups]
  cases hlookup : Lookup.ofRelation? relation with
  | some lookup =>
    have hneutral : ∀ text ∈ (schema.resolve index).map (fieldText schema relation term),
        Neutral text.toList := by
      simp only [List.mem_map]
      rintro _ ⟨field, -, rfl⟩
      exact fieldText_neutral schema hlookup term field
    simpa [clauseText, Query.untranslated, hset, hlookup, Groups] using
      alternatives_neutral hneutral
  | none =>
    have hplaceholders : (schema.resolve index).map (fieldText schema relation term) =
        List.replicate (schema.resolve index).length
          ("Unsupported Relation: " ++ relation.base) := by
      simp [List.eq_replicate_iff, fieldText_untranslated schema hlookup]
    simp only [clauseText, Query.untranslated, hset, hlookup, hplaceholders, List.map_const']
    cases (schema.resolve index).length with
    | zero => exact .inl ⟨rfl, rfl⟩
    | succ k =>
      have hall : (∀ base ∈ List.replicate (k + 1) relation.base, Closed base) ↔
          Closed relation.base := by simp
      have hbracketed := placeholders_bracketed (base_grouping hrelation) k
      rw [← hall] at hbracketed
      exact .inr hbracketed

theorem joinTexts_groups {op : BoolOp} (hop : op ∈ [BoolOp.and, .or, .not, .prox])
    {left right : String} {names names' : List String} (hleft : Groups left names)
    (hright : Groups right names') : Groups (joinTexts op left right) (names ++ names') := by
  unfold joinTexts
  rcases hright with ⟨hright, rfl⟩ | hright
  · simpa [hright] using hleft
  rw [if_neg hright.ne_empty]
  rcases hleft with ⟨rfl, rfl⟩ | hleft
  · rw [if_pos rfl, List.nil_append]
    split
    · exact .inr (bracketed_exclude hright)
    · exact .inr hright
  · rw [if_neg hleft.ne_empty]
    have hall : (∀ base ∈ names ++ names', Closed base) ↔
        (∀ base ∈ names, Closed base) ∧ ∀ base ∈ names', Closed base := List.forall_mem_append
    unfold Groups
    rw [hall]
    exact .inr (bracketed_join (joiner_neutral hop) hleft hright)

theorem native_groups (schema : Schema) {q : Query} (hq : q.WellFormed) :
    Groups (q.native schema) (q.untranslated schema) := by
  induction q with
  | clause index relation term => exact clauseText_groups schema index hq.2 term
  | boolean op modifiers left right ihleft ihright =>
    obtain ⟨hop, -, hleft, hright⟩ := hq
    exact joinTexts_groups hop (ihleft hleft) (ihright hright)

end Native

/-- The native query of a text is empty or one group if and only if the name of every relation
without a translation is closed in itself. -/
theorem Query.native_isGroup_iff (schema : Schema) {text : String} {q : Query}
    (h : Query.parse text = .ok q) :
    q.native schema = "" ∨ Native.IsGroup (q.native schema) ↔
      ∀ base ∈ q.untranslated schema, Native.Closed base := by
  rcases Native.native_groups schema (wellFormed_of_parse h) with ⟨hempty, hnone⟩ | hbracketed
  · simp [hempty, hnone]
  · rw [hbracketed.isGroup_iff]
    exact or_iff_right hbracketed.ne_empty

/-- Brackets that close in the name of the relation do not count. -/
theorem Query.native_isGroup_iff_brackets :
    let schema : Schema := ⟨.ofSuffixes .standard, [], [], [("when", ["date", "issued"])]⟩
    let q : Query := .boolean .not [] (.clause "title" ⟨"=", []⟩ "moon")
      (.clause "when" ⟨"isbn.later[2]", []⟩ "1990")
    Query.parse "(title = \"moon\" not when isbn.later[2] \"1990\")" = .ok q ∧
      q.native schema = "((title:moon) NOT (Unsupported Relation: isbn.later[2] OR " ++
        "Unsupported Relation: isbn.later[2]))" ∧
      Native.IsGroup (q.native schema) := by
  intro schema q
  have hleft : Query.WellFormed (.clause "title" ⟨"=", []⟩ "moon") :=
    ⟨by decide, .inl (by decide), by simp⟩
  have hright : Query.WellFormed (.clause "when" ⟨"isbn.later[2]", []⟩ "1990") :=
    ⟨by decide, .inr (by decide), by simp⟩
  have htext : q.text = "(title = \"moon\" not when isbn.later[2] \"1990\")" := by
    decide +kernel
  have hparse := parse_text_of_wellFormed (n := q) ⟨by decide, by simp, hleft, hright⟩
  have hclosed : ∀ base ∈ q.untranslated schema, Native.Closed base := by decide +kernel
  have hgroup := (Query.native_isGroup_iff schema hparse).2 hclosed
  rw [htext] at hparse
  exact ⟨hparse, by decide +kernel, hgroup.resolve_left (by decide +kernel)⟩

/-- A backslash at the end of the name of a relation takes the parenthesis after it, so that the
rest of the query falls into a group that never closes. -/
theorem Query.native_not_isGroup_backslash :
    let schema : Schema := ⟨.ofSuffixes .standard, [], [], []⟩
    let q : Query := .boolean .or [] (.clause "title" ⟨"a.\\", []⟩ "moon")
      (.clause "author" ⟨"=", []⟩ "x")
    Query.parse "(title a.\\ \"moon\" or author = \"x\")" = .ok q ∧
      q.native schema = "((Unsupported Relation: a.\\) OR (author:x))" ∧
      ¬ (q.native schema = "" ∨ Native.IsGroup (q.native schema)) := by
  intro schema q
  have hleft : Query.WellFormed (.clause "title" ⟨"a.\\", []⟩ "moon") :=
    ⟨by decide, .inr (by decide), by simp⟩
  have hright : Query.WellFormed (.clause "author" ⟨"=", []⟩ "x") :=
    ⟨by decide, .inl (by decide), by simp⟩
  have htext : q.text = "(title a.\\ \"moon\" or author = \"x\")" := by decide +kernel
  have hparse := parse_text_of_wellFormed (n := q) ⟨by decide, by simp, hleft, hright⟩
  have hopen : ¬ Native.Closed (q.native schema) := by decide +kernel
  rw [htext] at hparse
  refine ⟨hparse, by decide +kernel, ?_⟩
  rintro (hempty | hgroup)
  · rw [hempty] at hopen
    exact hopen rfl
  · exact hopen hgroup.closed

end SearchRetrieve
