import SearchRetrieve.Native.Compile
import SearchRetrieve.Proofs.Native.Reading
import SearchRetrieve.Proofs.Schema.Naming
import SearchRetrieve.Proofs.Text.Words

/-!
# The meaning of native queries

What a query asks of the fields of a schema is a formula that is stated without any text. The
native query is read back as this formula, and it is empty exactly if the query asks for nothing.
No term, however written, changes how the rest is read.
-/
namespace SearchRetrieve

namespace Native

inductive Lookup where
  | term
  | exact
  /-- Each word on its own, under an operator. -/
  | words (op : Operator)
  | range
  deriving DecidableEq, Repr

def lookups : List (String × Lookup) :=
  [("=", .term), ("scr", .term), ("exact", .exact), ("==", .exact), ("any", .words .or),
    ("all", .words .and), ("within", .range), ("cql.within", .range)]

/-- The case of the letters of a relation does not count. -/
def Lookup.ofRelation? (relation : Relation) : Option Lookup :=
  (lookups.find? fun entry => Text.sameIgnoringCase relation.base entry.1).map (·.2)

/-- The field itself or, if stemmed words are asked for, its stemmed variant. -/
def searchedField (schema : Schema) (relation : Relation) (field : String) : String :=
  if relation.modifiers.any fun m => Text.sameIgnoringCase m.name "stem" then
    schema.variantName field .stemmed
  else field

/-- What a clause asks of one field; a range has exactly two bounds. -/
def Lookup.formula? (schema : Schema) (relation : Relation) (term field : String) :
    Lookup → Option Formula
  | .term => some (.term (some (searchedField schema relation field)) (.ofTerm term))
  | .exact => some (.term (some (schema.variantName field .exact)) (.ofTerm term))
  | .words op =>
    some (.joinAll op ((Text.words term).map fun word =>
      .term (some (searchedField schema relation field)) (.word word)))
  | .range =>
    match Text.words term with
    | [lower, upper] => some (.term (some field) (.range lower upper))
    | _ => none

def Operator.ofBoolOp? : BoolOp → Option Operator
  | .and => some .and
  | .or => some .or
  | .not => some .not
  | _ => none

def Formula.everything : Formula := .term (some "*") (.word "*")

/-- A side that asks for nothing leaves the other side, but an exclusion from nothing excludes
from everything. -/
def Formula.join? (op : Operator) : Option Formula → Option Formula → Option Formula
  | left, none => left
  | none, some right => if op = .not then some (.join .not everything right) else some right
  | some left, some right => some (.join op left right)

def Formula.anyOf? : List Formula → Option Formula
  | [] => none
  | fs => some (.joinAll .or fs)

end Native

/-- What a query asks for over a schema, if it asks for anything. -/
def Query.intended? (schema : Schema) : Query → Option Native.Formula
  | boolean op _ left right => do
    let op ← Native.Operator.ofBoolOp? op
    Native.Formula.join? op (left.intended? schema) (right.intended? schema)
  | clause index relation term => do
    let lookup ← Native.Lookup.ofRelation? relation
    if Text.sameIgnoringCase index Native.resultSetIndex then none
    else Native.Formula.anyOf? ((schema.resolve index).filterMap fun field =>
      lookup.formula? schema relation term field)

/-- A name that can stand before a colon. -/
def Native.IsField (name : String) : Prop := name ≠ "" ∧ Text.hasBlank name.toList = false

instance (name : String) : Decidable (Native.IsField name) :=
  inferInstanceAs (Decidable (_ ∧ _))

/-- A query with operators and relations that the engine knows, over fields that it can name. -/
def Query.Translatable (schema : Schema) : Query → Prop
  | boolean op _ left right =>
    (Native.Operator.ofBoolOp? op).isSome ∧ left.Translatable schema ∧ right.Translatable schema
  | clause index relation _ =>
    (Native.Lookup.ofRelation? relation).isSome ∧
      ∀ field ∈ schema.resolve index, Native.IsField field

instance Query.decidableTranslatable (schema : Schema) :
    (q : Query) → Decidable (q.Translatable schema)
  | boolean _ _ left right =>
    have := decidableTranslatable schema left
    have := decidableTranslatable schema right
    inferInstanceAs (Decidable (_ ∧ _ ∧ _))
  | clause _ _ _ => inferInstanceAs (Decidable (_ ∧ ∀ _ ∈ _, Native.IsField _))

def Schema.PlainSuffixes (schema : Schema) : Prop :=
  ∀ v suffix, schema.suffix? v = some suffix → Text.hasBlank suffix.toList = false

namespace Native

theorem variantName_isField {schema : Schema} (hsuffix : schema.PlainSuffixes) {name : String}
    (h : IsField name) (v : Variant) : IsField (schema.variantName name v) := by
  refine ⟨SuffixTable.rename_ne_empty h.1, ?_⟩
  have hname := h.2
  simp only [Text.hasBlank, List.any_eq_false] at hname ⊢
  intro c hc
  rcases SuffixTable.mem_rename hc with hc | ⟨suffix, hs, hc⟩
  · exact hname c hc
  · have hblank := hsuffix v suffix hs
    simp only [Text.hasBlank, List.any_eq_false] at hblank
    exact hblank c hc

theorem searchedField_isField {schema : Schema} (hsuffix : schema.PlainSuffixes)
    (relation : Relation) {field : String} (h : IsField field) :
    IsField (searchedField schema relation field) := by
  unfold searchedField
  split
  · exact variantName_isField hsuffix h .stemmed
  · exact h

theorem words_isField {term word : String} (h : word ∈ Text.words term) : IsField word :=
  Text.mem_words h

theorem Reads.ne_empty {text : String} {f : Formula} (h : Reads text f) : text ≠ "" := by
  rintro rfl
  have hformula := h.formula?
  simp [Native.formula?, marks?, lexemes?, assemble?] at hformula

/-- The text says what the formula says, and the empty text says nothing. -/
def Says (text : String) : Option Formula → Prop
  | none => text = ""
  | some f => Reads text f

variable {schema : Schema} {relation : Relation} {lookup : Lookup} {field : String}

theorem mem_lookups (h : Lookup.ofRelation? relation = some lookup) :
    (Text.asciiLower relation.base, lookup) ∈ lookups := by
  have hlower : ∀ entry ∈ lookups, Text.asciiLower entry.1 = entry.1 := by decide
  obtain ⟨entry, hfind, rfl⟩ := Option.map_eq_some_iff.1 h
  have hmem := List.mem_of_find?_eq_some hfind
  have hsame := List.find?_some hfind
  simp only [Text.sameIgnoringCase, hlower entry hmem, beq_iff_eq] at hsame
  rw [hsame]
  exact hmem

def Lookup.text (schema : Schema) (relation : Relation) (term field : String) : Lookup → String
  | .term =>
    if field = "" then quoteIfBlank term
    else escape (target schema relation field) ++ ":" ++ quoteIfBlank term
  | .exact => escape (schema.variantName field .exact) ++ ":" ++ quoteIfBlank term
  | .words op => wordGroup (target schema relation field) term op.between
  | .range =>
    match Text.words term with
    | [lower, upper] => escape field ++ ":[" ++ escape lower ++ " TO " ++ escape upper ++ "]"
    | _ => ""

theorem fieldText_of_lookup (schema : Schema) (h : Lookup.ofRelation? relation = some lookup)
    (term field : String) :
    fieldText schema relation term field = lookup.text schema relation term field := by
  have hmem := mem_lookups h
  simp only [lookups, List.mem_cons, List.not_mem_nil, or_false, Prod.mk.injEq] at hmem
  rcases hmem with ⟨hbase, rfl⟩ | ⟨hbase, rfl⟩ | ⟨hbase, rfl⟩ | ⟨hbase, rfl⟩ | ⟨hbase, rfl⟩ |
    ⟨hbase, rfl⟩ | ⟨hbase, rfl⟩ | ⟨hbase, rfl⟩ <;>
    (rw [fieldText, hbase]; rfl)

theorem fieldText_untranslated (schema : Schema) (h : Lookup.ofRelation? relation = none)
    (term field : String) :
    fieldText schema relation term field = "Unsupported Relation: " ++ relation.base := by
  have hlower : ∀ entry ∈ lookups, Text.asciiLower entry.1 = entry.1 := by decide
  have hnone : ∀ entry ∈ lookups, Text.asciiLower relation.base ≠ entry.1 := by
    intro entry hentry hbase
    have hfind :
        lookups.find? (fun entry => Text.sameIgnoringCase relation.base entry.1) = none := by
      simpa [Lookup.ofRelation?] using h
    have hdiffers := List.find?_eq_none.1 hfind entry hentry
    simp [Text.sameIgnoringCase, hlower entry hentry, hbase] at hdiffers
  simp only [lookups, List.mem_cons, List.not_mem_nil, or_false, forall_eq_or_imp, forall_eq]
    at hnone
  unfold fieldText
  split <;> simp_all

theorem wordGroup_reads (op : Operator) (hfield : IsField field) (term : String) :
    Reads (wordGroup field term op.between)
      (.joinAll op ((Text.words term).map fun word => .term (some field) (.word word))) := by
  apply reads_group op
  rw [List.forall₂_map_left_iff, List.forall₂_map_right_iff, List.forall₂_same]
  intro word hword
  exact reads_word hfield.1 hfield.2 (words_isField hword).2

theorem range_says (hfield : IsField field) (term : String) :
    Says (match Text.words term with
      | [lower, upper] => escape field ++ ":[" ++ escape lower ++ " TO " ++ escape upper ++ "]"
      | _ => "")
      (Lookup.range.formula? schema relation term field) := by
  unfold Lookup.formula?
  split
  · next lower upper hwords =>
    have hmem : ∀ word ∈ [lower, upper], IsField word :=
      fun word hword => words_isField (by rwa [hwords])
    have hlower := hmem lower (by simp)
    have hupper := hmem upper (by simp)
    exact reads_range hfield.1 hfield.2 hlower.1 hlower.2 hupper.1 hupper.2
  · rfl

/-- The text for one field says what the clause asks of the field. -/
theorem fieldText_says (hsuffix : schema.PlainSuffixes)
    (hlookup : Lookup.ofRelation? relation = some lookup) (term : String)
    (hfield : IsField field) :
    Says (fieldText schema relation term field) (lookup.formula? schema relation term field) := by
  have hsearched := searchedField_isField hsuffix relation hfield
  have hexact := variantName_isField hsuffix hfield .exact
  rw [fieldText_of_lookup schema hlookup]
  cases lookup with
  | term =>
    rw [Lookup.text, if_neg hfield.1]
    exact reads_clause hsearched.1 hsearched.2 term
  | exact => exact reads_clause hexact.1 hexact.2 term
  | words op => exact wordGroup_reads op hsearched term
  | range => exact range_says hfield term

/-- The texts that are not empty are read as the formulas of those that ask for something. -/
theorem kept_reads {α : Type} {text : α → String} {formula : α → Option Formula} {xs : List α}
    (h : ∀ x ∈ xs, Says (text x) (formula x)) :
    List.Forall₂ Reads ((xs.map text).filter (· ≠ "")) (xs.filterMap formula) := by
  induction xs with
  | nil => exact .nil
  | cons x xs ih =>
    have hx := h x (by simp)
    have hxs := ih fun y hy => h y (by simp [hy])
    cases hf : formula x with
    | none =>
      rw [hf] at hx
      simpa [hf, show text x = "" from hx] using hxs
    | some f =>
      have hreads : Reads (text x) f := by simpa [hf, Says] using hx
      simpa [hf, hreads.ne_empty] using List.Forall₂.cons hreads hxs

theorem alternatives_says {texts : List String} {fs : List Formula}
    (h : List.Forall₂ Reads (texts.filter (· ≠ "")) fs) :
    Says (alternatives texts) (Formula.anyOf? fs) := by
  unfold alternatives
  generalize texts.filter (· ≠ "") = kept at h
  cases h with
  | nil => rfl
  | cons hfirst hothers => exact reads_group .or (.cons hfirst hothers)

theorem reads_join (op : Operator) {left right : String} {f g : Formula} (hleft : Reads left f)
    (hright : Reads right g) :
    Reads ("(" ++ left ++ op.between ++ right ++ ")") (.join op f g) := by
  have hgroup := reads_group op (.cons hleft (.cons hright .nil))
  simpa [String.intercalate_cons_cons, String.append_assoc, Formula.joinAll] using hgroup

theorem everything_reads : Reads "*:*" Formula.everything := by
  have hfield : IsField "*" := by decide
  have htext : "*:*" = escape "*" ++ ":" ++ escape "*" := by decide +kernel
  rw [htext]
  exact reads_word hfield.1 hfield.2 hfield.2

theorem joinTexts_says {bool : BoolOp} {op : Operator} (hop : Operator.ofBoolOp? bool = some op)
    {left right : String} {f g : Option Formula} (hleft : Says left f) (hright : Says right g) :
    Says (joinTexts bool left right) (Formula.join? op f g) := by
  have hjoiner : joiner bool = op.between := by
    cases bool <;> cases hop <;> rfl
  have hnot : bool = .not ↔ op = .not := by
    cases bool <;> cases hop <;> simp
  unfold joinTexts
  -- a side is the empty text just when it asks for nothing, as no readable text is empty
  cases g with
  | none =>
    have hright : right = "" := hright
    rw [if_pos hright]
    cases f <;> exact hleft
  | some g =>
    have hright : Reads right g := hright
    rw [if_neg hright.ne_empty]
    cases f with
    | none =>
      have hleft : left = "" := hleft
      rw [if_pos hleft]
      simp only [Formula.join?, hnot]
      split
      · have hexclude : "(*:* NOT " = "(" ++ "*:*" ++ Operator.not.between := by decide
        rw [hexclude]
        exact reads_join .not everything_reads hright
      · exact hright
    | some f =>
      have hleft : Reads left f := hleft
      rw [if_neg hleft.ne_empty, hjoiner]
      exact reads_join op hleft hright

theorem native_says (hsuffix : schema.PlainSuffixes) {q : Query} (hq : q.Translatable schema) :
    Says (q.native schema) (q.intended? schema) := by
  induction q with
  | clause index relation term =>
    obtain ⟨hlookup, hfields⟩ := hq
    obtain ⟨lookup, hlookup⟩ := Option.isSome_iff_exists.1 hlookup
    simp only [Query.native, Query.intended?, hlookup, Option.bind_eq_bind, Option.bind_some]
    unfold clauseText
    by_cases hset : Text.sameIgnoringCase index resultSetIndex = true
    · rw [if_pos hset, if_pos hset]
      rfl
    · rw [if_neg hset, if_neg hset]
      exact alternatives_says (kept_reads fun field hfield =>
        fieldText_says hsuffix hlookup term (hfields field hfield))
  | boolean op modifiers left right ihleft ihright =>
    obtain ⟨hop, hl, hr⟩ := hq
    obtain ⟨op', hop⟩ := Option.isSome_iff_exists.1 hop
    simp only [Query.native, Query.intended?, hop, Option.bind_eq_bind, Option.bind_some]
    exact joinTexts_says hop (ihleft hl) (ihright hr)

end Native

/-- The native query is empty exactly if the query asks for nothing; otherwise it is read back as
what the query asks for. -/
theorem Query.native_meaning (schema : Schema) (hsuffix : schema.PlainSuffixes) (q : Query)
    (hq : q.Translatable schema) :
    (q.native schema = "" ↔ q.intended? schema = none) ∧
      ∀ f, q.intended? schema = some f → Native.formula? (q.native schema) = some f := by
  have hsays := Native.native_says hsuffix hq
  cases hf : q.intended? schema with
  | none =>
    rw [hf] at hsays
    have hempty : q.native schema = "" := hsays
    simp [hempty]
  | some f =>
    rw [hf] at hsays
    have hreads : Native.Reads (q.native schema) f := hsays
    simp [hreads.ne_empty, hreads.formula?]

/-- A word that looks like an operator and a word that closes a group, each in two fields, among
all records. -/
theorem Query.native_meaning_exclusion :
    let schema : Schema := ⟨[(.stemmed, ".stemmed")], ["anywhere"], ["title", "full:text"], []⟩
    let words : Query := .clause "Anywhere" ⟨"ALL", [⟨"STEM", none, none⟩]⟩ "OR \") NOT"
    let earlier : Query := .clause "cql.resultsetid" ⟨"=", []⟩ "7"
    Native.formula? ((Query.boolean .not [] earlier words).native schema) =
      some (.join .not (.term (some "*") (.word "*"))
        (.join .or
          (.join .and
            (.join .and (.term (some "title.stemmed") (.word "OR"))
              (.term (some "title.stemmed") (.word "\")")))
            (.term (some "title.stemmed") (.word "NOT")))
          (.join .and
            (.join .and (.term (some "full:text.stemmed") (.word "OR"))
              (.term (some "full:text.stemmed") (.word "\")")))
            (.term (some "full:text.stemmed") (.word "NOT"))))) := by
  intro schema words earlier
  have hsuffix : schema.PlainSuffixes := by
    intro v suffix h
    cases v <;> cases h
    decide
  exact (Query.native_meaning schema hsuffix _ (by decide +kernel)).2 _ (by decide +kernel)

end SearchRetrieve
