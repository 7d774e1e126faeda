import SearchRetrieve.Proofs.Native.Meaning
import SearchRetrieve.Proofs.Schema.Resolution

/-!
# Queries that say nothing

The native query is empty exactly for the silent queries. One silent query in place of another
leaves no trace, and next to a silent query only an exclusion shows that it is there.
-/
namespace SearchRetrieve

/-- The clauses that say nothing, and their joins: a clause for an earlier result set, a range
without its two bounds, and the empty term under no field name. -/
def Query.Silent (schema : Schema) : Query → Prop
  | boolean _ _ left right => left.Silent schema ∧ right.Silent schema
  | clause index relation term =>
    Text.sameIgnoringCase index Native.resultSetIndex ∨
      (Native.Lookup.ofRelation? relation = some .range ∧ (Text.words term).length ≠ 2) ∨
      (Native.Lookup.ofRelation? relation = some .term ∧ term = "" ∧
        ∀ field ∈ schema.resolve index, field = "")

instance Query.decidableSilent (schema : Schema) : (q : Query) → Decidable (q.Silent schema)
  | boolean _ _ left right =>
    have := decidableSilent schema left
    have := decidableSilent schema right
    inferInstanceAs (Decidable (_ ∧ _))
  | clause _ _ _ => inferInstanceAs (Decidable (_ ∨ (_ ∧ _) ∨ (_ ∧ _ ∧ ∀ _ ∈ _, _)))

namespace Native

theorem escape_eq_empty_iff {value : String} : escape value = "" ↔ value = "" := by
  have hchars (cs : List Char) : escapeChars cs = [] ↔ cs = [] := by
    cases cs with
    | nil => simp [escapeChars]
    | cons c cs => by_cases hc : isReserved c = true <;> simp [escapeChars, hc]
  rcases escape_cases value with htext | ⟨c, cs, hvalue, -, htext⟩
  · rw [← String.toList_eq_nil_iff, htext, hchars, String.toList_eq_nil_iff]
  · constructor
    · intro hempty
      simp [hempty] at htext
    · rintro rfl
      simp at hvalue

theorem quoteIfBlank_eq_empty_iff {value : String} : quoteIfBlank value = "" ↔ value = "" := by
  unfold quoteIfBlank
  split
  · next hblank =>
    have hne : value ≠ "" := by
      rintro rfl
      simp [Text.hasBlank] at hblank
    simp [hne]
  · exact escape_eq_empty_iff

theorem wordGroup_ne_empty (field term between : String) : wordGroup field term between ≠ "" := by
  simp [wordGroup]

variable {schema : Schema} {relation : Relation} {term field : String}

/-- In one field, a range without its two bounds and the empty term under no name are all that
says nothing. -/
theorem fieldText_eq_empty_iff : fieldText schema relation term field = "" ↔
    (Lookup.ofRelation? relation = some .range ∧ (Text.words term).length ≠ 2) ∨
      (Lookup.ofRelation? relation = some .term ∧ term = "" ∧ field = "") := by
  cases hlookup : Lookup.ofRelation? relation with
  | none => simp [fieldText_untranslated schema hlookup]
  | some lookup =>
    rw [fieldText_of_lookup schema hlookup]
    cases lookup with
    | term =>
      rw [Lookup.text]
      by_cases hfield : field = ""
      · simp [hfield, quoteIfBlank_eq_empty_iff]
      · simp [hfield]
    | exact => simp [Lookup.text]
    | words op => simp [Lookup.text, wordGroup_ne_empty]
    | range =>
      rw [Lookup.text]
      split
      · next hwords => simp [hwords]
      · next hother =>
        have hlength : (Text.words term).length ≠ 2 := by
          intro hlength
          obtain ⟨lower, upper, hwords⟩ := List.length_eq_two.1 hlength
          exact hother lower upper hwords
        simp [hlength]

theorem alternatives_eq_empty_iff {texts : List String} :
    alternatives texts = "" ↔ ∀ text ∈ texts, text = "" := by
  unfold alternatives
  split
  · next hnone => simpa [List.filter_eq_nil_iff] using hnone
  · next kept hsome =>
    constructor
    · simp
    · intro hall
      exact absurd (List.filter_eq_nil_iff.2 (by simpa using hall)) hsome

theorem clauseText_eq_empty_iff (hschema : schema.Made) {index : String} :
    clauseText schema index relation term = "" ↔
      (Query.clause index relation term).Silent schema := by
  obtain ⟨first, hfirst⟩ := List.exists_mem_of_ne_nil _ (hschema.resolve_ne_nil index)
  unfold clauseText Query.Silent
  split
  · next hset => simp [hset]
  · next hset =>
    rw [alternatives_eq_empty_iff, or_iff_right hset]
    simp only [List.forall_mem_map, fieldText_eq_empty_iff]
    constructor
    · intro hall
      rcases hall first hfirst with hrange | ⟨hrelation, hterm, -⟩
      · exact .inl hrange
      · refine .inr ⟨hrelation, hterm, fun field hfield => ?_⟩
        rcases hall field hfield with ⟨hrange, -⟩ | ⟨-, -, hempty⟩
        · rw [hrelation] at hrange
          cases hrange
        · exact hempty
    · rintro (hrange | ⟨hrelation, hterm, hnames⟩) field hfield
      · exact .inl hrange
      · exact .inr ⟨hrelation, hterm, hnames field hfield⟩

theorem joinTexts_eq_empty_iff {op : BoolOp} {left right : String} :
    joinTexts op left right = "" ↔ left = "" ∧ right = "" := by
  unfold joinTexts
  by_cases hright : right = ""
  · simp [hright]
  by_cases hleft : left = ""
  · by_cases hop : op = .not <;> simp [hright, hleft, hop]
  · simp [hright, hleft]

end Native

namespace Query

variable {schema : Schema} {a b : Query}

theorem native_eq_empty_iff (hschema : schema.Made) (q : Query) :
    q.native schema = "" ↔ q.Silent schema := by
  induction q with
  | clause index relation term => exact Native.clauseText_eq_empty_iff hschema
  | boolean op modifiers left right ihleft ihright =>
    rw [native, Native.joinTexts_eq_empty_iff, ihleft, ihright, Silent]

/-- A query with a gap in place of one of its parts. -/
inductive Context where
  | gap
  | inLeft (op : BoolOp) (modifiers : List Modifier) (context : Context) (right : Query)
  | inRight (op : BoolOp) (modifiers : List Modifier) (left : Query) (context : Context)

def Context.fill (part : Query) : Context → Query
  | gap => part
  | inLeft op modifiers context right => .boolean op modifiers (context.fill part) right
  | inRight op modifiers left context => .boolean op modifiers left (context.fill part)

/-- The native query of the whole depends on a part only through the native query of the part. -/
theorem native_fill_congr (h : a.native schema = b.native schema) (context : Context) :
    (context.fill a).native schema = (context.fill b).native schema := by
  induction context with
  | gap => exact h
  | inLeft op modifiers context right ih =>
    rw [Context.fill, Context.fill, native, native, ih]
  | inRight op modifiers left context ih =>
    rw [Context.fill, Context.fill, native, native, ih]

/-- The native query is empty for the silent queries and no others. A silent part of a query can
be exchanged for any other. A silent side of a join leaves the text of the other side, but an
exclusion on the right of it becomes an exclusion from all records. -/
theorem native_of_silent (hschema : schema.Made) :
    (∀ q : Query, q.native schema = "" ↔ q.Silent schema) ∧
    (∀ (context : Context) (a b : Query), a.Silent schema → b.Silent schema →
      (context.fill a).native schema = (context.fill b).native schema) ∧
    (∀ op modifiers left right, ¬ left.Silent schema → right.Silent schema →
      (boolean op modifiers left right).native schema = left.native schema) ∧
    ∀ op modifiers left right, left.Silent schema → ¬ right.Silent schema →
      (boolean op modifiers left right).native schema =
        if op = .not then "(*:* NOT " ++ right.native schema ++ ")" else right.native schema := by
  have hempty := native_eq_empty_iff hschema
  refine ⟨hempty, fun context a b ha hb => ?_, fun op modifiers left right _ hright => ?_,
    fun op modifiers left right hleft hright => ?_⟩
  · exact native_fill_congr (((hempty a).2 ha).trans ((hempty b).2 hb).symm) context
  · rw [native, (hempty right).2 hright, Native.joinTexts, if_pos rfl]
  · have hnonempty : right.native schema ≠ "" := fun h => hright ((hempty right).1 h)
    rw [native, (hempty left).2 hleft, Native.joinTexts, if_neg hnonempty, if_pos rfl]

/-- A range with one bound and an earlier result set, each on the left of an exclusion. -/
theorem native_of_silent_exclusion :
    let schema := Schema.ofSettings { SchemaSettings.standard with anywhereAliases := ["any"] }
    let range : Query := .clause "date" ⟨"WITHIN", []⟩ " 1990 "
    let earlier : Query := .clause "CQL.resultsetid" ⟨"=", []⟩ "7"
    let title : Query := .clause "title" ⟨"=", []⟩ ""
    (Query.join .or (.join .not range title) range).native schema = "(*:* NOT (title:))" ∧
      (Query.join .or (.join .not earlier title) range).native schema = "(*:* NOT (title:))" := by
  intro schema range earlier title
  obtain ⟨-, hexchange, hleft, hright⟩ :=
    native_of_silent (.ofSettings { SchemaSettings.standard with anywhereAliases := ["any"] })
  have hrange : range.Silent schema := by decide +kernel
  have hearlier : earlier.Silent schema := by decide +kernel
  have htitle : ¬ title.Silent schema := by decide +kernel
  have htext : title.native schema = "(title:)" := by decide +kernel
  have hinner := hright .not [] range title hrange htitle
  rw [if_pos rfl, htext] at hinner
  have houter := hleft .or [] (.join .not range title) range (fun h => htitle h.2) hrange
  have hwhole := houter.trans hinner
  have hsame := hexchange (.inLeft .or [] (.inLeft .not [] .gap title) range) earlier range
    hearlier hrange
  exact ⟨hwhole, hsame.trans hwhole⟩

end Query

end SearchRetrieve
