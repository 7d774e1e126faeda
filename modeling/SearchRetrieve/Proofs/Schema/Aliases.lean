import Mathlib.Data.List.Induction
import SearchRetrieve.Proofs.Schema.Catalogue
import SearchRetrieve.Proofs.Schema.Resolution

/-!
# What an index stands for

The settings alone tell what an index resolves to. Of the synonyms whose alias has its lower case
form the one with the greatest alias counts, and those without fields do not count at all. Next come
the fields that are searched anywhere, and an index that stands for nothing else is itself a field.
-/
namespace SearchRetrieve

namespace Synonyms

variable {entries : List (String × List String)} {entry : String × List String} {key : String}

def IsCandidate (key : String) (entry : String × List String) : Prop :=
  entry.2 ≠ [] ∧ Text.lower entry.1 = key

instance (key : String) (entry : String × List String) : Decidable (IsCandidate key entry) :=
  inferInstanceAs (Decidable (_ ∧ _))

/-- The candidate whose alias is the greatest by its bytes. -/
structure Answers (entries : List (String × List String)) (key : String)
    (entry : String × List String) : Prop where
  mem : entry ∈ entries
  candidate : IsCandidate key entry
  greatest : ∀ other ∈ entries, IsCandidate key other →
    ¬ Text.utf8Bytes entry.1 < Text.utf8Bytes other.1

theorem answers_append_of_candidate {last : String × List String}
    (h : (entries ++ [last]).Pairwise fun a b => a.1 < b.1) (hlast : IsCandidate key last) :
    Answers (entries ++ [last]) key entry ↔ entry = last := by
  have hbefore : ∀ other ∈ entries, other.1 < last.1 := fun other hother =>
    (List.pairwise_append.1 h).2.2 other hother last (List.mem_singleton_self last)
  have hmem : last ∈ entries ++ [last] := by simp
  constructor
  · intro hanswers
    rcases List.mem_append.1 hanswers.mem with hentry | hentry
    · exact absurd (Text.utf8Bytes_lt (hbefore entry hentry)) (hanswers.greatest last hmem hlast)
    · exact List.mem_singleton.1 hentry
  · rintro rfl
    refine ⟨hmem, hlast, fun other hother _ hlt => ?_⟩
    rcases List.mem_append.1 hother with hother | hother
    · exact lt_asymm (hbefore other hother) (Text.utf8Bytes_lt_iff.1 hlt)
    · exact lt_irrefl _ (List.mem_singleton.1 hother ▸ Text.utf8Bytes_lt_iff.1 hlt)

theorem answers_append_of_not_candidate {last : String × List String}
    (hlast : ¬ IsCandidate key last) :
    Answers (entries ++ [last]) key entry ↔ Answers entries key entry := by
  have hold {other : String × List String} (hcandidate : IsCandidate key other) :
      other ∈ entries ++ [last] ↔ other ∈ entries := by
    have hne : other ≠ last := fun heq => hlast (heq ▸ hcandidate)
    simp [hne]
  constructor
  · rintro ⟨hmem, hcandidate, hgreatest⟩
    exact ⟨(hold hcandidate).1 hmem, hcandidate, fun other hother =>
      hgreatest other (List.mem_append_left _ hother)⟩
  · rintro ⟨hmem, hcandidate, hgreatest⟩
    exact ⟨(hold hcandidate).2 hmem, hcandidate, fun other hother hother' =>
      hgreatest other ((hold hother').1 hother) hother'⟩

end Synonyms

namespace Schema

open Synonyms

variable {entries : List (String × List String)} {entry : String × List String}
  {key index : String} {fields names : List String}

theorem entry_of_candidate (h : IsCandidate key entry) :
    synonymOf? entry = some (key, entry.2.eraseDups) := by
  obtain ⟨hne, rfl⟩ := h
  simp [synonymOf?, hne]

theorem lookup_of_not_candidate (h : ¬ IsCandidate key entry)
    (table : List (String × List String)) :
    ((synonymOf? entry).toList ++ table).lookup key = table.lookup key := by
  unfold synonymOf?
  split
  · rfl
  · next hfields =>
    have hkey : key ≠ Text.lower entry.1 := fun hkey => h ⟨by simpa using hfields, hkey.symm⟩
    simp [List.lookup_cons, beq_false_of_ne hkey]

def synonymTable (entries : List (String × List String)) : List (String × List String) :=
  (entries.filterMap synonymOf?).reverse

theorem synonymTable_append (entries : List (String × List String))
    (last : String × List String) :
    synonymTable (entries ++ [last]) = (synonymOf? last).toList ++ synonymTable entries := by
  cases hlast : synonymOf? last <;> simp [synonymTable, hlast]

/-- A later synonym counts before those it replaces, and aliases increase. -/
theorem lookup_synonymTable (h : entries.Pairwise fun a b => a.1 < b.1) :
    (synonymTable entries).lookup key = some fields ↔
      ∃ entry, Answers entries key entry ∧ fields = entry.2.eraseDups := by
  induction entries using List.reverseRecOn with
  | nil => exact iff_of_false (by simp [synonymTable]) fun ⟨_, hanswers, _⟩ => nomatch hanswers.mem
  | append_singleton entries last ih =>
    have hbefore := (List.pairwise_append.1 h).1
    rw [synonymTable_append]
    by_cases hlast : IsCandidate key last
    · simp [entry_of_candidate hlast, answers_append_of_candidate h hlast, eq_comm]
    · simp only [lookup_of_not_candidate hlast, ih hbefore, answers_append_of_not_candidate hlast]

theorem lookup_synonymTable_eq_none :
    (synonymTable entries).lookup key = none ↔ ∀ entry ∈ entries, ¬ IsCandidate key entry := by
  induction entries using List.reverseRecOn with
  | nil => simp [synonymTable]
  | append_singleton entries last ih =>
    rw [synonymTable_append, List.forall_mem_append]
    by_cases hlast : IsCandidate key last
    · simp [entry_of_candidate hlast, hlast]
    · simp [lookup_of_not_candidate hlast, ih, hlast]

/-- The schema is made of these settings, with the fields that they list or with those found in some
index. -/
def IsOf (settings : SchemaSettings) (schema : Schema) : Prop :=
  schema = ofSettings settings ∨ ∃ catalogue, schema = discover settings catalogue

/-- No synonym answers to an index, and it does not stand for the fields searched anywhere. -/
def PassesThrough (settings : SchemaSettings) (anywhere : List String) (index : String) : Prop :=
  (∀ entry ∈ settings.synonyms.entries, ¬ IsCandidate (Text.lower index) entry) ∧
    ¬ (Text.lower index ∈ settings.anywhereAliases.map Text.lower ∧ anywhere ≠ [])

/-- What an index stands for, where `anywhere` are the fields searched anywhere. -/
inductive Resolution (settings : SchemaSettings) (anywhere : List String) (index : String) :
    List String → Prop
  | synonym {entry : String × List String}
      (answers : Answers settings.synonyms.entries (Text.lower index) entry) :
      Resolution settings anywhere index entry.2.eraseDups
  | anywhere
      (silent : ∀ entry ∈ settings.synonyms.entries, ¬ IsCandidate (Text.lower index) entry)
      (reserved : Text.lower index ∈ settings.anywhereAliases.map Text.lower)
      (nonempty : anywhere ≠ []) : Resolution settings anywhere index anywhere
  | itself (passes : PassesThrough settings anywhere index) :
      Resolution settings anywhere index [index]

variable {settings : SchemaSettings} {schema : Schema}

theorem IsOf.synonyms_eq (h : schema.IsOf settings) :
    schema.synonyms = synonymTable settings.synonyms.entries := by
  obtain rfl | ⟨_, rfl⟩ := h <;> rfl

theorem IsOf.isAnywhereAlias_iff (h : schema.IsOf settings) :
    schema.isAnywhereAlias index = true ↔
      Text.lower index ∈ settings.anywhereAliases.map Text.lower := by
  obtain rfl | ⟨_, rfl⟩ := h <;> exact List.contains_iff_mem

theorem IsOf.made (h : schema.IsOf settings) : schema.Made := by
  obtain rfl | ⟨catalogue, rfl⟩ := h
  · exact .ofSettings settings
  · exact .discover settings catalogue

theorem IsOf.anywhereFields_nodup (h : schema.IsOf settings) : schema.anywhereFields.Nodup := by
  obtain rfl | ⟨catalogue, rfl⟩ := h
  · exact baseNames_nodup _ _
  · exact (sortedNames_increasing _).imp fun hlt => ne_of_lt hlt

theorem IsOf.variant?_eq_none (h : schema.IsOf settings) {name : String}
    (hname : name ∈ schema.anywhereFields) : schema.variant? name = none := by
  obtain rfl | ⟨catalogue, rfl⟩ := h
  · exact (mem_baseNames.1 hname).2
  · exact (mem_discover.1 hname).2

theorem IsOf.resolution (h : schema.IsOf settings) (index : String) :
    Resolution settings schema.anywhereFields index (schema.resolve index) := by
  unfold resolve
  rw [h.synonyms_eq]
  cases hlookup : (synonymTable settings.synonyms.entries).lookup (Text.lower index) with
  | some found =>
    obtain ⟨entry, hanswers, rfl⟩ := (lookup_synonymTable settings.synonyms.ordered).1 hlookup
    exact .synonym hanswers
  | none =>
    have hsilent := lookup_synonymTable_eq_none.1 hlookup
    dsimp only
    split
    · next hanywhere =>
      obtain ⟨halias, hne⟩ := Bool.and_eq_true_iff.1 hanywhere
      exact .anywhere hsilent (h.isAnywhereAlias_iff.1 halias) (by simpa using hne)
    · next hanywhere =>
      refine .itself ⟨hsilent, fun ⟨halias, hne⟩ => hanywhere ?_⟩
      exact Bool.and_eq_true_iff.2 ⟨h.isAnywhereAlias_iff.2 halias, by simpa using hne⟩

/-- No index falls into two cases, and no two synonyms answer to it differently. -/
theorem Resolution.unique (h : Resolution settings names index fields) {others : List String}
    (hothers : Resolution settings names index others) : fields = others := by
  cases h with
  | synonym hanswers =>
    cases hothers with
    | synonym hothers =>
      have hordered := settings.synonyms.ordered
      have hlookup := (lookup_synonymTable hordered).2 ⟨_, hanswers, rfl⟩
      have hlookup' := (lookup_synonymTable hordered).2 ⟨_, hothers, rfl⟩
      exact Option.some.inj (hlookup.symm.trans hlookup')
    | anywhere hsilent => exact absurd hanswers.candidate (hsilent _ hanswers.mem)
    | itself hpasses => exact absurd hanswers.candidate (hpasses.1 _ hanswers.mem)
  | anywhere hsilent halias hne =>
    cases hothers with
    | synonym hothers => exact absurd hothers.candidate (hsilent _ hothers.mem)
    | anywhere => rfl
    | itself hpasses => exact absurd ⟨halias, hne⟩ hpasses.2
  | itself hpasses =>
    cases hothers with
    | synonym hothers => exact absurd hothers.candidate (hpasses.1 _ hothers.mem)
    | anywhere _ halias hne => exact absurd ⟨halias, hne⟩ hpasses.2
    | itself => rfl

theorem Resolution.nodup (h : Resolution settings names index fields) (hnames : names.Nodup) :
    fields.Nodup := by
  cases h with
  | synonym => exact eraseDups_nodup _
  | anywhere => exact hnames
  | itself => exact List.nodup_singleton index

/-- Only the case of an index that stands for itself tells apart how it is written. -/
theorem Resolution.of_lower_eq (h : Resolution settings names index fields) {other : String}
    (hother : Text.lower other = Text.lower index) :
    Resolution settings names other fields ∨
      PassesThrough settings names index ∧ PassesThrough settings names other := by
  cases h with
  | synonym hanswers => exact .inl (.synonym (hother ▸ hanswers))
  | anywhere hsilent halias hne => exact .inl (.anywhere (hother ▸ hsilent) (hother ▸ halias) hne)
  | itself hpasses =>
    refine .inr ⟨hpasses, ?_⟩
    rw [PassesThrough, hother]
    exact hpasses

/-- A field that is searched anywhere does not end in the suffix of an enabled variant. -/
theorem IsOf.ne_append_suffix (h : schema.IsOf settings) {name suffix front : String}
    (hname : name ∈ schema.anywhereFields) {v : Variant} (hsuffix : schema.suffix? v = some suffix)
    (hfront : front ≠ "") : name ≠ front ++ suffix := by
  rintro rfl
  have hbare : schema.suffixes.matching? (front ++ suffix) = none := by
    simpa [variant?, SuffixTable.variant?] using h.variant?_eq_none hname
  have hmarks := SuffixTable.matching?_eq_none.1 hbare (v, suffix) (SuffixTable.suffix?_mem hsuffix)
  exact absurd (SuffixTable.marks_append hfront) (by simpa using hmarks)

/-- What a schema resolves an index to is told by its settings and the fields searched anywhere, for
every index in one way. There is always a field, and none comes twice. No field searched anywhere
has the suffix of an enabled variant. Indexes of one lower case form resolve to the same fields, or
each of them to itself. -/
theorem resolve_by_case (settings : SchemaSettings) (schema : Schema)
    (hschema : schema.IsOf settings) (index : String) :
    (∀ fields, schema.resolve index = fields ↔
      Resolution settings schema.anywhereFields index fields) ∧
    schema.resolve index ≠ [] ∧ (schema.resolve index).Nodup ∧
    (∀ name ∈ schema.anywhereFields, ∀ v suffix, schema.suffix? v = some suffix →
      ∀ front, front ≠ "" → name ≠ front ++ suffix) ∧
    ∀ other, Text.lower other = Text.lower index →
      schema.resolve other = schema.resolve index ∨
        (PassesThrough settings schema.anywhereFields index ∧ schema.resolve index = [index]) ∧
          PassesThrough settings schema.anywhereFields other ∧ schema.resolve other = [other] := by
  have hresolves (i : String) := hschema.resolution i
  refine ⟨fun fields => ⟨fun heq => heq ▸ hresolves index, fun h => ?_⟩,
    hschema.made.resolve_ne_nil index, (hresolves index).nodup hschema.anywhereFields_nodup,
    fun name hname v suffix hsuffix front hfront => hschema.ne_append_suffix hname hsuffix hfront,
    fun other hother => ?_⟩
  · exact (hresolves index).unique h
  · rcases (hresolves index).of_lower_eq hother with hsame | ⟨hpasses, hother⟩
    · exact .inl ((hresolves other).unique hsame)
    · exact .inr ⟨⟨hpasses, (hresolves index).unique (.itself hpasses)⟩,
        hother, (hresolves other).unique (.itself hother)⟩

/-- Of three aliases with one lower case form the last one, the Kelvin sign, has no fields. -/
theorem resolve_by_case_kelvin :
    let settings := { SchemaSettings.standard with
      fields := ["title", "title.exact", "title"]
      synonyms := ⟨[("K", ["a"]), ("k", ["b", "c", "b"]), ("\u212a", [])], by decide⟩ }
    let schema := ofSettings settings
    schema.resolve "\u212a" = ["b", "c"] ∧ schema.resolve "CQL.Anywhere" = ["title"] ∧
      schema.resolve "Date" = ["Date"] := by
  intro settings schema
  have hkelvin : Answers settings.synonyms.entries (Text.lower "\u212a")
      ("k", ["b", "c", "b"]) := by
    constructor <;> decide +kernel
  have hsilent : ∀ index ∈ ["CQL.Anywhere", "Date"], ∀ entry ∈ settings.synonyms.entries,
      ¬ IsCandidate (Text.lower index) entry := by decide +kernel
  have hfields : schema.anywhereFields = ["title"] := by decide +kernel
  have hdate : PassesThrough settings schema.anywhereFields "Date" :=
    ⟨hsilent "Date" (by decide), by decide +kernel⟩
  have hcases (index : String) := resolve_by_case settings schema (.inl rfl) index
  have hanywhere : schema.resolve "CQL.Anywhere" = schema.anywhereFields :=
    ((hcases "CQL.Anywhere").1 _).2 (.anywhere (hsilent "CQL.Anywhere" (by decide))
      (by decide +kernel) (by simp [hfields]))
  exact ⟨((hcases "\u212a").1 _).2 (.synonym hkelvin), hanywhere.trans hfields,
    ((hcases "Date").1 _).2 (.itself hdate)⟩

end Schema

end SearchRetrieve
