import SearchRetrieve.Proofs.Schema.Naming
import SearchRetrieve.Proofs.Sort.Codec
import SearchRetrieve.Sort.Field

/-!
# Sort keys on their way to a server

A server reads the keys that it is sent as the same keys over the sort variants of their fields. The
fields that an engine sorts by are those of the keys that the server reads.
-/
namespace SearchRetrieve.SortKey

/-- Nothing in the text ends a component or a key of a list. -/
def Listable (text : String) : Prop := ∀ c ∈ text.toList, c ≠ ',' ∧ Text.isBlank c = false

instance (text : String) : Decidable (Listable text) :=
  List.decidableBAll (fun c => c ≠ ',' ∧ Text.isBlank c = false) text.toList

variable {k : SortKey} {keys : List SortKey} {text path : String} {schema : Schema}

theorem Listable.comma_not_mem (h : Listable text) : ',' ∉ text.toList :=
  fun hcomma => (h ',' hcomma).1 rfl

theorem Listable.isTrimmed (h : Listable text) : Text.IsTrimmed text :=
  ⟨fun c hc => (h c (List.mem_of_mem_head? hc)).2, fun c hc => (h c (List.mem_of_getLast? hc)).2⟩

def Unbroken (k : SortKey) : Prop :=
  ∀ part ∈ k.allComponents, ∀ c ∈ part.toList, Text.isBlank c = false

theorem Unbroken.not_isBlank (h : k.Unbroken) : ∀ c ∈ k.text.toList, Text.isBlank c = false := by
  intro c hc
  rw [text_eq] at hc
  rcases Text.mem_intercalate hc with hcomma | ⟨part, hpart, hc⟩
  · rw [List.mem_singleton.1 hcomma]
    decide
  · exact h part (List.mem_of_mem_take hpart) c hc

theorem unbroken_of_parse (h : parse text = .ok k)
    (htext : ∀ c ∈ text.toList, Text.isBlank c = false) : k.Unbroken := by
  have hpieces : ∀ piece ∈ Text.splitAt ',' text, ∀ c ∈ piece.toList,
      (!Text.isBlank c) = true := by
    intro piece hpiece c hc
    simpa using htext c (Text.mem_of_mem_splitAt hpiece hc)
  intro part hpart c hc
  simpa using allComponents_of_parse h hpieces (by decide) part hpart c hc

theorem of_parseList (h : parseList text = .ok keys) (hk : k ∈ keys) :
    k.WellFormed ∧ k.Unbroken := by
  obtain ⟨word, hword, hread⟩ := exists_of_mapM_ok h k hk
  have hblank := (Text.mem_words hword).2
  refine ⟨wellFormed_of_parse hread, unbroken_of_parse hread ?_⟩
  simpa [Text.hasBlank] using hblank

theorem WellFormed.withPath (h : k.WellFormed) (hne : path ≠ "") (hpath : Listable path) :
    WellFormed { k with path } where
  path_ne := hne
  path_comma := hpath.comma_not_mem
  path_trimmed := hpath.isTrimmed
  schema := h.schema
  value := h.value

theorem Unbroken.withPath (h : k.Unbroken) (hpath : Listable path) :
    Unbroken { k with path } := by
  intro part hpart
  rcases List.mem_cons.1 hpart with rfl | hlater
  · exact fun c hc => (hpath c hc).2
  · exact h part (List.mem_cons_of_mem _ hlater)

theorem listable_variantName {v : Variant} {base : String} (hbase : Listable base)
    (hsuffix : ∀ suffix, schema.suffix? v = some suffix → Listable suffix) :
    Listable (schema.variantName base v) := by
  intro c hc
  rcases SuffixTable.mem_rename hc with hc | ⟨suffix, hs, hc⟩
  · exact hbase c hc
  · exact hsuffix suffix hs c hc

theorem parseList_texts (h : ∀ k ∈ keys, k.WellFormed ∧ k.Unbroken) :
    parseList (String.intercalate " " (keys.map SortKey.text)) = .ok keys := by
  have hback : ∀ k ∈ keys, parse k.text = .ok k := fun k hk => (h k hk).1.parse_text
  have hempty : ∀ k, parse "" ≠ .ok k := by
    intro k hk
    have hpath := (ofParts_eq_ok.1 (parse_eq_ok.1 hk)).2.1
    exact hpath (by decide)
  have hwords : ∀ word ∈ keys.map SortKey.text,
      word ≠ "" ∧ Text.hasBlank word.toList = false := by
    intro word hword
    obtain ⟨k, hk, rfl⟩ := List.mem_map.1 hword
    constructor
    · intro hnone
      have hread := hback k hk
      rw [hnone] at hread
      exact hempty k hread
    · simpa [Text.hasBlank] using (h k hk).2.not_isBlank
  rw [parseList, Text.words_intercalate hwords]
  exact mapM_map_eq_pure hback

def bases (schema : Schema) (keys : List SortKey) : List String :=
  keys.flatMap fun k => schema.resolve k.path

/-- What a key over a sort variant asks of an engine. -/
def physicalFields (schema : Schema) (k : SortKey) (base : String) : List SortField :=
  (if k.missingValue = .highValue then [⟨schema.variantName base .present, k.ascending⟩] else []) ++
    [⟨k.path, !k.ascending⟩]

theorem fieldsOf_eq (schema : Schema) (k : SortKey) (base : String) : fieldsOf schema k base =
    physicalFields schema { k with path := schema.variantName base .sort } base := by
  unfold fieldsOf physicalFields
  dsimp only
  split <;> rfl

theorem fields_eq_physicalFields (schema : Schema) (keys : List SortKey) :
    fields schema keys = (List.zipWith (physicalFields schema) (physical schema keys)
      (bases schema keys)).flatten := by
  induction keys with
  | nil => rfl
  | cons k keys ih =>
    have hlength : ((schema.resolve k.path).map fun base =>
        { k with path := schema.variantName base .sort }).length =
          (schema.resolve k.path).length := List.length_map _
    have hfields : (schema.resolve k.path).flatMap (fieldsOf schema k) =
        (List.zipWith (physicalFields schema) ((schema.resolve k.path).map fun base =>
          { k with path := schema.variantName base .sort }) (schema.resolve k.path)).flatten := by
      rw [List.zipWith_map_left, List.zipWith_self, List.flatMap_def,
        funext (fieldsOf_eq schema k)]
    simp only [fields, physical, bases, List.flatMap_cons] at ih ⊢
    rw [List.zipWith_append hlength, List.flatten_append, ← ih, hfields]

/-- The text for a server reads back as one key for each key that was read before and each field
that it resolves to, the same but for its path, which is the sort variant of the field. An engine is
asked for the path of each of these keys in its direction, after the presence variant against it if
missing values are high. -/
theorem rendered_reads_back (hkeys : parseList text = .ok keys)
    (hfields : ∀ k ∈ keys, ∀ base ∈ schema.resolve k.path, base ≠ "" ∧ Listable base)
    (hsuffix : ∀ suffix, schema.suffix? .sort = some suffix → Listable suffix) :
    ∃ back, parseList (rendered schema keys) = .ok back ∧
      back = keys.flatMap (fun k => (schema.resolve k.path).map fun base =>
        { k with path := schema.variantName base .sort }) ∧
      fields schema keys =
        (List.zipWith (fun k base =>
          (if k.missingValue = .highValue then
            [⟨schema.variantName base .present, k.ascending⟩] else []) ++
          [⟨k.path, !k.ascending⟩]) back
          (keys.flatMap fun k => schema.resolve k.path)).flatten := by
  have hback : ∀ k ∈ physical schema keys, k.WellFormed ∧ k.Unbroken := by
    intro k hk
    obtain ⟨asked, hasked, hk⟩ := List.mem_flatMap.1 hk
    obtain ⟨base, hbase, rfl⟩ := List.mem_map.1 hk
    obtain ⟨hne, hlistable⟩ := hfields asked hasked base hbase
    obtain ⟨hformed, hunbroken⟩ := of_parseList hkeys hasked
    have hpath : Listable (schema.variantName base .sort) := listable_variantName hlistable hsuffix
    have hpathne : schema.variantName base .sort ≠ "" := SuffixTable.rename_ne_empty hne
    exact ⟨hformed.withPath hpathne hpath, hunbroken.withPath hpath⟩
  exact ⟨physical schema keys, parseList_texts hback, rfl, fields_eq_physicalFields schema keys⟩

/-- A synonym for two fields and a descending key whose value for missing ones has to be written. -/
theorem rendered_reads_back_synonym :
    let schema := Schema.ofSettings { SchemaSettings.standard with
      anywhereAliases := [], synonyms := ⟨[("name", ["creator", "contributor"])], by decide⟩ }
    let keys : List SortKey :=
      [.ofPath "Name", ⟨"date", none, false, false, .value "1900"⟩]
    parseList " Name date,,0,,1900" = .ok keys ∧
      rendered schema keys = "creator.sort contributor.sort date.sort,,0,0,1900" ∧
      parseList (rendered schema keys) =
        .ok [.ofPath "creator.sort", .ofPath "contributor.sort",
          ⟨"date.sort", none, false, false, .value "1900"⟩] ∧
      fields schema keys = [⟨"creator.present", true⟩, ⟨"creator.sort", false⟩,
        ⟨"contributor.present", true⟩, ⟨"contributor.sort", false⟩, ⟨"date.sort", true⟩] := by
  intro schema keys
  have hkeys : parseList " Name date,,0,,1900" = .ok keys := by cbv
  have hfields : ∀ k ∈ keys, ∀ base ∈ schema.resolve k.path, base ≠ "" ∧ Listable base := by
    decide +kernel
  have hsuffix : ∀ suffix, schema.suffix? .sort = some suffix → Listable suffix := by
    have hsort : schema.suffix? .sort = some ".sort" := by decide
    rw [hsort]
    rintro suffix ⟨rfl⟩
    decide
  obtain ⟨back, hback, heq, hparts⟩ := rendered_reads_back hkeys hfields hsuffix
  rw [heq] at hback hparts
  refine ⟨hkeys, by decide +kernel, hback.trans ?_, hparts.trans ?_⟩
  · decide +kernel
  · decide +kernel

end SearchRetrieve.SortKey
