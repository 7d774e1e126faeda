import SearchRetrieve.Proofs.Record.Expansion
import SearchRetrieve.Proofs.Schema.Catalogue

/-!
# Discovery after expansion

An index knows its fields by their physical names only. A schema discovered from the names of an
expanded record finds the source fields again: those that left something under their own name.
-/
namespace SearchRetrieve.SourceField

variable {schema : Schema} {f : SourceField} {sources : List SourceField} {i : IndexField}
  {sorts : Bool} {n : String}

/-- Expansion leaves something under the name of the field itself. Of a blank keyword there is only
the note that it is blank, which has this name if the variant for it is disabled. -/
def KeepsName (schema : Schema) (f : SourceField) : Prop :=
  f.HasType .text ∨ f.HasType .record ∨
    (f.HasType .keyword ∧ (isBlankText f.valueText = false ∨ schema.suffix? .present = none))

instance (t : FieldType) (f : SourceField) : Decidable (f.HasType t) :=
  decidable_of_iff (f.fieldType? = some t) fieldType?_eq_some

instance (schema : Schema) (f : SourceField) : Decidable (f.KeepsName schema) :=
  inferInstanceAs (Decidable (_ ∨ _ ∨ _))

section OneField

variable (hname : f.name ≠ "") (hbare : schema.variant? f.name = none)

include hname hbare

/-- What bears no suffix bears the name of the source field. -/
theorem name_eq_of_bare (h : i ∈ f.expandWith schema sorts) (hi : schema.variant? i.name = none) :
    i.name = f.name := by
  have hvariant (v : Variant) (hv : i.name = schema.variantName f.name v) : i.name = f.name := by
    rw [hv] at hi ⊢
    exact SuffixTable.rename_eq_self_of_bare hname hbare hi
  rcases expandWith_cases h with hself | ⟨v, -, hv⟩ | ⟨-, rfl⟩
  · exact hself
  · exact hvariant v hv
  · exact hvariant .exact rfl

theorem exists_name_iff :
    (∃ i ∈ f.expandWith schema sorts, i.name = f.name) ↔ f.KeepsName schema := by
  unfold KeepsName
  simp only [← fieldType?_eq_some]
  unfold expandWith
  cases htype : f.fieldType? with
  | none => simp
  | some type =>
    cases type with
    | record => simp [typedFields, IndexField.storedOnly]
    | text => simp [typedFields, textFields, IndexField.words, IndexField.withTermVector]
    | keyword =>
      simp only [typedFields, keywordFields]
      cases hblank : isBlankText f.valueText with
      | false =>
        simp only [Bool.false_eq_true, if_false]
        exact iff_of_true ⟨.words f.name f.valueText, by simp, rfl⟩ (by simp)
      | true =>
        have hpresent : schema.variantName f.name .present = f.name ↔
            schema.suffix? .present = none := SuffixTable.rename_eq_self_iff hname hbare
        simpa [IndexField.single] using hpresent

end OneField

section Record

variable (hsources : ∀ f ∈ sources, f.name ≠ "" ∧ schema.variant? f.name = none)

include hsources

/-- The bare names of a record are those that a source field keeps. -/
theorem bare_name_mem_expandAll_iff :
    n ∈ (expandAll schema sources).map IndexField.name ∧ schema.variant? n = none ↔
      ∃ f ∈ sources, f.name = n ∧ f.KeepsName schema := by
  constructor
  · rintro ⟨hn, hbare⟩
    obtain ⟨i, hi, rfl⟩ := List.mem_map.1 hn
    obtain ⟨f, hf, sorts, hexpand⟩ := mem_expandAll hi
    obtain ⟨hfname, hfbare⟩ := hsources f hf
    have hname : i.name = f.name := name_eq_of_bare hfname hfbare hexpand hbare
    exact ⟨f, hf, hname.symm, (exists_name_iff hfname hfbare).1 ⟨i, hexpand, hname⟩⟩
  · rintro ⟨f, hf, rfl, hkeeps⟩
    obtain ⟨hfname, hfbare⟩ := hsources f hf
    obtain ⟨i, hexpand, hname⟩ := (exists_name_iff hfname hfbare).2 hkeeps
    exact ⟨List.mem_map.2 ⟨i, mem_expandAll_of_mem hf hexpand, hname⟩, hfbare⟩

end Record

/-- A schema discovered from the names of an expanded record finds, in the order of their bytes and
each once, the names of the source fields that left something under them. It finds no name of an
enabled variant, whether or not suffixes overlap. -/
theorem discover_expandAll (settings : SchemaSettings) (sources : List SourceField)
    (hsources : ∀ f ∈ sources,
      f.name ≠ "" ∧ (Schema.ofSettings settings).variant? f.name = none) :
    let schema := Schema.ofSettings settings
    let names := (expandAll schema sources).map IndexField.name
    let found := (Schema.discover settings names).anywhereFields
    found.Pairwise (fun a b => Text.utf8Bytes a < Text.utf8Bytes b) ∧
      (∀ n, n ∈ found ↔ ∃ f ∈ sources, f.name = n ∧ f.KeepsName schema) ∧
      (∀ n ∈ found, schema.variant? n = none) ∧
      ∀ f ∈ sources, ∀ v, (schema.suffix? v).isSome → schema.variantName f.name v ∉ found := by
  intro schema names found
  refine ⟨Schema.discover_increasing settings names, fun n => ?_, fun n hn => ?_,
    fun f hf v hv hfound => ?_⟩
  · exact Schema.mem_discover.trans (bare_name_mem_expandAll_iff hsources)
  · exact (Schema.mem_discover.1 hn).2
  · have hbare := (Schema.mem_discover.1 hfound).2
    have hvariant : (schema.variant? (schema.variantName f.name v)).isSome :=
      SuffixTable.variant?_rename_isSome (hsources f hf).1 hv
    simp [schema, hbare] at hvariant

/-- Suffixes of which one ends with another, and no variant for presence: a text and a blank keyword
are found, a field of an unknown type is not, and neither is a name to sort by. -/
theorem discover_expandAll_overlap :
    let settings := { SchemaSettings.standard with
      suffixes := ⟨some "_s", none, some "_sort_s", some "", some "_facet_s", some "_s"⟩ }
    let schema := Schema.ofSettings settings
    let sources : List SourceField :=
      [⟨"title", some "Solaris", some " Text "⟩, ⟨"note", some " ", none⟩,
        ⟨"author", some "Lem", some "keyword"⟩, ⟨"shelf", some "3", some "place"⟩]
    let names := (expandAll schema sources).map IndexField.name
    let found := (Schema.discover settings names).anywhereFields
    (∀ f ∈ sources, f.name ≠ "" ∧ schema.variant? f.name = none) ∧
      "title" ∈ found ∧ "note" ∈ found ∧ "shelf" ∉ found ∧ "author_sort_s" ∉ found := by
  intro settings schema sources names found
  have hsources : ∀ f ∈ sources, f.name ≠ "" ∧ schema.variant? f.name = none := by decide
  obtain ⟨-, hfound, -, hvariants⟩ := discover_expandAll settings sources hsources
  have htitle : ∃ f ∈ sources, f.name = "title" ∧ f.KeepsName schema := by decide
  have hnote : ∃ f ∈ sources, f.name = "note" ∧ f.KeepsName schema := by decide
  have hshelf : ¬ ∃ f ∈ sources, f.name = "shelf" ∧ f.KeepsName schema := by decide
  have hsort : schema.variantName "author" .sort ∉ found :=
    hvariants ⟨"author", some "Lem", some "keyword"⟩ (by decide) .sort (by decide)
  have hname : schema.variantName "author" .sort = "author_sort_s" := by decide
  rw [hname] at hsort
  exact ⟨hsources, (hfound "title").2 htitle, (hfound "note").2 hnote,
    fun h => hshelf ((hfound "shelf").1 h), hsort⟩

end SearchRetrieve.SourceField
