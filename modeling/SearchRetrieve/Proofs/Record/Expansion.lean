import SearchRetrieve.Proofs.Schema.Naming
import SearchRetrieve.Proofs.Text.Words
import SearchRetrieve.Record.Expansion

/-!
# Fields of an expanded record

An index field of a record comes from one source field. Its name is that of the source field or of
a variant of it, and its type was declared for the source field or follows from the value.
-/
namespace SearchRetrieve

namespace SourceField

variable {schema : Schema} {f : SourceField} {fs : List SourceField}
  {i : IndexField} {sorts : Bool} {t : FieldType} {name : String} {v : Variant}

/-- The type is declared, or nothing is declared and the value makes it this type. -/
def HasType (f : SourceField) (t : FieldType) : Prop :=
  (∃ declared, f.type = some declared ∧ Text.asciiLower (Text.trim declared) = t.name) ∨
    ((∀ declared, f.type = some declared → Text.trim declared = "") ∧
      FieldType.infer f.valueText = t)

/-- The field is declared to be a keyword, or nothing is declared and the value is short. -/
def IsKeyword (f : SourceField) : Prop :=
  (∃ declared, f.type = some declared ∧ Text.asciiLower (Text.trim declared) = "keyword") ∨
    ((∀ declared, f.type = some declared → Text.trim declared = "") ∧ f.valueText.length ≤ 64)

theorem ofName?_eq_some {name : String} :
    FieldType.ofName? name = some t ↔ Text.asciiLower (Text.trim name) = t.name := by
  unfold FieldType.ofName?
  generalize Text.asciiLower (Text.trim name) = lower
  cases t <;> split <;> simp_all [FieldType.name]

theorem infer_eq_keyword {value : String} :
    FieldType.infer value = .keyword ↔ value.length ≤ 64 := by
  unfold FieldType.infer FieldType.keywordLimit
  split <;> simp <;> omega

theorem fieldType?_eq_some : f.fieldType? = some t ↔ f.HasType t := by
  unfold fieldType? declared? HasType
  cases htype : f.type with
  | none => simp
  | some declared =>
    have hblank : Text.asciiLower "" ≠ t.name := by cases t <;> decide
    by_cases hempty : Text.trim declared = ""
    · simp [hempty, hblank]
    · simp [hempty, ofName?_eq_some, Text.trim_trim]

theorem fieldType?_eq_keyword : f.fieldType? = some .keyword ↔ f.IsKeyword := by
  rw [fieldType?_eq_some, HasType, infer_eq_keyword]
  rfl

def exactField (schema : Schema) (name value : String) : IndexField :=
  (IndexField.single (schema.variantName name .exact) value).withStored true

/-- The fields without the one to sort by are the same whether there is one or not. -/
theorem mem_expandWith_of_false (h : i ∈ f.expandWith schema false) :
    i ∈ f.expandWith schema sorts := by
  unfold expandWith at h ⊢
  cases htype : f.fieldType? with
  | none => simp [htype] at h
  | some type =>
    rw [htype] at h
    cases type with
    | record => exact h
    | text => exact h
    | keyword =>
      by_cases hblank : isBlankText f.valueText = true
      · simpa only [typedFields, keywordFields, hblank, if_true] using h
      · simp only [typedFields, keywordFields, hblank, Bool.false_eq_true, if_false,
          List.append_nil, List.mem_append] at h ⊢
        tauto

/-- Every field bears the name of the source field or of a variant other than the exact one, but
for the exact field of a keyword. -/
theorem expandWith_cases (h : i ∈ f.expandWith schema sorts) :
    i.name = f.name ∨ (∃ v, v ≠ .exact ∧ i.name = schema.variantName f.name v) ∨
      (f.fieldType? = some .keyword ∧ i = exactField schema f.name f.valueText) := by
  unfold expandWith at h
  cases htype : f.fieldType? with
  | none => simp [htype] at h
  | some type =>
    rw [htype] at h
    cases type with
    | record =>
      obtain rfl : i = .storedOnly f.name f.valueText := by simpa [typedFields] using h
      exact Or.inl rfl
    | text =>
      simp only [typedFields, textFields, List.mem_cons, List.not_mem_nil, or_false] at h
      rcases h with rfl | rfl | rfl
      · exact Or.inl rfl
      · exact Or.inr (Or.inl ⟨.stemmed, by simp, rfl⟩)
      · exact Or.inr (Or.inl ⟨.stored, by simp, rfl⟩)
    | keyword =>
      simp only [typedFields, keywordFields] at h
      split at h
      · obtain rfl := List.mem_singleton.1 h
        exact Or.inr (Or.inl ⟨.present, by simp, rfl⟩)
      · simp only [List.mem_append, List.mem_cons, List.not_mem_nil, or_false] at h
        rcases h with ((rfl | rfl) | hsort) | rfl | rfl | rfl
        · exact Or.inr (Or.inl ⟨.present, by simp, rfl⟩)
        · exact Or.inl rfl
        · cases sorts with
          | false => simp at hsort
          | true =>
            obtain rfl := List.mem_singleton.1 hsort
            exact Or.inr (Or.inl ⟨.sort, by simp, rfl⟩)
        · exact Or.inr (Or.inl ⟨.facet, by simp, rfl⟩)
        · exact Or.inr (Or.inr ⟨rfl, rfl⟩)
        · exact Or.inr (Or.inl ⟨.stemmed, by simp, rfl⟩)

def variantFields (schema : Schema) (sorts : Bool) (f : SourceField) (v : Variant) :
    List IndexField :=
  let blank := isBlankText f.valueText
  let field := schema.variantName f.name v
  match f.fieldType?, v with
  | some .text, .stemmed => [(IndexField.words field f.valueText).withStored true]
  | some .text, .stored => [.storedOnly field f.valueText]
  | some .keyword, .present => [.single field (if blank then "0" else "1")]
  | some .keyword, .sort => if sorts && !blank then [.single field (sortText f.valueText)] else []
  | some .keyword, .facet | some .keyword, .exact =>
    if blank then [] else [(IndexField.single field f.valueText).withStored true]
  | some .keyword, .stemmed =>
    if blank then [] else [(IndexField.words field f.valueText).withStored true]
  | _, _ => []

theorem variantFields_of_ne_sort (hv : v ≠ .sort) :
    f.variantFields schema sorts v = f.variantFields schema true v := by
  unfold variantFields
  cases f.fieldType? with
  | none => rfl
  | some type =>
    cases v with
    | sort => exact (hv rfl).elim
    | exact | present | stemmed | facet | stored => cases type <;> rfl

section Bare

variable (hseparate : schema.suffixes.Separate) (hv : (schema.suffix? v).isSome)
  (hname : name ≠ "") (hbare : schema.variant? name = none)

include hseparate hv hname hbare

/-- The name of a variant is borne by what a source field of its base gives to this variant, and
by nothing else. -/
theorem filter_variant_expandWith (hfname : f.name ≠ "") (hfbare : schema.variant? f.name = none) :
    (f.expandWith schema sorts).filter (·.name = schema.variantName name v) =
      if f.name = name then f.variantFields schema sorts v else [] := by
  have hself : f.name ≠ schema.variantName name v :=
    SuffixTable.ne_rename_of_bare hseparate hname hv hfbare
  have hvariant (w : Variant) : schema.variantName f.name w = schema.variantName name v ↔
      w = v ∧ f.name = name :=
    SuffixTable.rename_eq_rename_iff_of_bare hseparate hname hv hbare hfname hfbare
  unfold expandWith variantFields
  cases htype : f.fieldType? with
  | none => simp
  | some type =>
    cases type with
    | record => simp [typedFields, IndexField.storedOnly, hself]
    | text =>
      cases v <;>
        simp [typedFields, textFields, IndexField.words, IndexField.withTermVector,
          IndexField.withStored, IndexField.storedOnly, List.filter_cons, hself, hvariant]
    | keyword =>
      cases v <;> cases hblank : isBlankText f.valueText <;> cases sorts <;>
        simp [typedFields, keywordFields, hblank, IndexField.words, IndexField.single,
          IndexField.withStored, List.filter_cons, hself, hvariant]

end Bare

/-- A record is taken apart from its end, as a source field sees those before it only. -/
theorem expandAll_append (fs : List SourceField) (f : SourceField) :
    expandAll schema (fs ++ [f]) = expandAll schema fs ++ f.added schema (expandAll schema fs) := by
  simp [expandAll, expandInto]

theorem mem_expandAll (h : i ∈ expandAll schema fs) :
    ∃ f ∈ fs, ∃ sorts, i ∈ f.expandWith schema sorts := by
  induction fs using List.reverseRecOn with
  | nil => simp [expandAll] at h
  | append_singleton fs f ih =>
    rw [expandAll_append] at h
    rcases List.mem_append.1 h with hold | hnew
    · obtain ⟨g, hg, hexpand⟩ := ih hold
      exact ⟨g, List.mem_append_left _ hg, hexpand⟩
    · exact ⟨f, by simp, _, hnew⟩

/-- What a source field gives in any case is in the record. -/
theorem mem_expandAll_of_mem (hf : f ∈ fs) (hi : i ∈ f.expandWith schema false) :
    i ∈ expandAll schema fs := by
  induction fs using List.reverseRecOn with
  | nil => simp at hf
  | append_singleton fs g ih =>
    rw [expandAll_append]
    rcases List.mem_append.1 hf with hbefore | hlast
    · exact List.mem_append_left _ (ih hbefore)
    · obtain rfl := List.mem_singleton.1 hlast
      exact List.mem_append_right _ (mem_expandWith_of_false hi)

/-- But for the sort variant, a record holds for a variant what each source field of the name
gives. -/
theorem filter_variant_expandAll (hseparate : schema.suffixes.Separate)
    (hv : (schema.suffix? v).isSome) (hne : v ≠ .sort) (hname : name ≠ "")
    (hbare : schema.variant? name = none)
    (hsources : ∀ f ∈ fs, f.name ≠ "" ∧ schema.variant? f.name = none) :
    (expandAll schema fs).filter (·.name = schema.variantName name v) =
      (fs.filter (·.name = name)).flatMap fun f => f.variantFields schema true v := by
  induction fs using List.reverseRecOn with
  | nil => rfl
  | append_singleton fs f ih =>
    obtain ⟨hfs, hf⟩ := List.forall_mem_append.1 hsources
    obtain ⟨hfname, hfbare⟩ := hf f (by simp)
    rw [expandAll_append, List.filter_append, ih hfs, added,
      filter_variant_expandWith hseparate hv hname hbare hfname hfbare,
      variantFields_of_ne_sort hne, List.filter_append, List.flatMap_append]
    by_cases hfield : f.name = name <;> simp [hfield]

end SourceField

end SearchRetrieve
