import SearchRetrieve.Proofs.Record.Expansion

/-!
# What a record sorts by

A record is made of what its source fields give one by one. Only the fields to sort by are not
independent of each other: of the keywords of a name the first one that is not blank gives it, and
from the others it is left out.
-/
namespace SearchRetrieve.SourceField

variable {schema : Schema} {entry : Entry} {f g : SourceField} {fs sources : List SourceField}
  {sorts : Bool} {name : String} {v w : Variant}

instance (f : SourceField) : Decidable f.IsKeyword :=
  decidable_of_iff (f.fieldType? = some .keyword) fieldType?_eq_keyword

def GivesSortText (f : SourceField) : Prop := f.IsKeyword ∧ isBlankText f.valueText = false

instance (f : SourceField) : Decidable f.GivesSortText := inferInstanceAs (Decidable (_ ∧ _))

theorem fieldType?_eq_none {declared : String} (htype : f.type = some declared)
    (hdeclared : Text.trim declared ≠ "")
    (hunknown : ∀ t : FieldType, Text.asciiLower (Text.trim declared) ≠ t.name) :
    f.fieldType? = none := by
  rw [Option.eq_none_iff_forall_ne_some]
  intro t ht
  rcases fieldType?_eq_some.1 ht with ⟨declared', htype', hname⟩ | ⟨hblank, -⟩
  · obtain rfl := Option.some.inj (htype.symm.trans htype')
    exact hunknown t hname
  · exact hdeclared (hblank declared htype)

def sortField (schema : Schema) (f : SourceField) : IndexField :=
  .single (schema.variantName f.name .sort) (sortText f.valueText)

/-- What a source field gives to a record after others: its expansion, without the field to sort by
if a keyword of the same name has given it before. -/
def contribution (schema : Schema) (earlier : List SourceField) (f : SourceField) :
    List IndexField :=
  if f.IsKeyword ∧ ∃ g ∈ earlier, g.name = f.name ∧ g.GivesSortText then
    (f.expand schema).filter (·.name ≠ schema.variantName f.name .sort)
  else f.expand schema

theorem variantFields_sort : f.variantFields schema sorts .sort =
    if sorts = true ∧ f.GivesSortText then [sortField schema f] else [] := by
  simp only [GivesSortText, ← fieldType?_eq_keyword]
  unfold variantFields
  cases htype : f.fieldType? with
  | none => simp
  | some type =>
    cases type with
    | record | text => simp
    | keyword => simp [sortField]

/-- To sort by there is one field in the expansion of a keyword that is not blank. -/
theorem filter_sort_expandWith (hseparate : schema.suffixes.Separate)
    (hsort : (schema.suffix? .sort).isSome) (hname : name ≠ "")
    (hbare : schema.variant? name = none) (hfname : f.name ≠ "")
    (hfbare : schema.variant? f.name = none) :
    (f.expandWith schema sorts).filter (·.name = schema.variantName name .sort) =
      if sorts = true ∧ f.name = name ∧ f.GivesSortText then [sortField schema f] else [] := by
  rw [filter_variant_expandWith hseparate hsort hname hbare hfname hfbare, variantFields_sort]
  by_cases hf : f.name = name <;> simp [hf]

/-- Where a field must not sort, nothing else is left out. -/
theorem filter_expand_ne_sort :
    (f.expand schema).filter (·.name ≠ schema.variantName f.name .sort) =
      (f.expandWith schema false).filter (·.name ≠ schema.variantName f.name .sort) := by
  unfold expand expandWith
  cases f.fieldType? with
  | none => rfl
  | some type =>
    cases type with
    | record => rfl
    | text => rfl
    | keyword =>
      simp only [typedFields, keywordFields]
      cases isBlankText f.valueText <;> simp [IndexField.single, List.filter_cons]

theorem expandWith_false_eq_filter (hseparate : schema.suffixes.Separate)
    (hsort : (schema.suffix? .sort).isSome) (hfname : f.name ≠ "")
    (hfbare : schema.variant? f.name = none) :
    f.expandWith schema false =
      (f.expand schema).filter (·.name ≠ schema.variantName f.name .sort) := by
  have hnone : (f.expandWith schema false).filter (·.name = schema.variantName f.name .sort) = _ :=
    filter_sort_expandWith hseparate hsort hfname hfbare hfname hfbare
  rw [filter_expand_ne_sort, eq_comm, List.filter_eq_self]
  simpa [List.filter_eq_nil_iff] using hnone

/-- The type of a field that is no keyword leaves nothing to sort by. -/
theorem expandWith_of_not_isKeyword (h : ¬ f.IsKeyword) :
    f.expandWith schema sorts = f.expand schema := by
  rw [← fieldType?_eq_keyword] at h
  unfold expand expandWith
  cases htype : f.fieldType? with
  | none => rfl
  | some type =>
    cases type with
    | record => rfl
    | text => rfl
    | keyword => exact absurd htype h

theorem sortsIn_iff : f.sortsIn schema entry = true ↔
    entry.filter (·.name = schema.variantName f.name .sort) = [] := by
  simp [sortsIn, Entry.hasField]

section Record

variable (hseparate : schema.suffixes.Separate) (hsort : (schema.suffix? .sort).isSome)
  (hsources : ∀ f ∈ sources, f.name ≠ "" ∧ schema.variant? f.name = none)

include hseparate hsort hsources

/-- A record sorts by the first keyword that is not blank. -/
theorem filter_sort_expandAll (hname : name ≠ "") (hbare : schema.variant? name = none) :
    (expandAll schema sources).filter (·.name = schema.variantName name .sort) =
      (sources.find? fun g => g.name = name ∧ g.GivesSortText).toList.map (sortField schema) := by
  induction sources using List.reverseRecOn with
  | nil => rfl
  | append_singleton fs f ih =>
    obtain ⟨hfs, hf⟩ := List.forall_mem_append.1 hsources
    obtain ⟨hfname, hfbare⟩ := hf f (by simp)
    have hrecord := ih hfs
    rw [expandAll_append, List.filter_append, added,
      filter_sort_expandWith hseparate hsort hname hbare hfname hfbare, List.find?_append]
    by_cases hgives : f.name = name ∧ f.GivesSortText
    · obtain ⟨rfl, hgives⟩ := hgives
      simp only [sortsIn_iff, hrecord]
      cases fs.find? fun g => g.name = f.name ∧ g.GivesSortText <;> simp [hgives]
    · simp [hrecord, hgives]

/-- What a source field adds to a record depends on the source fields before it only in whether it
gives the field to sort by. -/
theorem added_eq_contribution (hfname : f.name ≠ "") (hfbare : schema.variant? f.name = none) :
    f.added schema (expandAll schema sources) = f.contribution schema sources := by
  have hsorts : f.sortsIn schema (expandAll schema sources) = true ↔
      ¬ ∃ g ∈ sources, g.name = f.name ∧ g.GivesSortText := by
    rw [sortsIn_iff, filter_sort_expandAll hseparate hsort hsources hfname hfbare]
    simp
  unfold added contribution
  by_cases hkeyword : f.IsKeyword
  · by_cases hearlier : ∃ g ∈ sources, g.name = f.name ∧ g.GivesSortText
    · have hnot : f.sortsIn schema (expandAll schema sources) = false := by
        simpa [hearlier] using hsorts
      rw [if_pos ⟨hkeyword, hearlier⟩, hnot,
        expandWith_false_eq_filter hseparate hsort hfname hfbare]
    · rw [if_neg fun h => hearlier h.2, hsorts.2 hearlier]
      rfl
  · rw [if_neg fun h => hkeyword h.1, expandWith_of_not_isKeyword hkeyword]

/-- A record is the contributions of its source fields in order. -/
theorem expandAll_eq_contributions : expandAll schema sources =
    (sources.mapIdx fun i f => f.contribution schema (sources.take i)).flatten := by
  induction sources using List.reverseRecOn with
  | nil => rfl
  | append_singleton fs f ih =>
    obtain ⟨hfs, hf⟩ := List.forall_mem_append.1 hsources
    obtain ⟨hfname, hfbare⟩ := hf f (by simp)
    rw [expandAll_append, added_eq_contribution hseparate hsort hfs hfname hfbare, ih hfs,
      List.mapIdx_concat, List.flatten_append]
    have hbefore : fs.mapIdx (fun i g => g.contribution schema ((fs ++ [f]).take i)) =
        fs.mapIdx fun i g => g.contribution schema (fs.take i) := by
      refine List.mapIdx_eq_mapIdx_iff.2 fun i hi => ?_
      rw [List.take_append_of_le_length hi.le]
    rw [hbefore]
    simp

/-- A record is the expansions of its source fields one after another, but for the fields to sort
by: each is left out of a keyword if one of the same name before it is not blank. Expansion only
appends to a record, and a field of an unknown type appends nothing. To sort by a name there is one
field at most, with the text of the first keyword of this name that is not blank. -/
theorem expandAll_sorts_by_first :
    expandAll schema sources =
      (sources.mapIdx fun i f => f.contribution schema (sources.take i)).flatten ∧
    (∀ f ∈ sources, (f.expand schema).filter (·.name = schema.variantName f.name .sort) =
      if f.GivesSortText then [sortField schema f] else []) ∧
    (∀ (entry : Entry) f, entry <+: expandInto schema entry f) ∧
    (∀ f declared, f.type = some declared → Text.trim declared ≠ "" →
      (∀ t : FieldType, Text.asciiLower (Text.trim declared) ≠ t.name) →
        f.expand schema = [] ∧ ∀ entry, expandInto schema entry f = entry) ∧
    ∀ name, name ≠ "" → schema.variant? name = none →
      (expandAll schema sources).filter (·.name = schema.variantName name .sort) =
        (sources.find? fun g => g.name = name ∧ g.GivesSortText).toList.map (sortField schema) := by
  refine ⟨expandAll_eq_contributions hseparate hsort hsources, fun f hf => ?_,
    fun entry f => List.prefix_append _ _, fun f declared htype hdeclared hunknown => ?_,
    fun name hname hbare => filter_sort_expandAll hseparate hsort hsources hname hbare⟩
  · obtain ⟨hfname, hfbare⟩ := hsources f hf
    rw [expand, filter_sort_expandWith hseparate hsort hfname hfbare hfname hfbare]
    simp
  · have hnone : f.fieldType? = none := fieldType?_eq_none htype hdeclared hunknown
    have hexpand (sorts : Bool) : f.expandWith schema sorts = [] := by simp [expandWith, hnone]
    exact ⟨hexpand true, fun entry => by simp [expandInto, added, hexpand]⟩

end Record

/-- A blank value, a value of an inferred type, a text and two more keywords of one name, and a
field of an unknown type: the second value is the one to sort by. -/
theorem expandAll_sorts_by_first_title :
    let schema := Schema.ofSettings .standard
    let sources : List SourceField :=
      [⟨"title", some " ", some "keyword"⟩, ⟨"title", some "The Moon", some ""⟩,
        ⟨"title", some "Cows", some "text"⟩, ⟨"title", some "Cow", some " Keyword"⟩,
        ⟨"title", none, none⟩, ⟨"place", some "Paris", some "geo"⟩]
    schema.suffixes.Separate ∧ (schema.suffix? .sort).isSome ∧
      (∀ f ∈ sources, f.name ≠ "" ∧ schema.variant? f.name = none) ∧
      (expandAll schema sources).filter (·.name = "title.sort") =
        [.single "title.sort" "themoon"] ∧
      expandAll schema sources =
        (sources.mapIdx fun i f => f.contribution schema (sources.take i)).flatten := by
  intro schema sources
  have hseparate : schema.suffixes.Separate := by decide
  have hsort : (schema.suffix? .sort).isSome := by decide
  have hsources : ∀ f ∈ sources, f.name ≠ "" ∧ schema.variant? f.name = none := by decide
  obtain ⟨hall, -, -, -, hsorted⟩ := expandAll_sorts_by_first hseparate hsort hsources
  have hname : schema.variantName "title" .sort = "title.sort" := by decide
  have hfirst : (sources.find? fun g => g.name = "title" ∧ g.GivesSortText) =
      some ⟨"title", some "The Moon", some ""⟩ := by
    decide
  have htext : sortText "The Moon" = "themoon" := by decide +kernel
  have htitle := hsorted "title" (by decide) (by decide)
  rw [hname, hfirst] at htitle
  refine ⟨hseparate, hsort, hsources, htitle.trans ?_, hall⟩
  simp [sortField, hname, valueText, htext]

end SearchRetrieve.SourceField
