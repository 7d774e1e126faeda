import SearchRetrieve.Proofs.Record.Sorting

/-!
# Presence of a field in a record

Every keyword of a record leaves a flag that says whether its own value is blank. The flags of a
field speak for the whole record only as long as its keywords agree.
-/
namespace SearchRetrieve.SourceField

variable {schema : Schema} {f : SourceField} {sources : List SourceField} {sorts : Bool}
  {name : String}

def keywordsOf (name : String) (sources : List SourceField) : List SourceField :=
  sources.filter fun g => g.name = name ∧ g.IsKeyword

def presenceFlag (f : SourceField) : String := if isBlankText f.valueText then "0" else "1"

/-- Flags that say of a record whether one of these keywords has a value. -/
structure FlagsAgree (keywords : List SourceField) (flags : List String) : Prop where
  not_both : ¬ ("1" ∈ flags ∧ "0" ∈ flags)
  present : (∃ g ∈ keywords, isBlankText g.valueText = false) → ∀ flag ∈ flags, flag = "1"
  absent : "0" ∈ flags → keywords ≠ [] ∧ ∀ g ∈ keywords, isBlankText g.valueText = true

section Flags

variable {keywords : List SourceField}

theorem flag_mem_flags (blank : Bool) :
    (if blank then "0" else "1") ∈ keywords.map presenceFlag ↔
      ∃ g ∈ keywords, isBlankText g.valueText = blank := by
  rw [List.mem_map]
  refine exists_congr fun g => and_congr_right fun _ => ?_
  cases hblank : isBlankText g.valueText <;> cases blank <;> simp [presenceFlag, hblank]

/-- The flags of single keywords agree exactly if all of these are blank or none is. -/
theorem flagsAgree_iff : FlagsAgree keywords (keywords.map presenceFlag) ↔
    (∀ g ∈ keywords, isBlankText g.valueText = true) ∨
      ∀ g ∈ keywords, isBlankText g.valueText = false := by
  have one_mem : "1" ∈ keywords.map presenceFlag ↔
      ∃ g ∈ keywords, isBlankText g.valueText = false := flag_mem_flags false
  have zero_mem : "0" ∈ keywords.map presenceFlag ↔
      ∃ g ∈ keywords, isBlankText g.valueText = true := flag_mem_flags true
  constructor
  · intro h
    by_cases hvalue : ∃ g ∈ keywords, isBlankText g.valueText = false
    · right
      intro g hg
      by_contra hblank
      have hzero := zero_mem.2 ⟨g, hg, by simpa using hblank⟩
      exact h.not_both ⟨one_mem.2 hvalue, hzero⟩
    · left
      simpa using hvalue
  · rintro (hblank | hvalue)
    · have hone : "1" ∉ keywords.map presenceFlag := by
        rw [one_mem]
        rintro ⟨g, hg, hvalue⟩
        simp [hblank g hg] at hvalue
      exact {
        not_both := fun h => hone h.1
        present := fun h => (hone (one_mem.2 h)).elim
        absent := by
          intro hzero
          obtain ⟨g, hg, -⟩ := zero_mem.1 hzero
          exact ⟨List.ne_nil_of_mem hg, hblank⟩ }
    · have hzero : "0" ∉ keywords.map presenceFlag := by
        rw [zero_mem]
        rintro ⟨g, hg, hblank⟩
        simp [hvalue g hg] at hblank
      exact {
        not_both := fun h => hzero h.2
        present := by
          intro _ flag hflag
          obtain ⟨g, hg, rfl⟩ := List.mem_map.1 hflag
          simp [presenceFlag, hvalue g hg]
        absent := fun h => (hzero h).elim }

end Flags

theorem variantFields_present : f.variantFields schema sorts .present =
    if f.IsKeyword then [.single (schema.variantName f.name .present) f.presenceFlag] else [] := by
  simp only [← fieldType?_eq_keyword]
  unfold variantFields
  cases htype : f.fieldType? with
  | none => simp
  | some type =>
    cases type with
    | record | text => simp
    | keyword => simp [presenceFlag]

section Record

variable (hseparate : schema.suffixes.Separate) (hpresent : (schema.suffix? .present).isSome)
  (hname : name ≠ "") (hbare : schema.variant? name = none)

include hseparate hpresent hname hbare

/-- The flags of a field are those of its keywords in order. -/
theorem values_present_expandAll
    (hsources : ∀ f ∈ sources, f.name ≠ "" ∧ schema.variant? f.name = none) :
    Entry.values (expandAll schema sources) (schema.variantName name .present) =
      (keywordsOf name sources).map presenceFlag := by
  have hflags (gs : List SourceField) :
      (gs.flatMap fun g => g.variantFields schema true .present).map IndexField.value =
        (gs.filter fun g => g.IsKeyword).map presenceFlag := by
    induction gs with
    | nil => rfl
    | cons g gs ih =>
      rw [List.flatMap_cons, List.map_append, ih, variantFields_present]
      by_cases hkeyword : g.IsKeyword <;> simp [hkeyword, IndexField.single]
  have hfields := filter_variant_expandAll hseparate hpresent (by simp) hname hbare hsources
  calc
    _ = ((expandAll schema sources).filter (·.name = schema.variantName name .present)).map
        IndexField.value := by simp [Entry.values, beq_eq_decide]
    _ = _ := by
      rw [hfields, hflags, List.filter_filter, keywordsOf]
      simp [Bool.and_comm]

/-- The flags of a field are those of its keywords, one for each of them. They say of the record
whether it has a value for the field exactly if the keywords are all blank or all of them are not,
in any order and number, and wherever the sources of other fields stand. -/
theorem presence_agrees_iff
    (hsources : ∀ f ∈ sources, f.name ≠ "" ∧ schema.variant? f.name = none) :
    let flags := Entry.values (expandAll schema sources) (schema.variantName name .present)
    let keywords := keywordsOf name sources
    flags = keywords.map presenceFlag ∧
      (FlagsAgree keywords flags ↔
        (∀ g ∈ keywords, isBlankText g.valueText = true) ∨
          ∀ g ∈ keywords, isBlankText g.valueText = false) := by
  intro flags keywords
  have hflags : flags = keywords.map presenceFlag :=
    values_present_expandAll hseparate hpresent hname hbare hsources
  exact ⟨hflags, by rw [hflags]; exact flagsAgree_iff⟩

end Record

/-- Two blank values of a name, between them a value of another name and a text: the record has no
value for this name, and its flags say so. -/
theorem presence_agrees_iff_blank :
    let schema := Schema.ofSettings .standard
    let sources : List SourceField :=
      [⟨"title", some " ", some "keyword"⟩, ⟨"author", some "Lem", none⟩,
        ⟨"title", some "Solaris", some "text"⟩, ⟨"title", none, none⟩]
    schema.suffixes.Separate ∧ (schema.suffix? .present).isSome ∧ schema.variant? "title" = none ∧
      (∀ f ∈ sources, f.name ≠ "" ∧ schema.variant? f.name = none) ∧
      Entry.values (expandAll schema sources) "title.present" = ["0", "0"] ∧
      FlagsAgree (keywordsOf "title" sources) ["0", "0"] := by
  intro schema sources
  have hseparate : schema.suffixes.Separate := by decide
  have hpresent : (schema.suffix? .present).isSome := by decide
  have hbare : schema.variant? "title" = none := by decide
  have hsources : ∀ f ∈ sources, f.name ≠ "" ∧ schema.variant? f.name = none := by decide
  have hname : schema.variantName "title" .present = "title.present" := by decide
  obtain ⟨hflags, hagree⟩ := presence_agrees_iff hseparate hpresent (by decide) hbare hsources
  have hblank : ∀ g ∈ keywordsOf "title" sources, isBlankText g.valueText = true := by decide
  have hzeros : (keywordsOf "title" sources).map presenceFlag = ["0", "0"] := by decide
  have hagrees := hagree.2 (Or.inl hblank)
  rw [hflags, hzeros] at hagrees
  rw [hname, hzeros] at hflags
  exact ⟨hseparate, hpresent, hbare, hsources, hflags, hagrees⟩

/-- A blank value and another one of the same name: the record has the flags of both. -/
theorem presence_disagrees :
    let schema := Schema.ofSettings .standard
    let sources : List SourceField :=
      [⟨"title", some " ", some "keyword"⟩, ⟨"title", some "Moon", some "keyword"⟩]
    schema.suffixes.Separate ∧ (schema.suffix? .present).isSome ∧ schema.variant? "title" = none ∧
      (∀ f ∈ sources, f.name ≠ "" ∧ schema.variant? f.name = none) ∧
      Entry.values (expandAll schema sources) (schema.variantName "title" .present) = ["0", "1"] ∧
      ¬ FlagsAgree (keywordsOf "title" sources) ["0", "1"] := by
  intro schema sources
  refine ⟨by decide, by decide, by decide, by decide, by decide, fun h => ?_⟩
  exact h.not_both (by decide)

end SearchRetrieve.SourceField
