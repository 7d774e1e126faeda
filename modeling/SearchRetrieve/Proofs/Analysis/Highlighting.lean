import SearchRetrieve.Proofs.Analysis.Tokens
import SearchRetrieve.Proofs.Record.ExactMatch

/-!
# Highlighting

A text is stored beside its terms, so that matches can be shown in it. The offsets of a term of the
text field are places in the stored text, and between them stands the word of the term.
-/
namespace SearchRetrieve

/-- No enabled variant of a field without a suffix has the name of the field, even if suffixes
overlap. -/
theorem SuffixTable.rename_ne_self {table : SuffixTable} {name : String} {v : Variant}
    (hname : name ≠ "") (hbare : table.variant? name = none) (hv : (table.suffix? v).isSome) :
    table.rename v name ≠ name := by
  obtain ⟨suffix, hsuffix⟩ := Option.isSome_iff_exists.1 hv
  have hmatching : table.matching? name = none := by simpa [variant?] using hbare
  have hmarks : marks suffix name = false := matching?_eq_none.1 hmatching _ (suffix?_mem hsuffix)
  rw [rename_of_suffix? hsuffix, base_of_variant?_eq_none hbare]
  intro hself
  have hmarked : marks suffix (name ++ suffix) = true := marks_append hname
  rw [hself, hmarks] at hmarked
  simp at hmarked

namespace Linguistics

variable {l : Linguistics} {a : Analyzer} {field value declared : String}

/-- A posting that keeps the place of its term. -/
def placed (field : String) (o : Occurrence) : Posting :=
  ⟨field, o.term, some o.position, some (o.start, o.stop)⟩

theorem filter_fieldPostings (l : Linguistics) (a : Analyzer) (i : IndexField) (field : String) :
    (l.fieldPostings a i).filter (·.field = field) =
      if i.name = field then l.fieldPostings a i else [] := by
  split
  · next hname =>
    refine List.filter_eq_self.2 fun p hp => ?_
    simpa [field_of_mem_fieldPostings hp] using hname
  · next hname =>
    refine List.filter_eq_nil_iff.2 fun p hp => ?_
    simpa [field_of_mem_fieldPostings hp] using hname

/-- The postings of the field of a text are the terms of its value with their places. -/
theorem filter_postings_textFields (hname : field ≠ "") (hbare : a.schema.variant? field = none)
    (hstemmed : (a.schema.suffix? .stemmed).isSome) (hdate : field ∉ a.dateFields) :
    (l.postings a (SourceField.textFields a.schema field value)).filter (·.field = field) =
      (l.occurrences a.tokenizer value).map (placed field) := by
  have hother : a.schema.variantName field .stemmed ≠ field :=
    SuffixTable.rename_ne_self hname hbare hstemmed
  have hanalysis : a.analysis field = .standard := by simp [Analyzer.analysis, hbare, hdate]
  have hindexed : (SourceField.textFields a.schema field value).filter (·.indexed) =
      [(IndexField.words field value).withTermVector .withPositionsOffsets,
        (IndexField.words (a.schema.variantName field .stemmed) value).withStored true] := rfl
  have hfield : l.fieldPostings a
      ((IndexField.words field value).withTermVector .withPositionsOffsets) =
        (l.occurrences a.tokenizer value).map (placed field) := by
    simp only [fieldPostings, IndexField.words, IndexField.withTermVector, analyze, hanalysis]
    rfl
  have hstem : (l.fieldPostings a ((IndexField.words (a.schema.variantName field .stemmed) value
      ).withStored true)).filter (·.field = field) = [] := by
    rw [filter_fieldPostings]
    exact if_neg hother
  rw [postings, hindexed, List.flatMap_cons, List.flatMap_singleton, List.filter_append, hstem,
    List.append_nil, filter_fieldPostings, hfield]
  exact if_pos rfl

theorem value_of_mem_textFields {schema : Schema} {i : IndexField}
    (h : i ∈ SourceField.textFields schema field value) : i.value = value := by
  simp only [SourceField.textFields, List.mem_cons, List.not_mem_nil, or_false] at h
  rcases h with rfl | rfl | rfl <;> rfl

/-- The text field of a record with one text has a posting for each word that the settings keep.
All of them have a number and offsets. The offsets are places between characters of the text that
the stored variant holds, the slices between them are the words, and the terms are these words, in
lower case, without accents and stemmed as the settings ask for. Numbers and slices come in order,
and no two slices overlap. -/
theorem offsets_point_into_snapshot (l : Linguistics) (hname : field ≠ "")
    (hbare : a.schema.variant? field = none) (hstemmed : (a.schema.suffix? .stemmed).isSome)
    (hstored : (a.schema.suffix? .stored).isSome) (hdate : field ∉ a.dateFields)
    (hdeclared : Text.asciiLower (Text.trim declared) = "text")
    (hwords : (l.words value.toList).length < UInt32.size) :
    let entry := SourceField.expandInto a.schema [] ⟨field, some value, some declared⟩
    let stored := a.schema.variantName field .stored
    stored ≠ field ∧ .storedOnly stored value ∈ entry ∧
      (∀ text ∈ Entry.values entry stored, text = value) ∧
      ∃ terms : List Occurrence,
        (l.postings a entry).filter (·.field = field) = terms.map (placed field) ∧
        (∀ o ∈ terms, l.StandsIn a.tokenizer value o) ∧
        terms.Pairwise (fun o o' => o.position < o'.position ∧ o.stop ≤ o'.start) ∧
        terms.map (fun o => Text.slice value o.start o.stop) =
          (l.wordsOf value).filter fun word =>
            l.keeps a.tokenizer (a.tokenizer.normalize word) := by
  intro entry stored
  have htype : SourceField.fieldType? ⟨field, some value, some declared⟩ = some .text :=
    SourceField.fieldType?_eq_some.2 (Or.inl ⟨declared, rfl, hdeclared⟩)
  have hentry : entry = SourceField.textFields a.schema field value := by
    simp only [entry, SourceField.expandInto, SourceField.added, SourceField.expandWith, htype,
      List.nil_append]
    rfl
  rw [hentry]
  refine ⟨SuffixTable.rename_ne_self hname hbare hstored, ?_, ?_, l.occurrences a.tokenizer value,
    filter_postings_textFields hname hbare hstemmed hdate, fun o ho => standsIn_of_mem ho,
    occurrences_pairwise (Nat.le_of_lt hwords), l.map_slice_occurrences a.tokenizer value⟩
  · simp [SourceField.textFields, stored]
  · intro text htext
    obtain ⟨i, hi, rfl⟩ := List.mem_map.1 htext
    exact value_of_mem_textFields (List.mem_of_mem_filter hi)

/-- A German text with letters of two bytes and a word that is too short. The terms have lost
capitals, accents and an ending, and their places are those of the words as they stand. -/
theorem offsets_point_into_snapshot_umlaut :
    let a : Analyzer := { Analyzer.ofSchema (Schema.ofSettings .standard) with
      tokenizer := { TokenizerSettings.standard with
        minLength := 4, stem := true, language := "DE" } }
    let value := "Über den Häusern"
    let entry := SourceField.expandInto a.schema [] ⟨"abstract", some value, some " Text "⟩
    .storedOnly "abstract.stored" value ∈ entry ∧
      ∃ terms : List Occurrence,
        (a.postings entry).filter (·.field = "abstract") = terms.map (placed "abstract") ∧
        terms = [⟨"uber", 0, 0, 5⟩, ⟨"haus", 2, 10, 18⟩] ∧
        terms.map (fun o => Text.slice value o.start o.stop) = ["Über", "Häusern"] ∧
        ∀ o ∈ terms, standard.StandsIn a.tokenizer value o := by
  intro a value entry
  have hbare : a.schema.variant? "abstract" = none := by decide
  have hstemmed : (a.schema.suffix? .stemmed).isSome := by decide
  have hstored : (a.schema.suffix? .stored).isSome := by decide
  have hdate : "abstract" ∉ a.dateFields := by decide
  have hdeclared : Text.asciiLower (Text.trim " Text ") = "text" := by decide
  have hwords : (standard.words value.toList).length < UInt32.size := by decide +kernel
  have hkept : ((standard.wordsOf value).filter fun word =>
      standard.keeps a.tokenizer (a.tokenizer.normalize word)) = ["Über", "Häusern"] := by
    decide +kernel
  have hentry : entry = SourceField.textFields a.schema "abstract" value := by decide +kernel
  have hall : standard.occurrences a.tokenizer value =
      [⟨"uber", 0, 0, 5⟩, ⟨"haus", 2, 10, 18⟩] := by
    decide +kernel
  have hpostings : (a.postings entry).filter (·.field = "abstract") =
      [⟨"uber", 0, 0, 5⟩, ⟨"haus", 2, 10, 18⟩].map (placed "abstract") := by
    rw [← hall, hentry]
    exact filter_postings_textFields (by decide) hbare hstemmed hdate
  obtain ⟨-, hmem, -, terms, hterms, hstands, -, hslices⟩ :=
    offsets_point_into_snapshot standard (by decide) hbare hstemmed hstored hdate hdeclared hwords
  have hplaced : Function.Injective (placed "abstract") := by
    rintro ⟨⟩ ⟨⟩ h
    simpa [placed] using h
  have hshown : terms = [⟨"uber", 0, 0, 5⟩, ⟨"haus", 2, 10, 18⟩] :=
    List.map_injective_iff.2 hplaced (hterms.symm.trans hpostings)
  exact ⟨hmem, terms, hterms, hshown, hslices.trans hkept, hstands⟩

end Linguistics

end SearchRetrieve
