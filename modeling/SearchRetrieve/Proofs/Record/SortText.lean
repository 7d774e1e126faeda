import SearchRetrieve.Proofs.Text.LetterCase
import SearchRetrieve.Record.Expansion

/-!
# The text that a value sorts by

The texts to sort by are those of letters and digits that lower case leaves alone, and these sort by
themselves. Without a capital sigma a value sorts by its characters one by one, and what is no
letter or digit does not count.
-/
namespace SearchRetrieve

open Text

/-- Letters and digits only, none of which lower case changes. -/
def IsSortText (v : String) : Prop := ∀ c ∈ v.toList, isAlphanumeric c = true ∧ IsLower c

variable {v w : String}

theorem toList_sortText (v : String) :
    (sortText v).toList = (lowerChars v.toList).filter isAlphanumeric :=
  String.toList_ofList

theorem isSortText_sortText (v : String) : IsSortText (sortText v) := by
  intro c hc
  rw [toList_sortText, List.mem_filter] at hc
  exact ⟨hc.2, isLower_of_mem_lowerChars hc.1⟩

theorem sortText_eq_self_iff : sortText v = v ↔ IsSortText v := by
  constructor
  · intro h
    rw [← h]
    exact isSortText_sortText v
  · intro h
    apply String.toList_injective
    rw [toList_sortText, lowerChars_of_isLower fun c hc => (h c hc).2, List.filter_eq_self]
    exact fun c hc => (h c hc).1

/-- What a character gives to the text to sort by, its context left aside. -/
def sortChars (c : Char) : List Char := (lowerAt [] c []).filter isAlphanumeric

theorem sortChars_of_not_isAlphanumeric {c : Char} (h : isAlphanumeric c = false) :
    sortChars c = [] := by
  simp [sortChars, isLower_of_not_isAlphanumeric h [] [], h]

theorem toList_sortText_of_no_sigma (h : 'Σ' ∉ v.toList) :
    (sortText v).toList = v.toList.flatMap sortChars := by
  rw [toList_sortText, lowerChars_eq_flatMap h, List.filter_flatMap]
  rfl

theorem flatMap_sortChars_filter (cs : List Char) :
    (cs.filter isAlphanumeric).flatMap sortChars = cs.flatMap sortChars := by
  induction cs with
  | nil => rfl
  | cons c cs ih =>
    cases hc : isAlphanumeric c with
    | true => simp [hc, ih]
    | false => simp [hc, ih, sortChars_of_not_isAlphanumeric hc]

theorem sortText_append (h : 'Σ' ∉ (v ++ w).toList) :
    sortText (v ++ w) = sortText v ++ sortText w := by
  have hparts : 'Σ' ∉ v.toList ∧ 'Σ' ∉ w.toList := by simpa [not_or] using h
  apply String.toList_injective
  rw [toList_sortText_of_no_sigma h, String.toList_append, List.flatMap_append,
    String.toList_append, toList_sortText_of_no_sigma hparts.1,
    toList_sortText_of_no_sigma hparts.2]

/-- A sigma is a letter, so texts with the same letters both have one or neither has. -/
theorem sortText_congr (h : 'Σ' ∉ v.toList)
    (hsame : v.toList.filter isAlphanumeric = w.toList.filter isAlphanumeric) :
    sortText v = sortText w := by
  have hsigma : isAlphanumeric 'Σ' = true := by decide +kernel
  have hw : 'Σ' ∉ w.toList := by
    intro hmem
    have hfiltered : 'Σ' ∈ w.toList.filter isAlphanumeric := List.mem_filter.2 ⟨hmem, hsigma⟩
    rw [← hsame] at hfiltered
    exact h (List.mem_filter.1 hfiltered).1
  apply String.toList_injective
  calc (sortText v).toList
      = (v.toList.filter isAlphanumeric).flatMap sortChars := by
        rw [toList_sortText_of_no_sigma h, flatMap_sortChars_filter]
    _ = (sortText w).toList := by
        rw [hsame, toList_sortText_of_no_sigma hw, flatMap_sortChars_filter]

/-- Taking the text to sort by is a projection onto the texts of letters and digits in lower case.
Without a capital sigma it keeps appends, and only letters and digits count. -/
theorem sortText_projects :
    (∀ v, sortText (sortText v) = sortText v ∧ IsSortText (sortText v) ∧
      (sortText v = v ↔ IsSortText v)) ∧
    (∀ v w, 'Σ' ∉ (v ++ w).toList → sortText (v ++ w) = sortText v ++ sortText w) ∧
    ∀ v w, 'Σ' ∉ v.toList →
      v.toList.filter isAlphanumeric = w.toList.filter isAlphanumeric →
      sortText v = sortText w := by
  refine ⟨fun v => ⟨?_, isSortText_sortText v, sortText_eq_self_iff⟩,
    fun v w => sortText_append, fun v w => sortText_congr⟩
  exact sortText_eq_self_iff.2 (isSortText_sortText v)

/-- A capital that becomes a letter and a combining dot, which is none, and other characters that
do not count. -/
theorem sortText_projects_istanbul :
    'Σ' ∉ ("The İs" ++ "tanbul-Ⅷ!").toList ∧
    sortText ("The İs" ++ "tanbul-Ⅷ!") = sortText "The İs" ++ sortText "tanbul-Ⅷ!" ∧
    sortText "The İs" = "theis" ∧ sortText "tanbul-Ⅷ!" = "tanbulⅷ" ∧
    sortText "The İs" = sortText "“The”\u0307 İ s" := by
  obtain ⟨-, happend, hcongr⟩ := sortText_projects
  have hsigma : 'Σ' ∉ ("The İs" ++ "tanbul-Ⅷ!").toList := by decide
  refine ⟨hsigma, happend _ _ hsigma, by decide +kernel, by decide +kernel, ?_⟩
  exact hcongr _ _ (by decide) (by decide +kernel)

end SearchRetrieve
