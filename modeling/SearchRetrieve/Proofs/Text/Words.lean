import Mathlib.Data.List.DropRight
import SearchRetrieve.Text.Blank

/-!
# Pieces, words and ends of a text

Texts that are put together around a separator which is in none of them are its pieces. Words that
are put together around blanks are its words. A text without white space at its ends is its own
trimmed form.
-/
namespace SearchRetrieve.Text

theorem not_mem_of_splitOnP {α : Type} {p : α → Bool} {xs piece : List α}
    (h : piece ∈ xs.splitOnP p) : ∀ x ∈ piece, p x = false := by
  induction xs generalizing piece with
  | nil => simp_all
  | cons x xs ih =>
    rw [List.splitOnP_cons_eq_if_modifyHead] at h
    split at h
    · rcases List.mem_cons.1 h with rfl | h
      · simp
      · exact ih h
    · next hx =>
      cases hsplit : xs.splitOnP p with
      | nil => simp [hsplit] at h
      | cons first others =>
        rw [hsplit] at h ih
        simp only [List.modifyHead_cons, List.mem_cons] at h
        rcases h with rfl | h
        · intro y hy
          rcases List.mem_cons.1 hy with rfl | hy
          · simpa using hx
          · exact ih (List.mem_cons_self) y hy
        · exact ih (List.mem_cons_of_mem _ h)

section Runs

variable {α : Type} {p : α → Bool} {run rest : List α}

theorem takeWhile_append_of_head? (hrest : ∀ x ∈ rest.head?, p x = false) :
    (run ++ rest).takeWhile p = run.takeWhile p := by
  induction run with
  | nil =>
    cases rest with
    | nil => rfl
    | cons x rest => simp [hrest x rfl]
  | cons x run ih => by_cases hx : p x = true <;> simp [hx, ih]

theorem dropWhile_append_of_head? (hrest : ∀ x ∈ rest.head?, p x = false) :
    (run ++ rest).dropWhile p = run.dropWhile p ++ rest := by
  have hparts : (run ++ rest).takeWhile p ++ (run ++ rest).dropWhile p =
      run.takeWhile p ++ (run.dropWhile p ++ rest) := by
    rw [List.takeWhile_append_dropWhile, ← List.append_assoc, List.takeWhile_append_dropWhile]
  rw [takeWhile_append_of_head? hrest] at hparts
  exact List.append_cancel_left hparts

theorem takeWhile_run (hrun : ∀ x ∈ run, p x = true) (hrest : ∀ x ∈ rest.head?, p x = false) :
    (run ++ rest).takeWhile p = run := by
  rw [takeWhile_append_of_head? hrest, List.takeWhile_eq_self_iff.2 hrun]

theorem dropWhile_run (hrun : ∀ x ∈ run, p x = true) (hrest : ∀ x ∈ rest.head?, p x = false) :
    (run ++ rest).dropWhile p = rest := by
  rw [dropWhile_append_of_head? hrest, List.dropWhile_eq_nil_iff.2 hrun, List.nil_append]

end Runs

variable {sep c : Char} {s part word between : String} {parts ws : List String}

theorem not_mem_of_mem_splitAt (h : part ∈ splitAt sep s) : sep ∉ part.toList := by
  obtain ⟨piece, hpiece, rfl⟩ := List.mem_map.1 h
  intro hsep
  rw [String.toList_ofList] at hsep
  simpa using not_mem_of_splitOnP hpiece sep hsep

theorem intercalate_splitAt (hbetween : between.toList = [sep]) :
    String.intercalate between (splitAt sep s) = s := by
  apply String.toList_injective
  simp [splitAt, hbetween, Function.comp_def, List.intercalate_splitOn]

theorem splitAt_intercalate (hbetween : between.toList = [sep]) (hne : parts ≠ [])
    (hparts : ∀ part ∈ parts, sep ∉ part.toList) :
    splitAt sep (String.intercalate between parts) = parts := by
  have hpieces : ∀ piece ∈ parts.map String.toList, sep ∉ piece := by
    intro piece hpiece
    obtain ⟨part, hpart, rfl⟩ := List.mem_map.1 hpiece
    exact hparts part hpart
  have hsplit := List.splitOn_intercalate sep hpieces (by simpa using hne)
  simp [splitAt, hbetween, hsplit, Function.comp_def]

theorem mem_intercalate (h : c ∈ (String.intercalate between parts).toList) :
    c ∈ between.toList ∨ ∃ part ∈ parts, c ∈ part.toList := by
  induction parts with
  | nil => simp at h
  | cons first parts ih =>
    cases parts with
    | nil => exact Or.inr ⟨first, by simp, by simpa using h⟩
    | cons second parts =>
      simp only [String.intercalate_cons_cons, String.toList_append, List.mem_append] at h
      rcases h with (hfirst | hbetween) | hlater
      · exact Or.inr ⟨first, by simp, hfirst⟩
      · exact Or.inl hbetween
      · refine (ih hlater).imp_right ?_
        rintro ⟨part, hpart, hc⟩
        exact ⟨part, List.mem_cons_of_mem _ hpart, hc⟩

theorem mem_intercalate_of_mem (hpart : part ∈ parts) (hc : c ∈ part.toList) :
    c ∈ (String.intercalate between parts).toList := by
  induction parts with
  | nil => simp at hpart
  | cons first parts ih =>
    cases parts with
    | nil => simpa [List.mem_singleton.1 hpart] using hc
    | cons second parts =>
      simp only [String.intercalate_cons_cons, String.toList_append, List.mem_append]
      rcases List.mem_cons.1 hpart with rfl | hlater
      · exact Or.inl (Or.inl hc)
      · exact Or.inr (ih hlater)

theorem mem_of_mem_splitAt (hpart : part ∈ splitAt sep s) (hc : c ∈ part.toList) :
    c ∈ s.toList := by
  have hmem : c ∈ (String.intercalate (String.singleton sep) (splitAt sep s)).toList :=
    mem_intercalate_of_mem hpart hc
  rwa [intercalate_splitAt (by simp)] at hmem

theorem mem_words (h : word ∈ words s) : word ≠ "" ∧ hasBlank word.toList = false := by
  obtain ⟨piece, hpiece, rfl⟩ := List.mem_map.1 h
  obtain ⟨hsplit, hne⟩ := List.mem_filter.1 hpiece
  constructor
  · rintro hempty
    have hnil : piece = [] := by simpa using congrArg String.toList hempty
    simp [hnil] at hne
  · have hblank := not_mem_of_splitOnP hsplit
    simpa [hasBlank] using hblank

theorem wordsChars_of_not_blank {cs : List Char} (hne : cs ≠ []) (hcs : hasBlank cs = false) :
    wordsChars cs = [cs] := by
  have hplain : ∀ c ∈ cs, isBlank c = false := by simpa [hasBlank] using hcs
  simp [wordsChars, List.splitOnP_eq_singleton hplain, hne]

/-- White space ends a word. -/
theorem wordsChars_append_cons (cs : List Char) {b : Char} (hb : isBlank b = true)
    (rest : List Char) : wordsChars (cs ++ b :: rest) = wordsChars cs ++ wordsChars rest := by
  rw [wordsChars, List.splitOnP_append_cons cs rest hb, List.filter_append]
  rfl

theorem wordsChars_append {cs : List Char} (hne : cs ≠ []) (hcs : hasBlank cs = false) {b : Char}
    (hb : isBlank b = true) (rest : List Char) :
    wordsChars (cs ++ b :: rest) = cs :: wordsChars rest := by
  rw [wordsChars_append_cons cs hb, wordsChars_of_not_blank hne hcs]
  rfl

theorem wordsChars_blank {b : Char} (hb : isBlank b = true) (rest : List Char) :
    wordsChars (b :: rest) = wordsChars rest :=
  wordsChars_append_cons [] hb rest

theorem wordsChars_append_left {gap cs : List Char} (h : ∀ b ∈ gap, isBlank b = true) :
    wordsChars (gap ++ cs) = wordsChars cs := by
  induction gap with
  | nil => rfl
  | cons b gap ih =>
    obtain ⟨hb, hgap⟩ := List.forall_mem_cons.1 h
    rw [List.cons_append, wordsChars_blank hb, ih hgap]

theorem words_intercalate (h : ∀ word ∈ ws, word ≠ "" ∧ hasBlank word.toList = false) :
    words (String.intercalate " " ws) = ws := by
  induction ws with
  | nil => rfl
  | cons first ws ih =>
    obtain ⟨hne, hfirst⟩ := h first List.mem_cons_self
    have hchars : first.toList ≠ [] := by simpa using hne
    cases ws with
    | nil => simp [words, wordsChars_of_not_blank hchars hfirst]
    | cons second ws =>
      have hrest := ih fun word hword => h word (List.mem_cons_of_mem _ hword)
      have htext : (String.intercalate " " (first :: second :: ws)).toList =
          first.toList ++ ' ' :: (String.intercalate " " (second :: ws)).toList := by
        simp only [String.intercalate_cons_cons, String.toList_append, List.append_assoc]
        rfl
      rw [words, htext, wordsChars_append hchars hfirst (by decide), List.map_cons,
        String.ofList_toList]
      exact congrArg _ hrest

theorem dropWhile_rdropWhile {α : Type} {p : α → Bool} {xs : List α}
    (h : xs.dropWhile p = xs) : (xs.rdropWhile p).dropWhile p = xs.rdropWhile p := by
  obtain ⟨dropped, hxs⟩ := List.rdropWhile_prefix p xs
  generalize xs.rdropWhile p = kept at hxs
  subst hxs
  cases kept with
  | nil => rfl
  | cons x kept =>
    rw [List.cons_append, List.dropWhile_eq_self_iff] at h
    rw [List.dropWhile_eq_self_iff]
    exact fun _ => h (by simp)

theorem trimChars_eq (cs : List Char) :
    trimChars cs = (cs.dropWhile isBlank).rdropWhile isBlank := rfl

/-- White space is cut off once and for all. -/
theorem trimChars_trimChars (cs : List Char) : trimChars (trimChars cs) = trimChars cs := by
  have hstart : (cs.dropWhile isBlank).dropWhile isBlank = cs.dropWhile isBlank :=
    List.dropWhile_idempotent isBlank cs
  rw [trimChars_eq, trimChars_eq, dropWhile_rdropWhile hstart, List.rdropWhile_idempotent]

theorem trim_trim (s : String) : trim (trim s) = trim s := by
  simp only [trim, String.toList_ofList, trimChars_trimChars]

def IsTrimmed (s : String) : Prop :=
  (∀ c ∈ s.toList.head?, isBlank c = false) ∧ ∀ c ∈ s.toList.getLast?, isBlank c = false

theorem trimChars_eq_self_iff {cs : List Char} : trimChars cs = cs ↔
    cs.dropWhile isBlank = cs ∧ cs.rdropWhile isBlank = cs := by
  constructor
  · intro h
    rw [trimChars_eq] at h
    have hprefix := List.rdropWhile_prefix isBlank (cs.dropWhile isBlank)
    rw [h] at hprefix
    have hstart : cs.dropWhile isBlank = cs :=
      (List.dropWhile_sublist isBlank).antisymm hprefix.sublist
    exact ⟨hstart, by rwa [hstart] at h⟩
  · rintro ⟨hstart, hend⟩
    rw [trimChars_eq, hstart, hend]

theorem trim_eq_self_iff : trim s = s ↔ IsTrimmed s := by
  have hchars : trim s = s ↔ trimChars s.toList = s.toList := by
    rw [trim, ← String.toList_inj, String.toList_ofList]
  rw [hchars, trimChars_eq_self_iff, List.dropWhile_eq_self_iff, List.rdropWhile_eq_self_iff,
    IsTrimmed]
  generalize s.toList = cs
  cases cs with
  | nil => simp
  | cons c cs => simp [List.getLast?_eq_getLast_of_ne_nil]

theorem mem_of_mem_trim (h : c ∈ (trim s).toList) : c ∈ s.toList := by
  rw [trim, String.toList_ofList, trimChars_eq] at h
  have hstart := (List.rdropWhile_prefix _ _).mem h
  exact (List.dropWhile_sublist _).mem hstart

section Chars

variable {gap cs before after : List Char}

theorem trimChars_append_left (h : ∀ b ∈ gap, isBlank b = true) :
    trimChars (gap ++ cs) = trimChars cs := by
  rw [trimChars_eq, trimChars_eq, List.dropWhile_append_of_pos h]

theorem rdropWhile_append_of_pos {α : Type} {p : α → Bool} {xs ys : List α}
    (h : ∀ y ∈ ys, p y = true) : (xs ++ ys).rdropWhile p = xs.rdropWhile p := by
  have hreverse : ∀ y ∈ ys.reverse, p y = true := by simpa using h
  rw [List.rdropWhile, List.reverse_append, List.dropWhile_append_of_pos hreverse,
    List.rdropWhile]

theorem trimChars_append_right (h : ∀ b ∈ gap, isBlank b = true) :
    trimChars (cs ++ gap) = trimChars cs := by
  have hblank : gap.dropWhile isBlank = [] := List.dropWhile_eq_nil_iff.2 h
  rw [trimChars_eq, trimChars_eq, List.dropWhile_append]
  split
  · next hempty => rw [hblank, List.isEmpty_iff.1 hempty]
  · exact rdropWhile_append_of_pos h

/-- What stands in the middle stays, with all between it and the ends. -/
theorem trimChars_append_cons (hc : isBlank c = false) : trimChars (before ++ c :: after) =
    before.dropWhile isBlank ++ c :: after.rdropWhile isBlank := by
  have hfront {xs ys : List Char} : (xs ++ c :: ys).dropWhile isBlank =
      xs.dropWhile isBlank ++ c :: ys := by
    rw [List.dropWhile_append]
    split
    · next hempty => simp [List.isEmpty_iff.1 hempty, hc]
    · rfl
  rw [trimChars_eq, hfront, List.rdropWhile, List.reverse_append, List.reverse_cons,
    List.append_assoc, List.singleton_append, hfront]
  simp [List.rdropWhile]

theorem trimChars_dropWhile : trimChars (cs.dropWhile isBlank) = trimChars cs := by
  rw [trimChars_eq, List.dropWhile_idempotent, ← trimChars_eq]

theorem trimChars_rdropWhile : trimChars (cs.rdropWhile isBlank) = trimChars cs := by
  have hgap : ∀ b ∈ cs.rtakeWhile isBlank, isBlank b = true := fun b => List.mem_rtakeWhile_imp
  conv_rhs => rw [← List.rdropWhile_append_rtakeWhile (p := isBlank) (l := cs)]
  exact (trimChars_append_right hgap).symm

theorem trimChars_eq_nil_iff : trimChars cs = [] ↔ ∀ b ∈ cs, isBlank b = true := by
  rw [trimChars_eq, List.rdropWhile_eq_nil_iff]
  constructor
  · intro h
    rw [← List.dropWhile_eq_nil_iff]
    by_contra hne
    have hhead := List.head_dropWhile_not isBlank hne
    simp [h _ (List.head_mem hne)] at hhead
  · intro h b hb
    exact h b ((List.dropWhile_sublist isBlank).mem hb)

theorem trimChars_of_not_blank (h : hasBlank cs = false) : trimChars cs = cs := by
  have hplain : ∀ c ∈ cs, isBlank c = false := by simpa [hasBlank] using h
  rw [trimChars_eq_self_iff, List.dropWhile_eq_self_iff, List.rdropWhile_eq_self_iff]
  exact ⟨fun _ => by simp [hplain], fun _ => by simp [hplain]⟩

theorem head?_trimChars : (trimChars cs).head? = (trimStartChars cs).head? := by
  rw [← trimChars_dropWhile, trimStartChars]
  cases hcs : cs.dropWhile isBlank with
  | nil => rfl
  | cons c rest =>
    have hc : isBlank c = false := by
      have hhead := List.head?_dropWhile_not isBlank cs
      simpa [hcs] using hhead
    have hfirst : trimChars ([] ++ c :: rest) = [] ++ c :: rest.rdropWhile isBlank :=
      trimChars_append_cons hc
    rw [List.nil_append] at hfirst
    rw [hfirst]
    rfl

theorem cut_append {p : Char → Bool} (h : ∀ c ∈ before, p c = false) (hc : p c = true) :
    cut p (before ++ c :: after) = (before, some after) := by
  induction before with
  | nil => simp [cut, hc]
  | cons first before ih =>
    obtain ⟨hfirst, hbefore⟩ := List.forall_mem_cons.1 h
    simp [cut, hfirst, ih hbefore]

theorem cut_of_none {p : Char → Bool} (h : ∀ c ∈ cs, p c = false) : cut p cs = (cs, none) := by
  induction cs with
  | nil => rfl
  | cons first cs ih =>
    obtain ⟨hfirst, hcs⟩ := List.forall_mem_cons.1 h
    simp [cut, hfirst, ih hcs]

end Chars

end SearchRetrieve.Text
