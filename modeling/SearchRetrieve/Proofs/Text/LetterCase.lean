import SearchRetrieve.Text.Alphanumeric
import SearchRetrieve.Text.LetterCase
import SearchRetrieve.Proofs.Text.Ranges

/-!
# Lower case of lower case

What lower case gives stays as it is in lower case, and only letters change. A sigma looks at the
text around it; in a text without one each character is mapped on its own.
-/
namespace SearchRetrieve.Text

/-- Lower case leaves the character alone, wherever it stands. -/
def IsLower (c : Char) : Prop := ∀ before after, lowerAt before c after = [c]

/-- The characters that lower case changes, by runs: the capital I with a dot, which becomes two
characters, and the capitals of the table. -/
def changing : List CaseRun := ⟨0x130, 0x130, 1, 0⟩ :: capitals

namespace CaseRun

variable {r s : CaseRun} {n : Nat}

theorem holds_iff : r.holds n = true ↔
    r.first ≤ n ∧ n ≤ r.last ∧ (n - r.first) % r.stride = 0 := by
  simp [holds, and_assoc]

/-- The letters that the capitals of `r` become stand before the capitals of `s`, after them or,
every other one, between them. -/
def clears (r s : CaseRun) : Bool :=
  (r.last + r.offset).toNat.blt s.first || s.last.blt (r.first + r.offset).toNat ||
    (r.first == r.last || r.stride == 2) && s.stride == 2 && decide (0 ≤ r.first + r.offset) &&
      (r.first + r.offset - s.first) % 2 == 1

theorem not_holds_of_clears (h : r.clears s = true) (hn : r.holds n = true) :
    s.holds (n + r.offset).toNat = false := by
  obtain ⟨hfirst, hlast, hstride⟩ := holds_iff.1 hn
  rw [← Bool.not_eq_true, holds_iff]
  rintro ⟨hlower, hupper, hcapital⟩
  simp only [clears, Bool.or_eq_true, Bool.and_eq_true, Nat.blt_eq, decide_eq_true_eq,
    beq_iff_eq] at h
  rcases h with (hbefore | hafter) | ⟨⟨⟨hruns, htwo⟩, hpositive⟩, hodd⟩
  · omega
  · omega
  · rw [htwo] at hcapital
    rcases hruns with hone | halternate
    · omega
    · rw [halternate] at hstride
      omega

def members (r : CaseRun) : List Nat :=
  List.range' r.first ((r.last - r.first) / r.stride + 1) r.stride

theorem mem_members (h : r.holds n = true) : n ∈ r.members := by
  obtain ⟨hfirst, hlast, hstride⟩ := holds_iff.1 h
  refine List.mem_range'.2 ⟨(n - r.first) / r.stride, ?_, ?_⟩
  · exact Nat.lt_succ_of_le (Nat.div_le_div_right (by omega))
  · have hdivides := Nat.mul_div_cancel' (Nat.dvd_of_mod_eq_zero hstride)
    omega

end CaseRun

theorem capitals_clear : capitals.all (fun r => changing.all r.clears) = true := by
  decide +kernel

/-- The characters that the two exceptions become, and the one that stands for no character. -/
def unchanged : List Char := ['ς', 'σ', 'i', '\u0307', '\x00']

theorem unchanged_clear :
    unchanged.all (fun d => changing.all fun r => !r.holds d.toNat) = true := by decide +kernel

theorem alphanumericRanges_ordered : alphanumericRanges.Ordered :=
  Ranges.ordered_of_increasing (n := 0) (by decide +kernel)

/-- One range of letters and numbers holds everything between the two code points. -/
def spanned (first last : Nat) : Bool :=
  alphanumericRanges.toList.any fun p => p.1.ble first && last.ble p.2

/-- A run of capitals lies in one range, or at least its members do, each in its own. -/
theorem changing_spanned : changing.all (fun r =>
    spanned r.first r.last || r.members.all fun n => spanned n n) = true := by decide +kernel

theorem isAlphanumeric_of_spanned {c : Char} {first last : Nat} (h : spanned first last = true)
    (hfirst : first ≤ c.toNat) (hlast : c.toNat ≤ last) : isAlphanumeric c = true := by
  obtain ⟨p, hp, haround⟩ := List.any_eq_true.1 h
  simp only [Bool.and_eq_true, Nat.ble_eq] at haround
  exact alphanumericRanges_ordered.covers_iff.2 ⟨p, hp, by omega, by omega⟩

theorem isAlphanumeric_of_changing {c : Char} {r : CaseRun} (hr : r ∈ changing)
    (h : r.holds c.toNat = true) : isAlphanumeric c = true := by
  rcases Bool.or_eq_true_iff.1 (List.all_eq_true.1 changing_spanned r hr) with hrun | hmembers
  · obtain ⟨hfirst, hlast, -⟩ := CaseRun.holds_iff.1 h
    exact isAlphanumeric_of_spanned hrun hfirst hlast
  · exact isAlphanumeric_of_spanned (List.all_eq_true.1 hmembers _ (CaseRun.mem_members h))
      (Nat.le_refl _) (Nat.le_refl _)

variable {c d : Char} {before after cs : List Char}

theorem lowerChar_cases (c : Char) : (∀ r ∈ capitals, r.holds c.toNat = false) ∧ lowerChar c = c ∨
    ∃ r ∈ capitals, r.holds c.toNat = true ∧
      lowerChar c = Char.ofNat (c.toNat + r.offset).toNat := by
  unfold lowerChar
  cases hfind : capitals.find? (·.holds c.toNat) with
  | none => exact Or.inl ⟨by simpa using List.find?_eq_none.1 hfind, rfl⟩
  | some r =>
    have hholds := List.find?_some hfind
    exact Or.inr ⟨r, List.mem_of_find?_eq_some hfind, hholds, rfl⟩

theorem isLower_of_unchanged (h : ∀ r ∈ changing, r.holds c.toNat = false) : IsLower c := by
  have hdotted : c ≠ 'İ' := by
    rintro rfl
    exact absurd (h _ List.mem_cons_self) (by decide)
  have hsame : lowerChar c = c := by
    rcases lowerChar_cases c with ⟨-, hsame⟩ | ⟨r, hr, hholds, -⟩
    · exact hsame
    · simp [h r (List.mem_cons_of_mem _ hr)] at hholds
  have hsigma : c ≠ 'Σ' := by
    rintro rfl
    exact absurd hsame (by decide +kernel)
  intro before after
  simp [lowerAt, hsigma, hdotted, hsame]

theorem not_holds_of_mem_unchanged {r : CaseRun} (hd : d ∈ unchanged) (hr : r ∈ changing) :
    r.holds d.toNat = false := by
  simpa using List.all_eq_true.1 (List.all_eq_true.1 unchanged_clear d hd) r hr

theorem isLower_of_mem_unchanged (hd : d ∈ unchanged) : IsLower d :=
  isLower_of_unchanged fun _ => not_holds_of_mem_unchanged hd

theorem toNat_ofNat_or (n : Nat) : (Char.ofNat n).toNat = n ∨ Char.ofNat n = '\x00' := by
  by_cases h : n.isValidChar
  · rw [Char.ofNat, dif_pos h]
    exact Or.inl rfl
  · rw [Char.ofNat, dif_neg h]
    exact Or.inr rfl

theorem isLower_lowerChar (hc : c ≠ 'İ') : IsLower (lowerChar c) := by
  apply isLower_of_unchanged
  intro s hs
  rcases lowerChar_cases c with ⟨hcapitals, hsame⟩ | ⟨r, hr, hholds, hlower⟩
  · rw [hsame]
    rcases List.mem_cons.1 hs with rfl | hs
    · rw [← Bool.not_eq_true, CaseRun.holds_iff]
      rintro ⟨hfirst, hlast, -⟩
      have hcode : c.toNat = 'İ'.toNat := Nat.le_antisymm hlast hfirst
      exact hc (Char.toNat_inj.1 hcode)
    · exact hcapitals s hs
  · have hclears : r.clears s = true :=
      List.all_eq_true.1 (List.all_eq_true.1 capitals_clear r hr) s hs
    rw [hlower]
    rcases toNat_ofNat_or (c.toNat + r.offset).toNat with hcode | hnone
    · rw [hcode]
      exact CaseRun.not_holds_of_clears hclears hholds
    · rw [hnone]
      exact not_holds_of_mem_unchanged (by decide) hs

theorem isLower_of_mem_lowerAt (h : d ∈ lowerAt before c after) : IsLower d := by
  unfold lowerAt at h
  split at h
  · obtain rfl := List.mem_singleton.1 h
    apply isLower_of_mem_unchanged
    split <;> decide
  · split at h
    · exact isLower_of_mem_unchanged (List.mem_append_left _ (List.mem_append_right ['ς', 'σ'] h))
    · next hc =>
      obtain rfl := List.mem_singleton.1 h
      exact isLower_lowerChar hc

/-- Lower case changes letters only. -/
theorem isLower_of_not_isAlphanumeric (h : isAlphanumeric c = false) : IsLower c := by
  apply isLower_of_unchanged
  intro r hr
  rw [← Bool.not_eq_true]
  intro hholds
  exact absurd (isAlphanumeric_of_changing hr hholds) (by simp [h])

theorem lowerFrom_of_isLower (h : ∀ c ∈ cs, IsLower c) (before : List Char) :
    lowerFrom before cs = cs := by
  induction cs generalizing before with
  | nil => rfl
  | cons c cs ih =>
    rw [lowerFrom, h c (by simp), ih fun d hd => h d (by simp [hd])]
    rfl

theorem lowerChars_of_isLower (h : ∀ c ∈ cs, IsLower c) : lowerChars cs = cs :=
  lowerFrom_of_isLower h []

theorem isLower_of_mem_lowerFrom (h : d ∈ lowerFrom before cs) : IsLower d := by
  induction cs generalizing before with
  | nil => simp [lowerFrom] at h
  | cons c cs ih =>
    rcases List.mem_append.1 h with hfirst | hlater
    · exact isLower_of_mem_lowerAt hfirst
    · exact ih hlater

theorem isLower_of_mem_lowerChars (h : d ∈ lowerChars cs) : IsLower d :=
  isLower_of_mem_lowerFrom h

theorem lowerFrom_eq_flatMap (h : 'Σ' ∉ cs) (before : List Char) :
    lowerFrom before cs = cs.flatMap fun c => lowerAt [] c [] := by
  induction cs generalizing before with
  | nil => rfl
  | cons c cs ih =>
    simp only [List.mem_cons, not_or] at h
    have halone : lowerAt before c cs = lowerAt [] c [] := by simp [lowerAt, Ne.symm h.1]
    rw [lowerFrom, halone, ih h.2, List.flatMap_cons]

theorem lowerChars_eq_flatMap (h : 'Σ' ∉ cs) :
    lowerChars cs = cs.flatMap fun c => lowerAt [] c [] :=
  lowerFrom_eq_flatMap h []

end SearchRetrieve.Text
