import SearchRetrieve.Text.Blank
import SearchRetrieve.Text.Digits
import Mathlib.Data.List.DropRight
import Mathlib.Data.String.Basic

/-!
# Numbers of equal width

Texts of equally many digits come in the order of the numbers that they spell, so that a number with
zeros in front is known by its value and its width.
-/
namespace SearchRetrieve.Text

def IsNumber (width : Nat) (digits : List Char) : Prop :=
  digits.length = width ∧ ∀ c ∈ digits, isDigit c = true

instance (width : Nat) (digits : List Char) : Decidable (IsNumber width digits) :=
  decidable_of_iff (digits.length = width ∧ digits.all isDigit = true) (by
    rw [IsNumber, List.all_eq_true])

variable {c : Char} {cs ds digits : List Char} {width n : Nat}

theorem isDigit_iff : isDigit c = true ↔ 48 ≤ c.toNat ∧ c.toNat ≤ 57 := by
  rw [isDigit, Bool.and_eq_true, decide_eq_true_iff, decide_eq_true_iff, Char.le_def, Char.le_def,
    UInt32.le_iff_toNat_le, UInt32.le_iff_toNat_le]
  rfl

theorem not_isBlank_of_isDigit (h : isDigit c = true) : isBlank c = false := by
  have hc := isDigit_iff.1 h
  simp only [isBlank]
  grind

theorem ne_sign_of_isDigit (h : isDigit c = true) : c ≠ '+' ∧ c ≠ '-' := by
  constructor <;> rintro rfl <;> exact absurd h (by decide)

theorem utf8Size_of_isDigit (h : isDigit c = true) : c.utf8Size = 1 := by
  have hc := isDigit_iff.1 h
  rw [Char.utf8Size_eq_one_iff, UInt32.le_iff_toNat_le]
  exact hc.2.trans (by decide)

theorem IsNumber.exists_first (h : IsNumber width digits) (hwidth : 0 < width) :
    ∃ c rest, digits = c :: rest ∧ isDigit c = true := by
  obtain ⟨hlength, hdigits⟩ := h
  obtain ⟨c, rest, rfl⟩ := List.exists_cons_of_length_pos (hlength ▸ hwidth)
  exact ⟨c, rest, rfl, hdigits c List.mem_cons_self⟩

theorem IsNumber.append {m : Nat} (hcs : IsNumber m cs) (hds : IsNumber n ds) :
    IsNumber (m + n) (cs ++ ds) := by
  refine ⟨by rw [List.length_append, hcs.1, hds.1], fun c hc => ?_⟩
  exact (List.mem_append.1 hc).elim (hcs.2 c) (hds.2 c)

theorem digitsValue_eq (digits : List Char) :
    digitsValue digits = Nat.ofDigitChars 10 digits 0 := by
  simp only [digitsValue, Nat.ofDigitChars_eq_foldl, Nat.mul_comm]

theorem digitsValue_append (cs ds : List Char) :
    digitsValue (cs ++ ds) = 10 ^ ds.length * digitsValue cs + digitsValue ds := by
  rw [digitsValue_eq, Nat.ofDigitChars_append, Nat.ofDigitChars_eq_ofDigitChars_zero,
    ← digitsValue_eq, ← digitsValue_eq]

theorem digitsValue_cons (c : Char) (cs : List Char) :
    digitsValue (c :: cs) = 10 ^ cs.length * (c.toNat - 48) + digitsValue cs := by
  have hone : digitsValue [c] = c.toNat - 48 := by simp [digitsValue]
  rw [← List.singleton_append, digitsValue_append, hone]

theorem digitsValue_lt (h : IsNumber width digits) : digitsValue digits < 10 ^ width := by
  induction digits generalizing width with
  | nil =>
    rw [← h.1]
    exact Nat.one_pos
  | cons c cs ih =>
    have hrest := ih ⟨rfl, fun d hd => h.2 d (List.mem_cons_of_mem c hd)⟩
    have hc := isDigit_iff.1 (h.2 c List.mem_cons_self)
    rw [← h.1, List.length_cons, Nat.pow_succ, digitsValue_cons]
    calc 10 ^ cs.length * (c.toNat - 48) + digitsValue cs
        < 10 ^ cs.length * (c.toNat - 48 + 1) := by rw [Nat.mul_succ]; omega
      _ ≤ 10 ^ cs.length * 10 := Nat.mul_le_mul_left _ (by omega)

theorem lt_iff_digitsValue_lt (hcs : IsNumber width cs) (hds : IsNumber width ds) :
    cs < ds ↔ digitsValue cs < digitsValue ds := by
  induction cs generalizing width ds with
  | nil =>
    have hnil : ds = [] := List.length_eq_zero_iff.1 (hds.1.trans hcs.1.symm)
    simp [hnil]
  | cons c cs ih =>
    obtain _ | ⟨d, ds⟩ := ds
    · exact absurd (hcs.1.trans hds.1.symm) (by simp)
    have hlength : cs.length = ds.length := by
      simpa using hcs.1.trans hds.1.symm
    have hcs' : IsNumber ds.length cs := ⟨hlength, fun a ha => hcs.2 a (List.mem_cons_of_mem c ha)⟩
    have hds' : IsNumber ds.length ds := ⟨rfl, fun a ha => hds.2 a (List.mem_cons_of_mem d ha)⟩
    have hc := isDigit_iff.1 (hcs.2 c List.mem_cons_self)
    have hd := isDigit_iff.1 (hds.2 d List.mem_cons_self)
    have hrest := digitsValue_lt hcs'
    have hrest' := digitsValue_lt hds'
    have hfirst {a b x y : Nat} (hab : a < b) (hx : x < 10 ^ ds.length) :
        10 ^ ds.length * a + x < 10 ^ ds.length * b + y :=
      calc 10 ^ ds.length * a + x < 10 ^ ds.length * (a + 1) := by rw [Nat.mul_succ]; omega
        _ ≤ 10 ^ ds.length * b := Nat.mul_le_mul_left _ hab
        _ ≤ 10 ^ ds.length * b + y := Nat.le_add_right _ _
    rw [List.cons_lt_cons_iff, digitsValue_cons, digitsValue_cons, hlength, ih hcs' hds',
      Char.lt_def, UInt32.lt_iff_toNat_lt]
    change c.toNat < d.toNat ∨ _ ↔ _
    rcases Nat.lt_trichotomy c.toNat d.toNat with h | h | h
    · exact iff_of_true (.inl h) (hfirst (by omega) hrest)
    · simp [Char.toNat_inj.1 h]
    · have hne : c ≠ d := fun heq => by simp [heq] at h
      have hgt := hfirst (y := digitsValue cs) (show d.toNat - 48 < c.toNat - 48 by omega) hrest'
      exact iff_of_false (by simp [hne, h.le]) hgt.not_gt

theorem eq_of_digitsValue_eq (hcs : IsNumber width cs) (hds : IsNumber width ds)
    (h : digitsValue cs = digitsValue ds) : cs = ds := by
  rcases lt_trichotomy cs ds with hlt | heq | hgt
  · exact absurd h ((lt_iff_digitsValue_lt hcs hds).1 hlt).ne
  · exact heq
  · exact absurd h ((lt_iff_digitsValue_lt hds hcs).1 hgt).ne'

theorem digits_of_sign (hdigits : ∀ c ∈ digits, isDigit c = true)
    (h : cs = digits ∨ cs = '+' :: digits) :
    (if cs.head? = some '+' then cs.tail else cs) = digits := by
  rcases h with rfl | rfl
  · refine if_neg fun hplus => ?_
    exact absurd (hdigits _ (List.mem_of_mem_head? hplus)) (by decide)
  · simp

theorem natBelow?_eq_some {bound : Nat} : natBelow? bound cs = some n ↔
    n < bound ∧ ∃ digits, (cs = digits ∨ cs = '+' :: digits) ∧ digits ≠ [] ∧
      (∀ c ∈ digits, isDigit c = true) ∧ digitsValue digits = n := by
  unfold natBelow?
  constructor
  · intro h
    generalize hdigits : (if cs.head? = some '+' then cs.tail else cs) = digits at h
    have hcs : cs = digits ∨ cs = '+' :: digits := by
      split at hdigits
      · next hplus => exact .inr (hdigits ▸ (List.cons_head?_tail hplus).symm)
      · exact .inl hdigits
    dsimp only at h
    split at h
    · simp at h
    · next hgood =>
      simp only [Bool.or_eq_true, decide_eq_true_eq, not_or, Nat.not_le, List.isEmpty_iff,
        Bool.not_eq_true', Bool.not_eq_false, List.all_eq_true] at hgood
      obtain rfl := Option.some.inj h
      exact ⟨hgood.2, digits, hcs, hgood.1.1, hgood.1.2, rfl⟩
  · rintro ⟨hbound, digits, hcs, hne, hdigits, rfl⟩
    rw [digits_of_sign hdigits hcs, if_neg]
    simpa [hne, hbound] using hdigits

end SearchRetrieve.Text
