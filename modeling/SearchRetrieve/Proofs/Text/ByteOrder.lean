import Mathlib.Data.String.Basic
import Mathlib.Tactic.SplitIfs

/-!
# The order of texts

Texts are ordered by their characters. This is the order of their UTF-8 forms, byte by byte: of two
characters the lower one has fewer bytes or the lower first byte that differs.
-/
namespace SearchRetrieve.Text

def utf8Bytes (s : String) : List UInt8 := s.toList.flatMap String.utf8EncodeChar

theorem ofNat_lt_ofNat {m n : Nat} (h : m < n) (hn : n < 256) : UInt8.ofNat m < UInt8.ofNat n :=
  (UInt8.ofNat_lt_iff_lt (Nat.lt_trans h hn) hn).2 h

/-- Of two numbers below a bound, the lower one has the lower code, whatever follows. -/
def Increasing (bound : Nat) (code : Nat → List UInt8) : Prop :=
  ∀ m n, m < n → n < bound → ∀ x y, code m ++ x < code n ++ y

theorem increasing_lead {bound mark : Nat} (h : bound + mark ≤ 256) :
    Increasing bound fun n => [UInt8.ofNat (n % bound + mark)] := by
  intro m n hlt hn x y
  have hbyte : UInt8.ofNat (m + mark) < UInt8.ofNat (n + mark) :=
    ofNat_lt_ofNat (by omega) (by omega)
  simp only [List.singleton_append, List.cons_lt_cons_iff, Nat.mod_eq_of_lt hn,
    Nat.mod_eq_of_lt (Nat.lt_trans hlt hn)]
  exact Or.inl hbyte

/-- Six more bits go into a byte behind the others. -/
theorem Increasing.continued {bound : Nat} {code : Nat → List UInt8} (h : Increasing bound code) :
    Increasing (64 * bound) fun n => code (n / 64) ++ [UInt8.ofNat (n % 64 + 128)] := by
  intro m n hlt hn x y
  simp only [List.append_assoc, List.singleton_append]
  by_cases hhigh : m / 64 = n / 64
  · have hlow : UInt8.ofNat (m % 64 + 128) < UInt8.ofNat (n % 64 + 128) :=
      ofNat_lt_ofNat (by omega) (by omega)
    rw [hhigh]
    exact List.append_left_lt (List.cons_lt_cons_iff.2 (Or.inl hlow))
  · exact h _ _ (by omega) (by omega) _ _

theorem increasing_two : Increasing 2048 fun n =>
    [UInt8.ofNat (n / 64 % 32 + 192), UInt8.ofNat (n % 64 + 128)] := by
  have h : 32 + 192 ≤ 256 := by decide
  exact (increasing_lead h).continued

theorem increasing_three : Increasing 65536 fun n =>
    [UInt8.ofNat (n / 4096 % 16 + 224), UInt8.ofNat (n / 64 % 64 + 128),
      UInt8.ofNat (n % 64 + 128)] := by
  have h : 16 + 224 ≤ 256 := by decide
  have hcode := (increasing_lead h).continued.continued
  simp only [Nat.div_div_eq_div_mul] at hcode
  exact hcode

theorem increasing_four : Increasing 2097152 fun n =>
    [UInt8.ofNat (n / 262144 % 8 + 240), UInt8.ofNat (n / 4096 % 64 + 128),
      UInt8.ofNat (n / 64 % 64 + 128), UInt8.ofNat (n % 64 + 128)] := by
  have h : 8 + 240 ≤ 256 := by decide
  have hcode := (increasing_lead h).continued.continued.continued
  simp only [Nat.div_div_eq_div_mul] at hcode
  exact hcode

theorem toNat_lt_limit (c : Char) : c.val.toNat < 1114112 := by
  rcases c.valid with h | h
  · have hlow : c.val.toNat < 55296 := h
    omega
  · exact h.2

/-- The UTF-8 form of a lower character is lower, whatever follows. -/
theorem utf8EncodeChar_lt {c d : Char} (h : c < d) (x y : List UInt8) :
    String.utf8EncodeChar c ++ x < String.utf8EncodeChar d ++ y := by
  have hd := toNat_lt_limit d
  have hlt : c.val.toNat < d.val.toNat := h
  unfold String.utf8EncodeChar
  dsimp only
  generalize c.val.toNat = m at hlt ⊢
  generalize d.val.toNat = n at hlt hd ⊢
  have hfirst {a b : Nat} {as bs : List UInt8} (hab : a < b) (hb : b < 256) :
      UInt8.ofNat a :: as ++ x < UInt8.ofNat b :: bs ++ y :=
    List.cons_lt_cons_iff.2 (Or.inl (ofNat_lt_ofNat hab hb))
  -- forms of different lengths differ in the first byte, of the same length by the lemmas above
  split_ifs
  all_goals first | omega | exact hfirst (by omega) (by omega) | skip
  · exact increasing_two m n hlt (by omega) x y
  · exact increasing_three m n hlt (by omega) x y
  · exact increasing_four m n hlt (by omega) x y

theorem flatMap_utf8EncodeChar_lt {cs ds : List Char} (h : cs < ds) :
    cs.flatMap String.utf8EncodeChar < ds.flatMap String.utf8EncodeChar := by
  induction cs generalizing ds with
  | nil =>
    cases ds with
    | nil => exact absurd h (List.lt_irrefl _)
    | cons d ds =>
      obtain ⟨b, bs, hbytes⟩ := List.exists_cons_of_ne_nil (String.utf8EncodeChar_ne_nil (c := d))
      rw [List.flatMap_cons, hbytes]
      exact List.nil_lt_cons _ _
  | cons c cs ih =>
    cases ds with
    | nil => exact absurd h (by simp)
    | cons d ds =>
      rw [List.flatMap_cons, List.flatMap_cons]
      rcases List.cons_lt_cons_iff.1 h with hlt | ⟨rfl, hlt⟩
      · exact utf8EncodeChar_lt hlt _ _
      · exact List.append_left_lt (ih hlt)

theorem utf8Bytes_lt {s t : String} (h : s < t) : utf8Bytes s < utf8Bytes t :=
  flatMap_utf8EncodeChar_lt (String.lt_iff_toList_lt.1 h)

/-- Texts are in the order of their UTF-8 forms. -/
theorem utf8Bytes_lt_iff {s t : String} : utf8Bytes s < utf8Bytes t ↔ s < t := by
  refine ⟨fun h => ?_, utf8Bytes_lt⟩
  rcases lt_trichotomy s t with hlt | rfl | hgt
  · exact hlt
  · exact absurd h (List.lt_irrefl _)
  · exact absurd (List.lt_trans h (utf8Bytes_lt hgt)) (List.lt_irrefl _)

end SearchRetrieve.Text
