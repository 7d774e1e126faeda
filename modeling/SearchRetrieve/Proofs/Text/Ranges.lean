import SearchRetrieve.Text.Ranges

/-!
# What a table of ranges covers

In a table that increases the search by halving finds the last entry that starts at or before a
code point, and so a character is covered exactly if one of the ranges is around it.
-/
namespace SearchRetrieve.Text

/-- Every range of the table is one, and the next begins after it. -/
structure Ranges.Ordered (ranges : Ranges) : Prop where
  proper : ∀ p ∈ ranges.toList, p.1 ≤ p.2
  apart : ranges.toList.Pairwise fun p q => p.2 < q.1

variable {table : Array (Nat × Nat)} {ranges : Ranges} {n lo hi i j : Nat} {p q : Nat × Nat}
variable {c : Char}

/-- What is found stands between the bounds and starts at or before the number. -/
theorem lastStart_eq_some (h : lastStart table n lo hi = some p) :
    ∃ i, lo ≤ i ∧ i < hi ∧ table[i]? = some p ∧ p.1 ≤ n := by
  fun_induction lastStart table n lo hi with
  | case1 lo hi hlt mid houtside => simp at h
  | case2 lo hi hlt mid entry hentry hbefore ih =>
    obtain ⟨i, hlo, hi, hfound⟩ := ih h
    exact ⟨i, hlo, by omega, hfound⟩
  | case3 lo hi hlt mid entry hentry hbefore ih =>
    rcases Option.or_eq_some_iff.1 h with hlater | ⟨-, hhere⟩
    · obtain ⟨i, hlo, hfound⟩ := ih hlater
      exact ⟨i, by omega, hfound⟩
    · obtain rfl := Option.some.inj hhere
      exact ⟨mid, by omega, by omega, hentry, by omega⟩
  | case4 => simp at h

/-- A place up to which the entries start at or before the number, and no later one does, is the
place of the entry found. -/
theorem lastStart_eq_getElem? (hstarts : ∀ j q, j ≤ i → table[j]? = some q → q.1 ≤ n)
    (hlater : ∀ j q, i < j → table[j]? = some q → n < q.1) (hsize : hi ≤ table.size)
    (hlo : lo ≤ i) (hhi : i < hi) : lastStart table n lo hi = table[i]? := by
  fun_induction lastStart table n lo hi with
  | case1 lo hi hlt mid houtside =>
    rw [Array.getElem?_eq_none_iff] at houtside
    omega
  | case2 lo hi hlt mid entry hentry hbefore ih =>
    have hleft : i < mid := Nat.lt_of_not_le fun hmid => by
      have := hstarts mid entry hmid hentry
      omega
    exact ih (by omega) hlo hleft
  | case3 lo hi hlt mid entry hentry hbefore ih =>
    have hright : mid ≤ i := Nat.le_of_not_lt fun hmid => hbefore (hlater mid entry hmid hentry)
    rcases Nat.lt_or_eq_of_le hright with hafter | hhere
    · have hi : i < table.size := Nat.lt_of_lt_of_le hhi hsize
      rw [ih hsize hafter hhi, Array.getElem?_eq_getElem hi, Option.some_or]
    · cases hfound : lastStart table n (mid + 1) hi with
      | none => rw [Option.none_or, ← hentry, hhere]
      | some q =>
        obtain ⟨j, hj, -, hq, hstart⟩ := lastStart_eq_some hfound
        have := hlater j q (by omega) hq
        omega
  | case4 => omega

namespace Ranges

theorem Ordered.apart_of_lt (h : ranges.Ordered) (hij : i < j) (hp : ranges[i]? = some p)
    (hq : ranges[j]? = some q) : p.2 < q.1 := by
  rw [← Array.getElem?_toList, List.getElem?_eq_some_iff] at hp hq
  obtain ⟨hi, rfl⟩ := hp
  obtain ⟨hj, rfl⟩ := hq
  exact List.pairwise_iff_getElem.1 h.apart i j hi hj hij

theorem Ordered.start_le (h : ranges.Ordered) (hij : i ≤ j) (hp : ranges[i]? = some p)
    (hq : ranges[j]? = some q) : p.1 ≤ q.1 := by
  rcases Nat.lt_or_eq_of_le hij with hlt | rfl
  · have hmem : p ∈ ranges.toList := by simpa using Array.mem_of_getElem? hp
    exact Nat.le_trans (h.proper p hmem) (Nat.le_of_lt (h.apart_of_lt hlt hp hq))
  · exact Nat.le_of_eq (congrArg Prod.fst (Option.some.inj (hp.symm.trans hq)))

/-- A character is covered exactly if there is a range around it. -/
theorem Ordered.covers_iff (h : ranges.Ordered) :
    ranges.covers c = true ↔ ∃ p ∈ ranges.toList, p.1 ≤ c.toNat ∧ c.toNat ≤ p.2 := by
  constructor
  · intro hcovers
    unfold covers at hcovers
    split at hcovers
    · next p hfound =>
      obtain ⟨i, -, -, hp, hstart⟩ := lastStart_eq_some hfound
      exact ⟨p, by simpa using Array.mem_of_getElem? hp, hstart, by simpa using hcovers⟩
    · simp at hcovers
  · rintro ⟨p, hp, hstart, hend⟩
    obtain ⟨i, hp⟩ := List.getElem?_of_mem hp
    rw [Array.getElem?_toList] at hp
    obtain ⟨hi, -⟩ := Array.getElem?_eq_some_iff.1 hp
    have hfound : lastStart ranges c.toNat 0 ranges.size = ranges[i]? := by
      refine lastStart_eq_getElem? (fun j q hij hq => ?_) (fun j q hij hq => ?_)
        (Nat.le_refl _) (Nat.zero_le i) hi
      · exact Nat.le_trans (h.start_le hij hq hp) hstart
      · exact Nat.lt_of_le_of_lt hend (h.apart_of_lt hij hp hq)
    simp [covers, hfound, hp, hend]

def increasing : Nat → List (Nat × Nat) → Bool
  | _, [] => true
  | bound, p :: ps => bound.ble p.1 && p.1.ble p.2 && increasing (p.2 + 1) ps

theorem le_of_increasing {ps : List (Nat × Nat)} (h : increasing n ps = true) :
    ∀ p ∈ ps, n ≤ p.1 := by
  induction ps generalizing n with
  | nil => simp
  | cons q ps ih =>
    simp only [increasing, Bool.and_eq_true, Nat.ble_eq] at h
    intro p hp
    rcases List.mem_cons.1 hp with rfl | hp
    · exact h.1.1
    · have := ih h.2 p hp
      omega

theorem ordered_of_increasing (h : increasing n ranges.toList = true) : ranges.Ordered := by
  suffices hlist : ∀ ps, increasing n ps = true →
      (∀ p ∈ ps, p.1 ≤ p.2) ∧ ps.Pairwise fun p q => p.2 < q.1 from
    ⟨(hlist _ h).1, (hlist _ h).2⟩
  clear h
  intro ps h
  induction ps generalizing n with
  | nil => exact ⟨by simp, List.Pairwise.nil⟩
  | cons q ps ih =>
    simp only [increasing, Bool.and_eq_true, Nat.ble_eq] at h
    obtain ⟨hproper, hapart⟩ := ih h.2
    exact ⟨List.forall_mem_cons.2 ⟨h.1.2, hproper⟩,
      List.pairwise_cons.2 ⟨fun p hp => le_of_increasing h.2 p hp, hapart⟩⟩

end Ranges

end SearchRetrieve.Text
