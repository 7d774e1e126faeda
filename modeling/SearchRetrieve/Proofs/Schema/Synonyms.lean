import Mathlib.Data.List.Sort
import Mathlib.Data.String.Basic
import SearchRetrieve.Schema.Settings

/-!
# Synonyms and their entries

An assignment puts one entry in the place of its alias and leaves the others, so that assignments to
different aliases may come in any order.
-/
namespace SearchRetrieve.Synonyms

variable {s t : Synonyms} {name : String} {fields : List String} {entry : String × List String}
  {entries : List (String × List String)}

theorem mem_place (h : entries.Pairwise fun a b => a.1 < b.1) :
    entry ∈ place name fields entries ↔
      entry = (name, fields) ∨ (entry ∈ entries ∧ entry.1 ≠ name) := by
  induction entries with
  | nil => simp [place]
  | cons first rest ih =>
    obtain ⟨hfirst, hrest⟩ := List.pairwise_cons.1 h
    have hlater (hname : name ≤ first.1) : entry ∈ rest → entry.1 ≠ name :=
      fun hentry => (lt_of_le_of_lt hname (hfirst entry hentry)).ne'
    unfold place
    split
    · next hlt =>
      have hkeeps : entry ∈ first :: rest → entry.1 ≠ name := fun hentry =>
        (List.mem_cons.1 hentry).elim (fun heq => heq ▸ hlt.ne') (hlater hlt.le)
      rw [List.mem_cons, and_iff_left_of_imp hkeeps]
    · split
      · next heq =>
        have hreplaced : entry ∈ first :: rest ∧ entry.1 ≠ name ↔ entry ∈ rest := by
          constructor
          · rintro ⟨hentry, hne⟩
            exact (List.mem_cons.1 hentry).resolve_left fun hfirst => hne (hfirst ▸ heq.symm)
          · exact fun hentry => ⟨List.mem_cons_of_mem _ hentry, hlater heq.le hentry⟩
        rw [List.mem_cons, hreplaced]
      · next hne =>
        have hkept : entry = first → entry.1 ≠ name := fun heq => heq ▸ Ne.symm hne
        rw [List.mem_cons, ih hrest, List.mem_cons]
        tauto

theorem mem_assign : entry ∈ (s.assign name fields).entries ↔
    entry = (name, fields) ∨ (entry ∈ s.entries ∧ entry.1 ≠ name) :=
  mem_place s.ordered

/-- Synonyms are known by their entries. -/
theorem eq_of_mem_iff (h : ∀ entry, entry ∈ s.entries ↔ entry ∈ t.entries) : s = t := by
  obtain ⟨entries, hs⟩ := s
  obtain ⟨others, ht⟩ := t
  let before (a b : String × List String) : Prop := a.1 < b.1
  have : Std.Irrefl before := ⟨fun a => lt_irrefl a.1⟩
  have : Std.Asymm before := ⟨fun a b hab hba => lt_asymm hab hba⟩
  have hentries : entries = others := List.Pairwise.eq_of_mem_iff (r := before) hs ht h
  subst hentries
  rfl

end SearchRetrieve.Synonyms
