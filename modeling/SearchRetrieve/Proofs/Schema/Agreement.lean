import Mathlib.Data.List.Sort
import SearchRetrieve.Proofs.Schema.Aliases

/-!
# Listed and discovered fields

A schema over a listing of fields and one over the same names found in an index differ in the order
of the fields that are searched anywhere, and in nothing else. Neither the order of the names found
nor that some are found again makes a difference to the second one.
-/
namespace SearchRetrieve.Schema

variable {settings : SchemaSettings} {names others : List String} {index n : String}

theorem sortedNames_perm (h : names.Nodup) : (sortedNames names).Perm names := by
  have hnodup : (sortedNames names).Nodup :=
    (sortedNames_increasing names).imp fun hlt => ne_of_lt hlt
  exact (List.perm_ext_iff_of_nodup hnodup h).2 fun _ => mem_sortedNames

/-- Names in increasing order are known by their set. -/
theorem sortedNames_eq_of_mem_iff (h : ∀ n, n ∈ names ↔ n ∈ others) :
    sortedNames names = sortedNames others :=
  List.Pairwise.eq_of_mem_iff (sortedNames_increasing names) (sortedNames_increasing others)
    fun n => by rw [mem_sortedNames, mem_sortedNames, h]

/-- Of two schemas that differ in the fields searched anywhere, with some for both or for none, an
index resolves to the same fields or to these. -/
theorem resolve_withAnywhereFields (s : Schema) (h : names = [] ↔ s.anywhereFields = []) :
    { s with anywhereFields := names }.resolve index = s.resolve index ∨
      ({ s with anywhereFields := names }.resolve index = names ∧
        s.resolve index = s.anywhereFields) := by
  have hempty : names.isEmpty = s.anywhereFields.isEmpty := by
    rw [Bool.eq_iff_iff, List.isEmpty_iff, List.isEmpty_iff, h]
  unfold resolve isAnywhereAlias
  dsimp only
  rw [hempty]
  split
  · exact .inl rfl
  · split
    · exact .inr ⟨rfl, rfl⟩
    · exact .inl rfl

/-- A schema over names found in an index and one that lists the same names have the same suffixes,
so that they agree on all names of variants, and the same anywhere aliases. The first one searches
the fields of the second one anywhere, in the order of their bytes, and an index resolves to the
same fields for both or to these. Only the set of the names found counts, and the set of the fields
listed depends on nothing else. -/
theorem discover_agrees (settings : SchemaSettings) (names : List String) :
    let found := discover settings names
    let listed := ofSettings { settings with fields := names }
    found.suffixes = listed.suffixes ∧
    (∀ v, found.suffix? v = listed.suffix? v) ∧
    (∀ n v, found.variantName n v = listed.variantName n v) ∧
    (∀ n, found.base n = listed.base n) ∧
    (∀ n, found.variant? n = listed.variant? n) ∧
    (∀ index, found.isAnywhereAlias index = listed.isAnywhereAlias index) ∧
    found.anywhereFields.Perm listed.anywhereFields ∧
    found.anywhereFields.Pairwise (fun a b => Text.utf8Bytes a < Text.utf8Bytes b) ∧
    (∀ index, found.resolve index = listed.resolve index ∨
      (found.resolve index = found.anywhereFields ∧
        listed.resolve index = listed.anywhereFields)) ∧
    ∀ others : List String, (∀ n, n ∈ others ↔ n ∈ names) →
      discover settings others = found ∧
      ∀ n, n ∈ (ofSettings { settings with fields := others }).anywhereFields ↔
        n ∈ listed.anywhereFields := by
  intro found listed
  have hfound : found = { listed with anywhereFields := sortedNames listed.anywhereFields } := rfl
  have hempty : sortedNames listed.anywhereFields = [] ↔ listed.anywhereFields = [] := by
    simp only [List.eq_nil_iff_forall_not_mem, mem_sortedNames]
  refine ⟨rfl, fun _ => rfl, fun _ _ => rfl, fun _ => rfl, fun _ => rfl, fun _ => rfl,
    sortedNames_perm (baseNames_nodup _ _), discover_increasing settings names, fun index => ?_,
    fun others hothers => ?_⟩
  · rw [hfound]
    exact resolve_withAnywhereFields listed hempty
  · have hkept (n : String) : n ∈ baseNames found.suffixes others ↔
        n ∈ baseNames found.suffixes names := by
      rw [mem_baseNames, mem_baseNames, hothers]
    refine ⟨?_, fun n => ?_⟩
    · have hsorted := sortedNames_eq_of_mem_iff hkept
      simp only [discover, found] at hsorted ⊢
      rw [hsorted]
    · exact hkept n

/-- A listing with one name twice. Found in another order, and without the repetition, its names
make the schema that they make as they are listed. -/
theorem discover_agrees_title :
    let names := ["title", "author", "title.exact", "title"]
    let listed := ofSettings { SchemaSettings.standard with fields := names }
    let found := discover .standard ["title.exact", "author", "title"]
    listed.resolve "cql.anywhere" = ["title", "author"] ∧
      found.resolve "cql.anywhere" = ["author", "title"] ∧
      found.anywhereFields.Perm listed.anywhereFields := by
  intro names listed found
  have hnames (n : String) : n ∈ ["title.exact", "author", "title"] ↔ n ∈ names := by
    simp only [names, List.mem_cons, List.not_mem_nil, or_false]
    tauto
  obtain ⟨-, -, -, -, -, -, hperm, -, -, hset⟩ := discover_agrees .standard names
  have hfound : found = discover .standard names := (hset _ hnames).1
  refine ⟨by decide, by decide, ?_⟩
  rw [hfound]
  exact hperm

end SearchRetrieve.Schema
