import SearchRetrieve.Proofs.Schema.Naming
import SearchRetrieve.Proofs.Text.ByteOrder

/-!
# Names found in an index

From the names that an index holds a schema takes those without a suffix, each once and in the
order of their bytes. A name made for a variant is left out, also where one suffix ends with
another; only a disabled variant has the name of the field itself.
-/
namespace SearchRetrieve

namespace SuffixTable

variable {table : SuffixTable} {name : String} {v : Variant}

/-- What is made for an enabled variant is the name of some variant; which one may differ if
suffixes overlap. -/
theorem variant?_rename_isSome (hname : name ≠ "") (hv : (table.suffix? v).isSome) :
    (table.variant? (table.rename v name)).isSome := by
  obtain ⟨suffix, hsuffix⟩ := Option.isSome_iff_exists.1 hv
  have hmarks : marks suffix (table.rename v name) = true := by
    rw [rename_of_suffix? hsuffix]
    exact marks_append (base_ne_empty hname)
  rw [variant?, Option.isSome_map, Option.isSome_iff_ne_none]
  intro hnone
  have hunmarked := matching?_eq_none.1 hnone (v, suffix) (suffix?_mem hsuffix)
  rw [hmarks] at hunmarked
  exact Bool.noConfusion hunmarked

/-- Of the names made from a bare one, those of the disabled variants are bare. -/
theorem variant?_rename_eq_none_iff (hname : name ≠ "") (hbare : table.variant? name = none) :
    table.variant? (table.rename v name) = none ↔ table.suffix? v = none := by
  constructor
  · intro h
    by_contra hv
    have hvariant := variant?_rename_isSome hname (Option.isSome_iff_ne_none.2 hv)
    simp [h] at hvariant
  · intro hv
    rw [rename_of_disabled hbare hv]
    exact hbare

/-- From a bare name nothing but the name itself is bare. -/
theorem rename_eq_self_of_bare (hname : name ≠ "") (hbare : table.variant? name = none)
    (h : table.variant? (table.rename v name) = none) : table.rename v name = name :=
  rename_of_disabled hbare ((variant?_rename_eq_none_iff hname hbare).1 h)

theorem rename_eq_self_iff (hname : name ≠ "") (hbare : table.variant? name = none) :
    table.rename v name = name ↔ table.suffix? v = none := by
  constructor
  · intro h
    rw [← variant?_rename_eq_none_iff hname hbare, h]
    exact hbare
  · exact rename_of_disabled hbare

end SuffixTable

namespace Schema

variable {n name : String} {names catalogue : List String}

theorem mem_insertName : n ∈ insertName name names ↔ n = name ∨ n ∈ names := by
  induction names with
  | nil => simp [insertName]
  | cons first rest ih =>
    unfold insertName
    split
    · exact List.mem_cons
    · split
      · next heq =>
        subst heq
        simp
      · simp only [List.mem_cons, ih]
        tauto

theorem insertName_increasing (h : names.Pairwise (· < ·)) :
    (insertName name names).Pairwise (· < ·) := by
  induction names with
  | nil => simp [insertName]
  | cons first rest ih =>
    obtain ⟨hfirst, hrest⟩ := List.pairwise_cons.1 h
    unfold insertName
    split
    · next hlt =>
      refine List.pairwise_cons.2 ⟨fun other hother => ?_, h⟩
      rcases List.mem_cons.1 hother with rfl | hother
      · exact hlt
      · exact hlt.trans (hfirst other hother)
    · next hge =>
      split
      · exact h
      · next hne =>
        refine List.pairwise_cons.2 ⟨fun other hother => ?_, ih hrest⟩
        rcases mem_insertName.1 hother with rfl | hother
        · exact lt_of_le_of_ne (not_lt.1 hge) (Ne.symm hne)
        · exact hfirst other hother

theorem mem_sortedNames : n ∈ sortedNames names ↔ n ∈ names := by
  induction names with
  | nil => rfl
  | cons first rest ih =>
    change n ∈ insertName first (sortedNames rest) ↔ _
    rw [mem_insertName, ih, List.mem_cons]

theorem sortedNames_increasing (names : List String) : (sortedNames names).Pairwise (· < ·) := by
  induction names with
  | nil => exact List.Pairwise.nil
  | cons first rest ih => exact insertName_increasing ih

theorem eraseDups_nodup (names : List String) : names.eraseDups.Nodup := by
  induction hlength : names.length using Nat.strong_induction_on generalizing names with
  | _ n ih =>
    cases names with
    | nil => exact List.nodup_nil
    | cons first rest =>
      let others := rest.filter fun name => !name == first
      have hshorter : others.length < n := by
        rw [← hlength]
        exact Nat.lt_succ_of_le (List.length_filter_le _ rest)
      have hfirst : first ∉ others.eraseDups := by simp [others]
      rw [List.eraseDups_cons]
      exact List.nodup_cons.2 ⟨hfirst, ih _ hshorter others rfl⟩

theorem baseNames_nodup (table : SuffixTable) (names : List String) :
    (baseNames table names).Nodup :=
  eraseDups_nodup _

theorem mem_baseNames {table : SuffixTable} :
    n ∈ baseNames table names ↔ n ∈ names ∧ table.variant? n = none := by
  simp [baseNames]

/-- The fields of a discovered schema are the names in the index that carry no suffix. -/
theorem mem_discover {settings : SchemaSettings} :
    n ∈ (discover settings catalogue).anywhereFields ↔
      n ∈ catalogue ∧ (ofSettings settings).variant? n = none :=
  mem_sortedNames.trans mem_baseNames

theorem discover_increasing (settings : SchemaSettings) (catalogue : List String) :
    (discover settings catalogue).anywhereFields.Pairwise
      fun a b => Text.utf8Bytes a < Text.utf8Bytes b :=
  (sortedNames_increasing _).imp Text.utf8Bytes_lt

end Schema

end SearchRetrieve
