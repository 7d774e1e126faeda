import SearchRetrieve.Proofs.Schema.Catalogue
import SearchRetrieve.Proofs.Sort.Order

/-!
# Sorting without presence variants

Two lists of fields put all rows into the same order exactly if they agree on the first field of
every name. Where presence is disabled its variant is the field itself, so that a key with missing
values at the end sorts by the text of the field, against its direction, before it comes to the sort
variant.
-/
namespace SearchRetrieve

namespace SortField

variable {f g : SortField} {fs gs : List SortField} {a a' b b' : SortRow} {name : String}

/-- The first field of every name. Where a later one is looked at it finds no difference. -/
def leading : List SortField → List SortField
  | [] => []
  | f :: fs => f :: (leading fs).filter fun g => g.field ≠ f.field

theorem compare_eq_eq_iff : f.compare a b = .eq ↔ a f.field = b f.field := by
  unfold compare
  split
  · rw [Std.LawfulEqOrd.compare_eq_iff_eq, eq_comm]
  · exact Std.LawfulEqOrd.compare_eq_iff_eq

theorem compareAll_cons (f : SortField) (fs : List SortField) (a b : SortRow) :
    compareAll (f :: fs) a b = (f.compare a b).then (compareAll fs a b) := rfl

theorem compareAll_congr
    (h : ∀ f ∈ fs, a f.field = a' f.field ∧ b f.field = b' f.field) :
    compareAll fs a b = compareAll fs a' b' := by
  have hfields : fs.map (fun f => f.compare a b) = fs.map fun f => f.compare a' b' := by
    apply List.map_congr_left
    intro f hf
    obtain ⟨ha, hb⟩ := h f hf
    simp only [compare, ha, hb]
  rw [compareAll, hfields, compareAll]

theorem compareAll_filter (h : a name = b name) :
    compareAll (fs.filter fun g => g.field ≠ name) a b = compareAll fs a b := by
  induction fs with
  | nil => rfl
  | cons f fs ih =>
    by_cases hf : f.field = name
    · have heven : f.compare a b = .eq := compare_eq_eq_iff.2 (by rw [hf, h])
      rw [List.filter_cons_of_neg (by simpa using hf), ih, compareAll_cons, heven]
      rfl
    · rw [List.filter_cons_of_pos (by simpa using hf), compareAll_cons, ih, compareAll_cons]

theorem compareAll_leading (fs : List SortField) (a b : SortRow) :
    compareAll (leading fs) a b = compareAll fs a b := by
  induction fs with
  | nil => rfl
  | cons f fs ih =>
    rw [leading, compareAll_cons, compareAll_cons]
    by_cases heven : f.compare a b = .eq
    · rw [compareAll_filter (compare_eq_eq_iff.1 heven), ih]
    · cases hf : f.compare a b with
      | eq => exact (heven hf).elim
      | lt => rfl
      | gt => rfl

theorem leading_nodup (fs : List SortField) : ((leading fs).map field).Nodup := by
  induction fs with
  | nil => exact List.nodup_nil
  | cons f fs ih =>
    rw [leading, List.map_cons, List.nodup_cons]
    constructor
    · intro hmem
      obtain ⟨g, hg, hname⟩ := List.mem_map.1 hmem
      simpa [hname] using (List.mem_filter.1 hg).2
    · exact ih.sublist (List.filter_sublist.map field)

theorem mem_leading_names : name ∈ (leading fs).map field ↔ name ∈ fs.map field := by
  induction fs with
  | nil => rfl
  | cons f fs ih =>
    by_cases hname : name = f.field
    · simp [leading, hname]
    · have hkept : name ∈ ((leading fs).filter fun g => g.field ≠ f.field).map field ↔
          name ∈ (leading fs).map field := by
        simp only [List.mem_map, List.mem_filter]
        constructor
        · rintro ⟨g, ⟨hg, -⟩, hfield⟩
          exact ⟨g, hg, hfield⟩
        · rintro ⟨g, hg, rfl⟩
          exact ⟨g, ⟨hg, by simpa using hname⟩, rfl⟩
      rw [leading, List.map_cons, List.map_cons, List.mem_cons, List.mem_cons, hkept, ih]

theorem compare_zero_one : Ord.compare "0" "1" = .lt ∧ Ord.compare "1" "0" = .gt := by decide

theorem compare_constant (f : SortField) :
    f.compare (fun _ => "0") (fun _ => "1") = if f.descending then .gt else .lt := by
  cases h : f.descending <;> simp [compare, h, compare_zero_one]

theorem exists_rows (hne : f.field ≠ g.field) :
    ∃ a b : SortRow, f.compare a b = .lt ∧ g.compare a b = .gt := by
  refine ⟨fun name => if name = f.field then (if f.descending then "1" else "0")
      else if g.descending then "0" else "1",
    fun name => if name = f.field then (if f.descending then "0" else "1")
      else if g.descending then "1" else "0", ?_, ?_⟩
  · cases h : f.descending <;> simp [compare, h, compare_zero_one]
  · cases h : g.descending <;> simp [compare, h, hne.symm, compare_zero_one]

theorem then_of_ne_eq {o o' : Ordering} (h : o ≠ .eq) : o.then o' = o := by
  cases o <;> simp_all

theorem head_eq_of_compareAll
    (h : ∀ a b, compareAll (f :: fs) a b = compareAll (g :: gs) a b) : f = g := by
  simp only [compareAll_cons] at h
  have hfield : f.field = g.field := by
    by_contra hne
    obtain ⟨a, b, hlt, hgt⟩ := exists_rows hne
    have horder := h a b
    rw [hlt, hgt] at horder
    exact absurd horder nofun
  have hdirection := h (fun _ => "0") (fun _ => "1")
  have hdecided (f : SortField) : (if f.descending then Ordering.gt else .lt) ≠ .eq := by
    split <;> nofun
  rw [compare_constant, compare_constant, then_of_ne_eq (hdecided f),
    then_of_ne_eq (hdecided g)] at hdirection
  have hdescending : f.descending = g.descending := by
    cases hf : f.descending <;> cases hg : g.descending <;> simp_all
  cases f
  cases g
  simp_all

theorem tail_eq_of_compareAll (hfs : f.field ∉ fs.map field) (hgs : f.field ∉ gs.map field)
    (h : ∀ a b, compareAll (f :: fs) a b = compareAll (f :: gs) a b) (a b : SortRow) :
    compareAll fs a b = compareAll gs a b := by
  let b' : SortRow := Function.update b f.field (a f.field)
  have heven : f.compare a b' = .eq := compare_eq_eq_iff.2 (by simp [b'])
  have hrest {fs : List SortField} (hfs : f.field ∉ fs.map field) :
      compareAll fs a b = compareAll (f :: fs) a b' := by
    rw [compareAll_cons, heven]
    refine compareAll_congr fun g hg => ⟨rfl, ?_⟩
    have hne : g.field ≠ f.field := fun heq => hfs (heq ▸ List.mem_map_of_mem hg)
    simp [b', hne]
  rw [hrest hfs, hrest hgs, h a b']

theorem eq_of_compareAll (hfs : (fs.map field).Nodup) (hgs : (gs.map field).Nodup)
    (h : ∀ a b, compareAll fs a b = compareAll gs a b) : fs = gs := by
  have hnil (f : SortField) (fs : List SortField) :
      compareAll (f :: fs) (fun _ => "0") (fun _ => "1") ≠ .eq := by
    rw [compareAll_cons, compare_constant]
    split <;> nofun
  induction fs generalizing gs with
  | nil =>
    cases gs with
    | nil => rfl
    | cons g gs => exact (hnil g gs (h _ _).symm).elim
  | cons f fs ih =>
    cases gs with
    | nil => exact (hnil f fs (h _ _)).elim
    | cons g gs =>
      obtain rfl := head_eq_of_compareAll h
      rw [List.map_cons, List.nodup_cons] at hfs hgs
      rw [ih hfs.2 hgs.2 (tail_eq_of_compareAll hfs.1 hgs.1 h)]

theorem compareAll_eq_iff :
    (∀ a b, compareAll fs a b = compareAll gs a b) ↔ leading fs = leading gs := by
  constructor
  · intro h
    refine eq_of_compareAll (leading_nodup fs) (leading_nodup gs) fun a b => ?_
    rw [compareAll_leading, compareAll_leading, h a b]
  · intro h a b
    rw [← compareAll_leading fs, h, compareAll_leading]

end SortField

namespace SortKey

def compareValues (schema : Schema) (keys : List SortKey) (a b : SortRow) : Ordering :=
  decided (keys.flatMap fun k => (schema.resolve k.path).map fun base =>
    k.compareText (a (schema.variantName base .sort)) (b (schema.variantName base .sort)))

def valueFields (schema : Schema) (keys : List SortKey) : List SortField :=
  keys.flatMap fun k =>
    (schema.resolve k.path).map fun base => ⟨schema.variantName base .sort, !k.ascending⟩

variable {schema : Schema} {keys : List SortKey}

theorem compareAll_valueFields (schema : Schema) (keys : List SortKey) (a b : SortRow) :
    SortField.compareAll (valueFields schema keys) a b = compareValues schema keys a b := by
  have hfield (k : SortKey) (base : String) :
      SortField.compare ⟨schema.variantName base .sort, !k.ascending⟩ a b =
        k.compareText (a (schema.variantName base .sort)) (b (schema.variantName base .sort)) := by
    cases h : k.ascending <;> simp [SortField.compare, compareText, h]
  simp only [SortField.compareAll, valueFields, compareValues, List.map_flatMap, List.map_map,
    Function.comp_def, hfield]

/-- The orders are the same exactly if the flags and the values come down to the same fields. -/
theorem fields_order_values_iff_leading (schema : Schema) (keys : List SortKey) :
    (∀ a b, SortField.compareAll (fields schema keys) a b = compareValues schema keys a b) ↔
      SortField.leading (fields schema keys) = SortField.leading (valueFields schema keys) := by
  simp only [← compareAll_valueFields]
  exact SortField.compareAll_eq_iff

theorem fields_eq_valueFields
    (h : ∀ k ∈ keys, k.missingValue = .highValue → schema.resolve k.path = []) :
    fields schema keys = valueFields schema keys := by
  have hkey : ∀ k ∈ keys, (schema.resolve k.path).flatMap (fieldsOf schema k) =
      (schema.resolve k.path).map fun base => ⟨schema.variantName base .sort, !k.ascending⟩ := by
    intro k hk
    by_cases hhigh : k.missingValue = .highValue
    · rw [h k hk hhigh]
      rfl
    · have hvalue : fieldsOf schema k =
          fun base => [⟨schema.variantName base .sort, !k.ascending⟩] :=
        funext fun base => by simp [fieldsOf, hhigh]
      rw [hvalue, List.map_eq_flatMap]
  rw [fields, valueFields, List.flatMap_congr hkey]

section Disabled

variable (hpresent : schema.suffix? .present = none) (hsort : (schema.suffix? .sort).isSome)

include hpresent hsort

/-- In the place of a flag there is the field itself, which is no sort variant. -/
theorem leading_ne_of_flag
    (hbare : ∀ k ∈ keys, ∀ base ∈ schema.resolve k.path,
      base ≠ "" ∧ schema.variant? base = none)
    {k : SortKey} (hk : k ∈ keys) (hhigh : k.missingValue = .highValue)
    (hresolve : schema.resolve k.path ≠ []) :
    SortField.leading (fields schema keys) ≠ SortField.leading (valueFields schema keys) := by
  intro heq
  obtain ⟨base, hbase⟩ := List.exists_mem_of_ne_nil _ hresolve
  obtain ⟨-, hbasebare⟩ := hbare k hk base hbase
  have hflag : base ∈ (fields schema keys).map SortField.field := by
    have hname : schema.variantName base .present = base :=
      SuffixTable.rename_of_disabled hbasebare hpresent
    have hfield : ⟨base, k.ascending⟩ ∈ fieldsOf schema k base := by
      simp [fieldsOf, hhigh, hname]
    refine List.mem_map.2 ⟨⟨base, k.ascending⟩, ?_, rfl⟩
    exact List.mem_flatMap.2 ⟨k, hk, List.mem_flatMap.2 ⟨base, hbase, hfield⟩⟩
  rw [← SortField.mem_leading_names, heq, SortField.mem_leading_names] at hflag
  obtain ⟨f, hf, hname⟩ := List.mem_map.1 hflag
  obtain ⟨other, hother, hf⟩ := List.mem_flatMap.1 hf
  obtain ⟨field, hfield, rfl⟩ := List.mem_map.1 hf
  have hvariant : (schema.variant? (schema.variantName field .sort)).isSome :=
    SuffixTable.variant?_rename_isSome (hbare other hother field hfield).1 hsort
  have hsame : schema.variantName field .sort = base := hname
  rw [hsame, hbasebare] at hvariant
  exact absurd hvariant (by simp)

/-- Where presence is disabled, rows come in the order of the values alone exactly if nothing of the
flags is left among the first fields of every name. For keys over the names of fields it is so
exactly if none of them has its missing values at the end. -/
theorem fields_order_values_iff (keys : List SortKey) :
    ((∀ a b, SortField.compareAll (fields schema keys) a b = compareValues schema keys a b) ↔
      SortField.leading (fields schema keys) = SortField.leading (valueFields schema keys)) ∧
    ((∀ k ∈ keys, ∀ base ∈ schema.resolve k.path, base ≠ "" ∧ schema.variant? base = none) →
      ((∀ a b, SortField.compareAll (fields schema keys) a b = compareValues schema keys a b) ↔
        ∀ k ∈ keys, k.missingValue = .highValue → schema.resolve k.path = [])) := by
  refine ⟨fields_order_values_iff_leading schema keys, fun hbare => ?_⟩
  rw [fields_order_values_iff_leading]
  constructor
  · intro heq k hk hhigh
    by_contra hresolve
    exact leading_ne_of_flag hpresent hsort hbare hk hhigh hresolve heq
  · intro hkeys
    rw [fields_eq_valueFields hkeys]

end Disabled

/-- With an empty presence suffix: by titles with the missing ones in front rows are in order, by
titles with the missing ones at the end they are not. -/
theorem fields_order_values_iff_title :
    let schema := Schema.ofSettings { SchemaSettings.standard with
      suffixes := { Suffixes.standard with present := some "" } }
    let low : SortKey := { ofPath "title" with missingValue := .lowValue }
    (∀ a b, SortField.compareAll (fields schema [low]) a b = compareValues schema [low] a b) ∧
      ¬ ∀ a b, SortField.compareAll (fields schema [ofPath "title"]) a b =
        compareValues schema [ofPath "title"] a b := by
  intro schema low
  have hpresent : schema.suffix? .present = none := by decide
  have hsort : (schema.suffix? .sort).isSome := by decide
  have htitle : schema.resolve "title" = ["title"] := by decide +kernel
  have hbare (k : SortKey) (hk : k.path = "title") :
      ∀ key ∈ [k], ∀ base ∈ schema.resolve key.path, base ≠ "" ∧ schema.variant? base = none := by
    have hvariant : schema.variant? "title" = none := by decide
    simp [hk, htitle, hvariant]
  constructor
  · refine ((fields_order_values_iff hpresent hsort [low]).2 (hbare low rfl)).2 ?_
    simp [low]
  · rw [(fields_order_values_iff hpresent hsort [ofPath "title"]).2 (hbare _ rfl)]
    simp [ofPath, htitle]

/-- An ascending key puts the pear in front of the apple. -/
theorem fields_reverse_values :
    let schema := Schema.ofSettings { SchemaSettings.standard with
      suffixes := { Suffixes.standard with present := none } }
    let row (title : String) : SortRow := fun _ => title
    schema.suffix? .present = none ∧ (schema.suffix? .sort).isSome ∧
      SortField.compareAll (fields schema [ofPath "title"]) (row "apple") (row "pear") = .gt ∧
      compareValues schema [ofPath "title"] (row "apple") (row "pear") = .lt := by
  decide +kernel

end SortKey

end SearchRetrieve
