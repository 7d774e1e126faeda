import SearchRetrieve.Proofs.Schema.Naming
import SearchRetrieve.Sort.Field

/-!
# The order of sort fields

An engine compares records field by field and knows nothing of missing values. By the sort fields of
some keys it puts records into the order that the keys ask for: the presence variant, which runs
against the direction of its key, moves records without a value behind or in front of the others.
-/
namespace SearchRetrieve

/-- The first of several comparisons that is not even. -/
def decided (os : List Ordering) : Ordering := os.foldr Ordering.then .eq

section Decided

variable {α : Type} {os later : List Ordering}

theorem decided_append : decided (os ++ later) = (decided os).then (decided later) := by
  induction os with
  | nil => rfl
  | cons o os ih =>
    change o.then (decided (os ++ later)) = _
    rw [ih, ← Ordering.then_assoc]
    rfl

theorem decided_flatMap (xs : List α) (f : α → List Ordering) :
    decided (xs.flatMap f) = decided (xs.map fun x => decided (f x)) := by
  induction xs with
  | nil => rfl
  | cons x xs ih =>
    rw [List.flatMap_cons, decided_append, ih]
    rfl

theorem decided_swap : (decided os).swap = decided (os.map Ordering.swap) := by
  induction os with
  | nil => rfl
  | cons o os ih =>
    change (o.then (decided os)).swap = _
    rw [Ordering.swap_then, ih]
    rfl

end Decided

/-- What an engine sorts: a text for every physical field. -/
abbrev SortRow := String → String

namespace SortRow

variable {schema : Schema}

def value? (schema : Schema) (row : SortRow) (base : String) : Option String :=
  if row (schema.variantName base .present) = "1" then some (row (schema.variantName base .sort))
  else none

/-- The presence of every field is noted, and a missing one has nothing to sort by. -/
structure Consistent (schema : Schema) (row : SortRow) : Prop where
  flag : ∀ base, base ≠ "" →
    row (schema.variantName base .present) = "1" ∨ row (schema.variantName base .present) = "0"
  missing : ∀ base, base ≠ "" → row (schema.variantName base .present) = "0" →
    row (schema.variantName base .sort) = ""

def ofValues (schema : Schema) (values : String → Option String) : SortRow := fun name =>
  match schema.variant? name with
  | some .present => if (values (schema.base name)).isSome then "1" else "0"
  | some .sort => (values (schema.base name)).getD ""
  | _ => ""

section OfValues

variable (hseparate : schema.suffixes.Separate) (values : String → Option String)
  {base : String} (hbase : base ≠ "")

include hseparate hbase

theorem ofValues_variantName {v : Variant} (hv : (schema.suffix? v).isSome) :
    ofValues schema values (schema.variantName base v) =
      match v with
      | .present => if (values (schema.base base)).isSome then "1" else "0"
      | .sort => (values (schema.base base)).getD ""
      | _ => "" := by
  have hvariant : schema.variant? (schema.variantName base v) = some v :=
    SuffixTable.variant?_rename hseparate hbase hv
  have hname : schema.base (schema.variantName base v) = schema.base base :=
    SuffixTable.base_rename hseparate hbase hv
  cases v <;> simp only [ofValues, hvariant, hname]

theorem ofValues_present (hpresent : (schema.suffix? .present).isSome) :
    ofValues schema values (schema.variantName base .present) =
      if (values (schema.base base)).isSome then "1" else "0" :=
  ofValues_variantName hseparate values hbase hpresent

theorem ofValues_sort (hsort : (schema.suffix? .sort).isSome) :
    ofValues schema values (schema.variantName base .sort) =
      (values (schema.base base)).getD "" :=
  ofValues_variantName hseparate values hbase hsort

end OfValues

section Values

variable (hpresent : (schema.suffix? .present).isSome) (hsort : (schema.suffix? .sort).isSome)
  (hseparate : schema.suffixes.Separate) (values : String → Option String)

include hpresent hsort hseparate

/-- Any values can be held by a row. -/
theorem ofValues_consistent : (ofValues schema values).Consistent schema where
  flag base hbase := by
    rw [ofValues_present hseparate values hbase hpresent]
    split <;> simp
  missing base hbase := by
    rw [ofValues_present hseparate values hbase hpresent,
      ofValues_sort hseparate values hbase hsort]
    cases values (schema.base base) <;> simp

theorem value?_ofValues {base : String} (hbase : base ≠ "") (hbare : schema.variant? base = none) :
    (ofValues schema values).value? schema base = values base := by
  have hname : schema.base base = base := SuffixTable.base_of_variant?_eq_none hbare
  rw [value?, ofValues_present hseparate values hbase hpresent,
    ofValues_sort hseparate values hbase hsort, hname]
  cases values base <;> simp

end Values

end SortRow

namespace SortField

/-- How a field orders two rows; texts are in the order of their characters. -/
def compare (f : SortField) (a b : SortRow) : Ordering :=
  if f.descending then Ord.compare (b f.field) (a f.field) else Ord.compare (a f.field) (b f.field)

def reversed (f : SortField) : SortField := { f with descending := !f.descending }

def compareAll (fs : List SortField) (a b : SortRow) : Ordering :=
  decided (fs.map fun f => f.compare a b)

variable {f : SortField} {a b : SortRow}

theorem compare_swap : (f.compare a b).swap = f.compare b a := by
  unfold compare
  split <;> exact Std.OrientedOrd.eq_swap.symm

theorem compare_reversed : f.reversed.compare a b = f.compare b a := by
  cases hdescending : f.descending <;> simp [compare, reversed, hdescending]

theorem compareAll_swap (fs : List SortField) : (compareAll fs a b).swap = compareAll fs b a := by
  simp only [compareAll, decided_swap, List.map_map, Function.comp_def, compare_swap]

theorem compareAll_reversed (fs : List SortField) :
    compareAll (fs.map reversed) a b = compareAll fs b a := by
  simp only [compareAll, List.map_map, Function.comp_def, compare_reversed]

end SortField

namespace SortKey

def reversed (k : SortKey) : SortKey := { k with ascending := !k.ascending }

def compareText (k : SortKey) (a b : String) : Ordering :=
  if k.ascending then Ord.compare a b else Ord.compare b a

/-- How a key orders two rows by a field that it resolves to. If missing values are high, they are
above every value where the key ascends, and below where it descends. -/
def compare (schema : Schema) (k : SortKey) (base : String) (a b : SortRow) : Ordering :=
  if k.missingValue = .highValue then
    match a.value? schema base, b.value? schema base with
    | some x, some y => k.compareText x y
    | some _, none => if k.ascending then .lt else .gt
    | none, some _ => if k.ascending then .gt else .lt
    | none, none => .eq
  else k.compareText (a (schema.variantName base .sort)) (b (schema.variantName base .sort))

def compareAll (schema : Schema) (keys : List SortKey) (a b : SortRow) : Ordering :=
  decided (keys.flatMap fun k =>
    (schema.resolve k.path).map fun base => k.compare schema base a b)

variable {schema : Schema} {k : SortKey} {keys : List SortKey} {base : String} {a b : SortRow}

/-- The fields for one field of a key order consistent rows as the key does. -/
theorem compareAll_fieldsOf (hbase : base ≠ "") (ha : a.Consistent schema)
    (hb : b.Consistent schema) :
    SortField.compareAll (fieldsOf schema k base) a b = k.compare schema base a b := by
  have hflags : Ord.compare "0" "1" = .lt ∧ Ord.compare "1" "0" = .gt := by decide
  by_cases hhigh : k.missingValue = .highValue
  · rcases ha.flag base hbase with hfa | hfa <;> rcases hb.flag base hbase with hfb | hfb <;>
      cases hascending : k.ascending <;>
      simp_all [SortField.compareAll, decided, fieldsOf, SortField.compare, compare, compareText,
        SortRow.value?, ha.missing base hbase, hb.missing base hbase]
  · cases hascending : k.ascending <;>
      simp [SortField.compareAll, decided, fieldsOf, SortField.compare, compare, compareText, hhigh,
        hascending]

theorem compareAll_fields (hfields : ∀ k ∈ keys, ∀ base ∈ schema.resolve k.path, base ≠ "")
    (ha : a.Consistent schema) (hb : b.Consistent schema) :
    SortField.compareAll (fields schema keys) a b = compareAll schema keys a b := by
  have hkeys (k : SortKey) (hk : k ∈ keys) :
      (schema.resolve k.path).map (fun base => SortField.compareAll (fieldsOf schema k base) a b) =
        (schema.resolve k.path).map fun base => k.compare schema base a b :=
    List.map_congr_left fun base hmem => compareAll_fieldsOf (hfields k hk base hmem) ha hb
  calc
    _ = decided (keys.map fun k => decided ((schema.resolve k.path).map fun base =>
          SortField.compareAll (fieldsOf schema k base) a b)) := by
      simp only [SortField.compareAll, fields, List.map_flatMap, decided_flatMap]
    _ = decided (keys.map fun k => decided ((schema.resolve k.path).map fun base =>
          k.compare schema base a b)) :=
      congrArg decided (List.map_congr_left fun k hk => congrArg decided (hkeys k hk))
    _ = _ := by rw [compareAll, decided_flatMap]

/-- Keys in the other direction ask for the same fields in the other direction. -/
theorem fields_reversed (schema : Schema) (keys : List SortKey) :
    fields schema (keys.map reversed) = (fields schema keys).map SortField.reversed := by
  have hkey (k : SortKey) :
      fieldsOf schema k.reversed = fun base => (fieldsOf schema k base).map SortField.reversed := by
    funext base
    by_cases hhigh : k.missingValue = .highValue <;>
      simp [fieldsOf, reversed, SortField.reversed, hhigh]
  have hpath (k : SortKey) : k.reversed.path = k.path := rfl
  simp only [fields, List.flatMap_map, List.map_flatMap, hkey, hpath]

section Order

variable (hpresent : (schema.suffix? .present).isSome) (hsort : (schema.suffix? .sort).isSome)
  (hseparate : schema.suffixes.Separate)
  (hfields : ∀ k ∈ keys, ∀ base ∈ schema.resolve k.path, base ≠ "")

include hpresent hsort hseparate hfields

/-- The sort fields of some keys put consistent rows into the order of the keys. With all directions
turned around the order is the reverse. There is such a row for all values that a record may have
or miss. -/
theorem fields_order_rows :
    (∀ a b : SortRow, a.Consistent schema → b.Consistent schema →
      SortField.compareAll (fields schema keys) a b = compareAll schema keys a b) ∧
    (∀ a b : SortRow, SortField.compareAll (fields schema (keys.map reversed)) a b =
        SortField.compareAll (fields schema keys) b a ∧
      SortField.compareAll (fields schema keys) b a =
        (SortField.compareAll (fields schema keys) a b).swap) ∧
    ∀ values : String → Option String, ∃ row : SortRow, row.Consistent schema ∧
      ∀ base, base ≠ "" → schema.variant? base = none → row.value? schema base = values base := by
  refine ⟨fun a b ha hb => compareAll_fields hfields ha hb, fun a b => ⟨?_, ?_⟩, fun values => ?_⟩
  · rw [fields_reversed, SortField.compareAll_reversed]
  · rw [SortField.compareAll_swap]
  · exact ⟨.ofValues schema values, SortRow.ofValues_consistent hpresent hsort hseparate values,
      fun base hbase hbare => SortRow.value?_ofValues hpresent hsort hseparate values hbase hbare⟩

end Order

/-- An ascending key with missing values at the end, over both fields of a synonym, and a descending
one with any others: of two records without a name the one with the later date comes first. -/
theorem fields_order_rows_synonym :
    let schema := Schema.ofSettings
      { SchemaSettings.standard with
        synonyms := ⟨[("name", ["creator", "contributor"])], by decide⟩ }
    let keys : List SortKey :=
      [.ofPath "Name", { ofPath "date" with ascending := false, missingValue := .lowValue }]
    let row (values : List (String × String)) : SortRow :=
      .ofValues schema fun name => values.lookup name
    let early := row [("date", "1899")]
    let late := row [("date", "1968")]
    let named := row [("contributor", "lem")]
    (∀ k ∈ keys, ∀ base ∈ schema.resolve k.path, base ≠ "") ∧
      early.Consistent schema ∧ late.Consistent schema ∧ named.Consistent schema ∧
      SortField.compareAll (fields schema keys) late early = .lt ∧
      SortField.compareAll (fields schema keys) named late = .lt ∧
      SortField.compareAll (fields schema (keys.map reversed)) named late = .gt := by
  intro schema keys row early late named
  have hpresent : (schema.suffix? .present).isSome := by decide
  have hsort : (schema.suffix? .sort).isSome := by decide
  have hseparate : schema.suffixes.Separate := by decide
  have hfields : ∀ k ∈ keys, ∀ base ∈ schema.resolve k.path, base ≠ "" := by decide +kernel
  have hrow (values : List (String × String)) : (row values).Consistent schema :=
    SortRow.ofValues_consistent hpresent hsort hseparate _
  obtain ⟨horder, hreverse, -⟩ := fields_order_rows hpresent hsort hseparate hfields
  have hearly : compareAll schema keys late early = .lt := by decide +kernel
  have hnamed : compareAll schema keys named late = .lt := by decide +kernel
  refine ⟨hfields, hrow _, hrow _, hrow _, ?_, ?_, ?_⟩
  · rw [horder late early (hrow _) (hrow _), hearly]
  · rw [horder named late (hrow _) (hrow _), hnamed]
  · rw [(hreverse named late).1, (hreverse named late).2, horder named late (hrow _) (hrow _),
      hnamed]
    rfl

end SortKey

end SearchRetrieve
