import SearchRetrieve.Proofs.Schema.Naming

/-!
# Naming a variant twice

A name that has been made for a variant is to stay as it is when it is made for this variant again.
It does so if the suffix of the variant is the longest one that the name carries. For all names of a
deployment this holds exactly if no other suffix in use ends with the one of the variant; a disabled
variant takes a suffix away each time, so then no suffix may be in use at all.
-/
namespace SearchRetrieve.SuffixTable

variable {table : SuffixTable} {entry : Variant × String} {name suffix : String} {v : Variant}

theorem foldl_longer_le {entries : SuffixTable} {best : Option (Variant × String)}
    (h : entries.foldl longer best = some entry) :
    (∀ b, best = some b → b.2.toList.length ≤ entry.2.toList.length) ∧
      ∀ other ∈ entries, other.2.toList.length ≤ entry.2.toList.length := by
  induction entries generalizing best with
  | nil =>
    obtain rfl : best = some entry := h
    simp
  | cons first entries ih =>
    obtain ⟨hbest, hentries⟩ := ih h
    have hboth : (∀ b, best = some b → b.2.toList.length ≤ entry.2.toList.length) ∧
        first.2.toList.length ≤ entry.2.toList.length := by
      cases best with
      | none => exact ⟨nofun, hbest first rfl⟩
      | some b =>
        simp only [longer] at hbest
        split at hbest
        · have := hbest b rfl
          exact ⟨by simpa using this, by omega⟩
        · have := hbest first rfl
          exact ⟨by simp; omega, this⟩
    exact ⟨hboth.1, by simpa using ⟨hboth.2, fun v suffix => hentries (v, suffix)⟩⟩

theorem matching?_longest (h : table.matching? name = some entry) {other : Variant × String}
    (hother : other ∈ table) (hmarks : marks other.2 name = true) :
    other.2.toList.length ≤ entry.2.toList.length :=
  (foldl_longer_le h).2 other (List.mem_filter.2 ⟨hother, hmarks⟩)

theorem exists_longest (h : table ≠ []) :
    ∃ entry ∈ table, ∀ other ∈ table, other.2.toList.length ≤ entry.2.toList.length := by
  obtain ⟨first, others, rfl⟩ := List.exists_cons_of_ne_nil h
  obtain ⟨entry, hentry⟩ := Option.isSome_iff_exists.1 (foldl_longer_isSome others first)
  have hfold : (first :: others).foldl longer none = some entry := hentry
  rcases foldl_longer_mem hfold with hnone | hmem
  · simp at hnone
  · exact ⟨entry, hmem, (foldl_longer_le hfold).2⟩

/-- A suffix is taken off again exactly if no longer one marks the whole. -/
theorem base_append_iff (hentry : entry ∈ table) (hname : name ≠ "") :
    table.base (name ++ entry.2) = name ↔
      ∀ other ∈ table, marks other.2 (name ++ entry.2) = true →
        other.2.toList.length ≤ entry.2.toList.length := by
  have hmarks : marks entry.2 (name ++ entry.2) = true := marks_append hname
  cases hmatching : table.matching? (name ++ entry.2) with
  | none => simp [matching?_eq_none.1 hmatching entry hentry] at hmarks
  | some longest =>
    obtain ⟨hmem, hlongest⟩ := matching?_mem hmatching
    have hle := matching?_longest hmatching hentry hmarks
    have hlt := (marks_iff.1 hlongest).2
    rw [String.toList_append, List.length_append] at hlt
    have hbase : (table.base (name ++ entry.2)).toList = (name.toList ++ entry.2.toList).take
        (name.toList.length + entry.2.toList.length - longest.2.toList.length) := by
      simp [base, hmatching]
    constructor
    · intro h other hother hother'
      have hlengths := congrArg List.length hbase
      rw [h, List.length_take, List.length_append] at hlengths
      have := matching?_longest hmatching hother hother'
      omega
    · intro h
      have := h longest hmem hlongest
      apply String.toList_injective
      rw [hbase, show name.toList.length + entry.2.toList.length - longest.2.toList.length =
        name.toList.length by omega, List.take_left]

theorem base_eq_self_iff (hne : ∀ entry ∈ table, entry.2 ≠ "") :
    table.base name = name ↔ ∀ entry ∈ table, marks entry.2 name = false := by
  rw [← matching?_eq_none]
  constructor
  · intro h
    by_contra hsome
    obtain ⟨entry, hentry⟩ := Option.ne_none_iff_exists'.1 hsome
    obtain ⟨hmem, hmarks⟩ := matching?_mem hentry
    have hlt := (marks_iff.1 hmarks).2
    have hpos : 0 < entry.2.toList.length := by
      rw [List.length_pos_iff]
      exact fun hnil => hne entry hmem (String.toList_eq_nil_iff.1 hnil)
    have hlength := congrArg (fun s => s.toList.length) h
    simp only [base, hentry, String.toList_ofList, List.length_take] at hlength
    omega
  · intro h
    rw [base, h]

/-- What a name made for a variant ends with; a disabled variant adds nothing. -/
def ownSuffix (table : SuffixTable) (v : Variant) : String := (table.suffix? v).getD ""

theorem rename_eq_append : table.rename v name = table.base name ++ table.ownSuffix v := rfl

/-- A name made for a variant stays as it is exactly if it carries no longer suffix than the one
of the variant. -/
theorem rename_twice_iff (hne : ∀ entry ∈ table, entry.2 ≠ "") (hname : name ≠ "") :
    table.rename v (table.rename v name) = table.rename v name ↔
      ∀ other ∈ table, marks other.2 (table.rename v name) = true →
        other.2.toList.length ≤ (table.ownSuffix v).toList.length := by
  have hbase : table.base name ≠ "" := base_ne_empty hname
  rw [rename_eq_append, rename_eq_append, String.append_left_inj]
  cases hsuffix : table.suffix? v with
  | some suffix =>
    have hown : table.ownSuffix v = suffix := by simp [ownSuffix, hsuffix]
    have hiff := base_append_iff (suffix?_mem hsuffix) hbase
    rwa [hown]
  | none =>
    have hown : table.ownSuffix v = "" := by simp [ownSuffix, hsuffix]
    rw [hown, String.append_empty, base_eq_self_iff hne]
    constructor
    · intro h other hother hmarks
      simp [h other hother] at hmarks
    · intro h other hother
      by_contra hmarks
      have hnil := h other hother (by simpa using hmarks)
      exact hne other hother (by simpa using hnil)

/-- Names made for the variant stay as they are: no other suffix ends with the one of the variant,
and if the variant is disabled there is no suffix at all. -/
def Settles (table : SuffixTable) (v : Variant) : Prop :=
  match table.suffix? v with
  | some suffix => ∀ entry ∈ table, endsWith entry.2 suffix = true → entry.2 = suffix
  | none => table = []

instance (table : SuffixTable) (v : Variant) : Decidable (table.Settles v) :=
  match h : table.suffix? v with
  | some suffix =>
    decidable_of_iff (∀ entry ∈ table, endsWith entry.2 suffix = true → entry.2 = suffix)
      (by simp [Settles, h])
  | none => decidable_of_iff (table = []) (by simp [Settles, h])

theorem settles_iff (hne : ∀ entry ∈ table, entry.2 ≠ "") :
    table.Settles v ↔
      ∀ entry ∈ table, endsWith entry.2 (table.ownSuffix v) = true →
        entry.2 = table.ownSuffix v := by
  unfold Settles ownSuffix
  cases table.suffix? v with
  | some suffix => rfl
  | none =>
    have hends (name : String) : endsWith name "" = true := endsWith_iff.2 (List.nil_suffix)
    simp only [Option.getD_none, hends, true_implies]
    constructor
    · rintro rfl
      simp
    · intro h
      exact List.eq_nil_iff_forall_not_mem.2 fun entry hentry => hne entry hentry (h entry hentry)

theorem rename_twice_of_settles (hne : ∀ entry ∈ table, entry.2 ≠ "") (h : table.Settles v)
    (hname : name ≠ "") : table.rename v (table.rename v name) = table.rename v name := by
  rw [rename_twice_iff hne hname]
  intro other hother hmarks
  have hown : (table.ownSuffix v).toList <:+ (table.rename v name).toList := by
    simp [rename_eq_append]
  rcases List.suffix_or_suffix_of_suffix hown (marks_iff.1 hmarks).1 with hends | hends
  · have hother' := (settles_iff hne).1 h other hother (endsWith_iff.2 hends)
    exact Nat.le_of_eq (by rw [hother'])
  · exact hends.length_le

/-- If another suffix ends with the one of a variant, the rest of it can be in front of a suffix
that is taken away, and then the whole is. -/
theorem settles_of_rename_twice (hne : ∀ entry ∈ table, entry.2 ≠ "")
    (h : ∀ name, name ≠ "" → table.rename v (table.rename v name) = table.rename v name) :
    table.Settles v := by
  rw [settles_iff hne]
  intro entry hentry hends
  obtain ⟨longest, hlongest, hlength⟩ := exists_longest (List.ne_nil_of_mem hentry)
  obtain ⟨rest, hrest⟩ := endsWith_iff.1 hends
  let front := "x" ++ String.ofList rest
  have hfront : front ≠ "" := by simp [front, String.append_eq_empty_iff]
  have hname : front ++ longest.2 ≠ "" := by simp [String.append_eq_empty_iff, hfront]
  have hbase : table.base (front ++ longest.2) = front :=
    (base_append_iff hlongest hfront).2 fun other hother _ => hlength other hother
  have hrename : table.rename v (front ++ longest.2) = "x" ++ entry.2 := by
    apply String.toList_injective
    simp [rename_eq_append, hbase, front, ← hrest]
  have hle := (rename_twice_iff hne hname).1 (h _ hname) entry hentry
  rw [hrename] at hle
  have hsuffix : (table.ownSuffix v).toList <:+ entry.2.toList := endsWith_iff.1 hends
  exact (String.toList_injective (hsuffix.eq_of_length_le (hle (marks_append (by decide))))).symm

end SuffixTable

namespace Schema

open SuffixTable

/-- A name that a schema makes for a variant stays as it is when it is made again exactly if it
carries no longer suffix than the one of the variant. All names do exactly if no other suffix in
use ends with the one of the variant; for a disabled variant, if no suffix is in use. -/
theorem variantName_idempotent_iff (settings : SchemaSettings) (v : Variant) :
    let schema := ofSettings settings
    (∀ n, n ≠ "" → (schema.variantName (schema.variantName n v) v = schema.variantName n v ↔
      ∀ entry ∈ schema.suffixes, marks entry.2 (schema.variantName n v) = true →
        entry.2.length ≤ ((schema.suffix? v).getD "").length)) ∧
    ((∀ n, n ≠ "" → schema.variantName (schema.variantName n v) v = schema.variantName n v) ↔
      schema.suffixes.Settles v) := by
  intro schema
  have hne : ∀ entry ∈ schema.suffixes, entry.2 ≠ "" := by
    rintro ⟨w, suffix⟩ hentry
    exact (mem_ofSuffixes.1 hentry).2.1
  refine ⟨fun n hn => ?_, settles_of_rename_twice hne, fun h n hn => ?_⟩
  · have hiff := rename_twice_iff (v := v) hne hn
    simp only [String.length_toList] at hiff
    exact hiff
  · exact rename_twice_of_settles hne h hn

/-- The standard suffixes settle all variants. -/
example : ∀ v ∈ Variant.all, (ofSuffixes .standard).Settles v := by decide

/-- Where one suffix ends with another, the longer one settles and the other does not. -/
theorem variantName_idempotent_iff_overlap :
    let settings := { SchemaSettings.standard with
      suffixes := ⟨some "_s", none, none, none, some "_facet_s", none⟩ }
    let schema := ofSettings settings
    (∀ n, n ≠ "" → schema.variantName (schema.variantName n .facet) .facet =
      schema.variantName n .facet) ∧
    ¬ ∀ n, n ≠ "" → schema.variantName (schema.variantName n .exact) .exact =
      schema.variantName n .exact := by
  intro settings schema
  have hfacet : schema.suffixes.Settles .facet := by decide
  have hexact : ¬ schema.suffixes.Settles .exact := by decide
  exact ⟨(variantName_idempotent_iff settings .facet).2.2 hfacet,
    fun h => hexact ((variantName_idempotent_iff settings .exact).2.1 h)⟩

/-- A name changes again where one suffix ends with another, and where a variant is disabled and
the name has two suffixes. -/
theorem variantName_changes_again :
    let overlapping := ofSettings { SchemaSettings.standard with
      suffixes := ⟨some "_s", none, none, none, some "_facet_s", none⟩ }
    let disabled := ofSettings { SchemaSettings.standard with
      suffixes := { Suffixes.standard with present := none } }
    (overlapping.variantName "title_facet" .exact = "title_facet_s" ∧
      overlapping.variantName "title_facet_s" .exact = "title_s") ∧
    disabled.variantName "title.sort.sort" .present = "title.sort" ∧
      disabled.variantName "title.sort" .present = "title" := by
  decide

end Schema

end SearchRetrieve
