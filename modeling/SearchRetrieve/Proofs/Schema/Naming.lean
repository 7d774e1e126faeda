import Mathlib.Data.List.Nodup
import SearchRetrieve.Schema.Basic

/-!
# Names of variants

If no suffix in use ends with another one, the names of variants are faithful: a name made for a
variant of a field tells the variant and the field again, whatever name of the field it was made
from. Suffixes come into use in the order of the variants, each for one variant.
-/
namespace SearchRetrieve.SuffixTable

/-- No suffix in use ends with another one. -/
def Separate (table : SuffixTable) : Prop :=
  ∀ a ∈ table, ∀ b ∈ table, a ≠ b → endsWith a.2 b.2 = false

instance (table : SuffixTable) : Decidable table.Separate :=
  inferInstanceAs (Decidable (∀ _ ∈ _, ∀ _ ∈ _, _ → _))

variable {table : SuffixTable} {entry : Variant × String} {name suffix : String} {v w : Variant}

theorem endsWith_iff : endsWith name suffix = true ↔ suffix.toList <:+ name.toList :=
  List.isSuffixOf_iff_suffix

theorem marks_iff : marks suffix name = true ↔
    suffix.toList <:+ name.toList ∧ suffix.toList.length < name.toList.length := by
  simp [marks, endsWith_iff]

theorem foldl_longer_mem {entries : SuffixTable} {best : Option (Variant × String)}
    (h : entries.foldl longer best = some entry) : best = some entry ∨ entry ∈ entries := by
  induction entries generalizing best with
  | nil => exact Or.inl h
  | cons first entries ih =>
    rcases ih h with hlonger | hmem
    · unfold longer at hlonger
      split at hlonger
      · split at hlonger
        · exact Or.inl hlonger
        · exact Or.inr (by simp_all)
      · exact Or.inr (by simp_all)
    · exact Or.inr (List.mem_cons_of_mem _ hmem)

theorem foldl_longer_isSome (entries : SuffixTable) (best : Variant × String) :
    (entries.foldl longer (some best)).isSome := by
  induction entries generalizing best with
  | nil => rfl
  | cons first entries ih =>
    rw [List.foldl_cons]
    unfold longer
    dsimp only
    split <;> exact ih _

theorem matching?_mem (h : table.matching? name = some entry) :
    entry ∈ table ∧ marks entry.2 name = true := by
  rcases foldl_longer_mem h with hnone | hmem
  · simp at hnone
  · exact List.mem_filter.1 hmem

theorem matching?_eq_none :
    table.matching? name = none ↔ ∀ entry ∈ table, marks entry.2 name = false := by
  constructor
  · intro h entry hentry
    by_contra hmarks
    have hmem : entry ∈ table.filter fun entry => marks entry.2 name :=
      List.mem_filter.2 ⟨hentry, by simpa using hmarks⟩
    unfold matching? at h
    cases hfilter : table.filter fun entry => marks entry.2 name with
    | nil => simp [hfilter] at hmem
    | cons first others =>
      have hsome := foldl_longer_isSome others first
      rw [hfilter] at h
      change others.foldl longer (some first) = none at h
      simp [h] at hsome
  · intro h
    have hfilter : (table.filter fun entry => marks entry.2 name) = [] := by
      simpa using h
    rw [matching?, hfilter]
    rfl

/-- Something is left of a name in front of its suffix. -/
theorem base_ne_empty (h : name ≠ "") : table.base name ≠ "" := by
  unfold base
  split
  · next entry hentry =>
    obtain ⟨-, hlt⟩ := marks_iff.1 (matching?_mem hentry).2
    intro hempty
    have hlength := congrArg (fun s => s.toList.length) hempty
    simp only [String.toList_ofList, List.length_take, String.toList_empty,
      List.length_nil] at hlength
    omega
  · exact h

theorem mem_of_mem_base {c : Char} (h : c ∈ (table.base name).toList) : c ∈ name.toList := by
  unfold base at h
  split at h
  · rw [String.toList_ofList] at h
    exact List.mem_of_mem_take h
  · exact h

theorem base_of_variant?_eq_none (h : table.variant? name = none) : table.base name = name := by
  have hnone : table.matching? name = none := by simpa [variant?] using h
  rw [base, hnone]

theorem suffix?_mem (h : table.suffix? v = some suffix) : (v, suffix) ∈ table := by
  obtain ⟨entry, hfind, rfl⟩ := Option.map_eq_some_iff.1 h
  have hv : entry.1 = v := by simpa using List.find?_some hfind
  rw [← hv]
  exact List.mem_of_find?_eq_some hfind

theorem rename_of_suffix? (h : table.suffix? v = some suffix) (name : String) :
    table.rename v name = table.base name ++ suffix := by
  simp [rename, h]

theorem rename_ne_empty (h : name ≠ "") : table.rename v name ≠ "" := by
  intro hempty
  exact base_ne_empty h (String.append_eq_empty_iff.1 hempty).1

theorem mem_rename {c : Char} (h : c ∈ (table.rename v name).toList) :
    c ∈ name.toList ∨ ∃ suffix, table.suffix? v = some suffix ∧ c ∈ suffix.toList := by
  rw [rename, String.toList_append, List.mem_append] at h
  refine h.imp mem_of_mem_base fun hc => ?_
  cases hs : table.suffix? v with
  | none => simp [hs] at hc
  | some suffix => exact ⟨suffix, rfl, by simpa [hs] using hc⟩

/-- A disabled variant has the name of the field. -/
theorem rename_of_disabled (hbare : table.variant? name = none) (hv : table.suffix? v = none) :
    table.rename v name = name := by
  rw [rename, base_of_variant?_eq_none hbare, hv]
  exact String.append_empty

theorem marks_append (hname : name ≠ "") : marks suffix (name ++ suffix) = true := by
  have hlength : 0 < name.toList.length := by
    rw [List.length_pos_iff]
    exact fun h => hname (String.toList_eq_nil_iff.1 h)
  rw [marks_iff, String.toList_append, List.length_append]
  exact ⟨List.suffix_append _ _, by omega⟩

/-- A suffix behind some text is the only one that the whole carries. -/
theorem matching?_append (hseparate : table.Separate) (hentry : entry ∈ table)
    (hname : name ≠ "") : table.matching? (name ++ entry.2) = some entry := by
  have hmarks : marks entry.2 (name ++ entry.2) = true := marks_append hname
  cases hmatching : table.matching? (name ++ entry.2) with
  | none => simp [matching?_eq_none.1 hmatching entry hentry] at hmarks
  | some other =>
    obtain ⟨hother, hmarks'⟩ := matching?_mem hmatching
    have hsuffix := (marks_iff.1 hmarks).1
    have hsuffix' := (marks_iff.1 hmarks').1
    by_contra hne
    have hne : other ≠ entry := by simpa using hne
    rcases List.suffix_or_suffix_of_suffix hsuffix hsuffix' with h | h
    · have hends := hseparate other hother entry hentry hne
      simp [endsWith_iff.2 h] at hends
    · have hends := hseparate entry hentry other hother (Ne.symm hne)
      simp [endsWith_iff.2 h] at hends

section Faithful

variable (hseparate : table.Separate) (hname : name ≠ "")

include hseparate hname

theorem matching?_rename (h : table.suffix? v = some suffix) :
    table.matching? (table.rename v name) = some (v, suffix) := by
  have hbase : table.base name ≠ "" := base_ne_empty hname
  have hmatching := matching?_append hseparate (suffix?_mem h) hbase
  rwa [← rename_of_suffix? h] at hmatching

theorem variant?_rename (h : (table.suffix? v).isSome) :
    table.variant? (table.rename v name) = some v := by
  obtain ⟨suffix, hsuffix⟩ := Option.isSome_iff_exists.1 h
  simp [variant?, matching?_rename hseparate hname hsuffix]

theorem base_rename (h : (table.suffix? v).isSome) :
    table.base (table.rename v name) = table.base name := by
  obtain ⟨suffix, hsuffix⟩ := Option.isSome_iff_exists.1 h
  rw [base, matching?_rename hseparate hname hsuffix, rename_of_suffix? hsuffix]
  simp

theorem rename_rename (h : (table.suffix? w).isSome) :
    table.rename v (table.rename w name) = table.rename v name := by
  rw [rename, base_rename hseparate hname h, rename]

theorem rename_eq_rename_iff (hv : (table.suffix? v).isSome) (hw : (table.suffix? w).isSome)
    {other : String} (hother : other ≠ "") :
    table.rename v other = table.rename w name ↔ v = w ∧ table.base other = table.base name := by
  constructor
  · intro h
    have hvariant := congrArg table.variant? h
    rw [variant?_rename hseparate hother hv, variant?_rename hseparate hname hw] at hvariant
    have hbase := congrArg table.base h
    rw [base_rename hseparate hother hv, base_rename hseparate hname hw] at hbase
    exact ⟨Option.some.inj hvariant, hbase⟩
  · rintro ⟨rfl, hbase⟩
    rw [rename, hbase, rename]

/-- The name of an enabled variant is not that of a field. -/
theorem ne_rename_of_bare (hv : (table.suffix? v).isSome) {other : String}
    (hother : table.variant? other = none) : other ≠ table.rename v name := by
  rintro rfl
  simp [variant?_rename hseparate hname hv] at hother

/-- From names of fields the name of an enabled variant is made once, whichever of the other
variants are enabled. -/
theorem rename_eq_rename_iff_of_bare (hv : (table.suffix? v).isSome)
    (hbare : table.variant? name = none) {other : String} (hother : other ≠ "")
    (hotherbare : table.variant? other = none) :
    table.rename w other = table.rename v name ↔ w = v ∧ other = name := by
  cases hw : table.suffix? w with
  | some suffix =>
    rw [rename_eq_rename_iff hseparate hname (by simp [hw]) hv hother,
      base_of_variant?_eq_none hbare, base_of_variant?_eq_none hotherbare]
  | none =>
    rw [rename_of_disabled hotherbare hw]
    refine iff_of_false (ne_rename_of_bare hseparate hname hv hotherbare) ?_
    rintro ⟨rfl, -⟩
    simp [hw] at hv

end Faithful

variable {suffixes : Suffixes}

theorem admits_iff :
    table.admits suffix = true ↔ suffix ≠ "" ∧ ∀ entry ∈ table, entry.2 ≠ suffix := by
  simp [admits]

theorem mem_take :
    (w, suffix) ∈ take suffixes table v ↔ (w, suffix) ∈ table ∨
      (w = v ∧ suffixes.get v = some suffix ∧ table.admits suffix = true) := by
  unfold take
  cases hget : suffixes.get v with
  | none => simp
  | some asked =>
    dsimp only
    split
    · next hadmits =>
      simp only [List.mem_append, List.mem_singleton, Prod.mk.injEq, Option.some.injEq]
      refine or_congr_right ⟨?_, ?_⟩
      · rintro ⟨rfl, rfl⟩
        exact ⟨rfl, rfl, hadmits⟩
      · rintro ⟨rfl, rfl, -⟩
        exact ⟨rfl, rfl⟩
    · next hadmits =>
      refine ⟨Or.inl, ?_⟩
      rintro (h | ⟨-, hasked, hadmits'⟩)
      · exact h
      · cases hasked
        exact (hadmits hadmits').elim

/-- A suffix can still be taken up if it could be before and has not been asked for now. -/
theorem admits_take :
    (take suffixes table v).admits suffix = true ↔
      table.admits suffix = true ∧ suffixes.get v ≠ some suffix := by
  constructor
  · intro h
    obtain ⟨hne, hfree⟩ := admits_iff.1 h
    have hadmits : table.admits suffix = true := by
      refine admits_iff.2 ⟨hne, fun entry hentry => hfree entry ?_⟩
      exact mem_take.2 (Or.inl hentry)
    refine ⟨hadmits, fun hget => ?_⟩
    exact hfree (v, suffix) (mem_take.2 (Or.inr ⟨rfl, hget, hadmits⟩)) rfl
  · rintro ⟨hadmits, hget⟩
    obtain ⟨hne, hfree⟩ := admits_iff.1 hadmits
    refine admits_iff.2 ⟨hne, ?_⟩
    rintro ⟨u, other⟩ hentry rfl
    rcases mem_take.1 hentry with hentry | ⟨-, hother, -⟩
    · exact hfree _ hentry rfl
    · exact hget hother

def earlier (v : Variant) (vs : List Variant) : List Variant := vs.takeWhile (· ≠ v)

theorem mem_foldl_take {vs : List Variant} :
    (v, suffix) ∈ vs.foldl (take suffixes) table ↔ (v, suffix) ∈ table ∨
      (v ∈ vs ∧ suffixes.get v = some suffix ∧ table.admits suffix = true ∧
        ∀ w ∈ earlier v vs, suffixes.get w ≠ some suffix) := by
  induction vs generalizing table with
  | nil => simp
  | cons u vs ih =>
    rw [List.foldl_cons, ih, mem_take, admits_take]
    by_cases hu : u = v
    · subst hu
      have hearlier : earlier u (u :: vs) = [] := by simp [earlier]
      simp only [hearlier, List.mem_cons, true_or, true_and, List.not_mem_nil, false_implies,
        implies_true, and_true]
      tauto
    · have hearlier : earlier v (u :: vs) = u :: earlier v vs := by simp [earlier, hu]
      simp only [hearlier, List.mem_cons, Ne.symm hu, false_and, or_false, false_or,
        forall_eq_or_imp]
      tauto

/-- A variant has its suffix exactly if this is not empty and no earlier variant asks for it. -/
theorem mem_ofSuffixes :
    (v, suffix) ∈ ofSuffixes suffixes ↔ suffixes.get v = some suffix ∧ suffix ≠ "" ∧
      ∀ w ∈ earlier v Variant.all, suffixes.get w ≠ some suffix := by
  have hall : v ∈ Variant.all := by cases v <;> decide
  simp [ofSuffixes, mem_foldl_take, admits_iff, hall]

theorem take_suffixes_nodup (h : (table.map Prod.snd).Nodup) :
    ((take suffixes table v).map Prod.snd).Nodup := by
  unfold take
  split
  · split
    · next suffix _ hadmits =>
      have hfree := (admits_iff.1 hadmits).2
      rw [List.map_append, List.nodup_append']
      refine ⟨h, by simp, fun other hother hnew => ?_⟩
      obtain ⟨entry, hentry, rfl⟩ := List.mem_map.1 hother
      exact hfree entry hentry (by simpa using hnew)
    · exact h
  · exact h

theorem ofSuffixes_suffixes_nodup (suffixes : Suffixes) :
    ((ofSuffixes suffixes).map Prod.snd).Nodup := by
  have hfold : ∀ (vs : List Variant) (table : SuffixTable), (table.map Prod.snd).Nodup →
      ((vs.foldl (take suffixes) table).map Prod.snd).Nodup := by
    intro vs
    induction vs with
    | nil => exact fun table h => h
    | cons v vs ih => exact fun table h => ih _ (take_suffixes_nodup h)
  exact hfold Variant.all [] (by simp)

theorem ofSuffixes_variants_nodup (suffixes : Suffixes) :
    ((ofSuffixes suffixes).map Prod.fst).Nodup := by
  apply List.Nodup.map_on
  · rintro ⟨v, suffix⟩ h ⟨w, other⟩ h' rfl
    have hsuffix := (mem_ofSuffixes.1 h).1
    rw [(mem_ofSuffixes.1 h').1] at hsuffix
    cases hsuffix
    rfl
  · exact (ofSuffixes_suffixes_nodup suffixes).of_map _

def SilentOnOverlaps (notices : List Notice) : Prop :=
  ∀ v other, Notice.overlappingSuffix v other ∉ notices

theorem silentOnOverlaps_append {notices later : List Notice} :
    SilentOnOverlaps (notices ++ later) ↔ SilentOnOverlaps notices ∧ SilentOnOverlaps later := by
  simp only [SilentOnOverlaps, List.mem_append, not_or, forall_and]

theorem Separate.mono {small : SuffixTable} (h : table.Separate) (hsub : small ⊆ table) :
    small.Separate :=
  fun a ha b hb => h a (hsub ha) b (hsub hb)

theorem separate_append (hfree : ∀ entry ∈ table, entry.2 ≠ suffix) :
    Separate (table ++ [(v, suffix)]) ↔
      table.Separate ∧ ∀ entry ∈ table, Schema.overlap entry.2 suffix = false := by
  constructor
  · intro h
    refine ⟨h.mono (List.subset_append_left _ _), fun entry hentry => ?_⟩
    have hne : entry ≠ (v, suffix) := fun heq => hfree entry hentry (by rw [heq])
    have hold : entry ∈ table ++ [(v, suffix)] := List.mem_append_left _ hentry
    have hnew : (v, suffix) ∈ table ++ [(v, suffix)] := by simp
    simp [Schema.overlap, h entry hold _ hnew hne, h _ hnew entry hold (Ne.symm hne)]
  · rintro ⟨h, hoverlap⟩ a ha b hb hne
    simp only [Schema.overlap, Bool.or_eq_false_iff] at hoverlap
    rcases List.mem_append.1 ha with ha | ha <;> rcases List.mem_append.1 hb with hb | hb
    · exact h a ha b hb hne
    · rw [List.mem_singleton.1 hb]
      exact (hoverlap a ha).1
    · rw [List.mem_singleton.1 ha]
      exact (hoverlap b hb).2
    · exact (hne ((List.mem_singleton.1 ha).trans (List.mem_singleton.1 hb).symm)).elim

/-- An overlap is noted just when the suffix that is taken up overlaps with one in use. -/
theorem silent_suffixNotices (h : table.Separate) :
    SilentOnOverlaps (Schema.suffixNotices suffixes table v) ↔
      (take suffixes table v).Separate := by
  unfold Schema.suffixNotices take
  cases hget : suffixes.get v with
  | none => simpa [SilentOnOverlaps] using h
  | some suffix =>
    dsimp only
    by_cases hempty : suffix = ""
    · have hadmits : ¬ table.admits suffix = true := fun hadmits => (admits_iff.1 hadmits).1 hempty
      rw [if_pos hempty, if_neg hadmits]
      simpa [SilentOnOverlaps] using h
    · rw [if_neg hempty]
      cases hfind : table.find? (·.2 == suffix) with
      | some owner =>
        have howner : owner.2 = suffix := by simpa using List.find?_some hfind
        have hadmits : ¬ table.admits suffix = true := fun hadmits =>
          (admits_iff.1 hadmits).2 owner (List.mem_of_find?_eq_some hfind) howner
        rw [if_neg hadmits]
        simpa [SilentOnOverlaps] using h
      | none =>
        have hfree : ∀ entry ∈ table, entry.2 ≠ suffix := by simpa using hfind
        rw [if_pos (admits_iff.2 ⟨hempty, hfree⟩), separate_append hfree]
        constructor
        · refine fun hsilent => ⟨h, fun entry hentry => ?_⟩
          by_contra hoverlap
          have hfilter : entry ∈ table.filter fun e => Schema.overlap e.2 suffix :=
            List.mem_filter.2 ⟨hentry, by simpa using hoverlap⟩
          exact hsilent v entry.1 (List.mem_map.2 ⟨entry, hfilter, rfl⟩)
        · rintro ⟨-, hoverlap⟩ u other hnotice
          obtain ⟨entry, hfilter, -⟩ := List.mem_map.1 hnotice
          obtain ⟨hentry, hends⟩ := List.mem_filter.1 hfilter
          simp [hoverlap entry hentry] at hends

theorem subset_foldl_take (vs : List Variant) : table ⊆ vs.foldl (take suffixes) table :=
  fun _ h => mem_foldl_take.2 (Or.inl h)

theorem silent_allSuffixNotices {vs : List Variant} (h : table.Separate) :
    SilentOnOverlaps (Schema.allSuffixNotices suffixes vs table) ↔
      (vs.foldl (take suffixes) table).Separate := by
  induction vs generalizing table with
  | nil => simpa [Schema.allSuffixNotices, SilentOnOverlaps] using h
  | cons v vs ih =>
    rw [Schema.allSuffixNotices, silentOnOverlaps_append, silent_suffixNotices h, List.foldl_cons]
    constructor
    · rintro ⟨htake, hlater⟩
      exact (ih htake).1 hlater
    · intro hall
      have htake : (take suffixes table v).Separate := hall.mono (subset_foldl_take vs)
      exact ⟨htake, (ih htake).2 hall⟩

/-- An overlap is noted exactly if some suffix that comes into use ends with another one. The
suffixes in use are not empty and distinct, each variant has one at most, and of variants that ask
for the same suffix the first one has it. No name has an empty base. If no suffix ends with another
one, the name of a variant of a field tells the variant and the base, it is the same for all names
of the field, and it is the name of nothing else. -/
theorem rename_faithful (suffixes : Suffixes) :
    let table := ofSuffixes suffixes
    (SilentOnOverlaps (Schema.allSuffixNotices suffixes Variant.all []) ↔ table.Separate) ∧
      (∀ entry ∈ table, entry.2 ≠ "") ∧ (table.map Prod.snd).Nodup ∧
      (table.map Prod.fst).Nodup ∧
      (∀ v suffix, (v, suffix) ∈ table ↔ suffixes.get v = some suffix ∧ suffix ≠ "" ∧
        ∀ w ∈ earlier v Variant.all, suffixes.get w ≠ some suffix) ∧
      (∀ n, n ≠ "" → table.base n ≠ "") ∧
      (table.Separate → ∀ m n, m ≠ "" → n ≠ "" → ∀ j k,
        (table.suffix? j).isSome → (table.suffix? k).isSome →
          table.base (table.rename k n) = table.base n ∧
          table.variant? (table.rename k n) = some k ∧
          table.rename k (table.rename j n) = table.rename k n ∧
          (table.rename j m = table.rename k n ↔ j = k ∧ table.base m = table.base n)) := by
  intro table
  refine ⟨silent_allSuffixNotices nofun, ?_, ofSuffixes_suffixes_nodup suffixes,
    ofSuffixes_variants_nodup suffixes, fun v suffix => mem_ofSuffixes, fun n => base_ne_empty,
    fun hseparate m n hm hn j k hj hk => ?_⟩
  · rintro ⟨v, suffix⟩ hentry
    exact (mem_ofSuffixes.1 hentry).2.1
  · exact ⟨base_rename hseparate hn hk, variant?_rename hseparate hn hk,
      rename_rename hseparate hn hj, rename_eq_rename_iff hseparate hn hj hk hm⟩

/-- With a suffix that is asked for twice and an empty one: two variants of one field, named from
its own name and from that of a third variant. -/
theorem rename_faithful_title :
    let suffixes : Suffixes := ⟨some ".x", some "", some ".sort", some ".x", none, some "-raw"⟩
    let table := ofSuffixes suffixes
    table = [(.exact, ".x"), (.sort, ".sort"), (.stored, "-raw")] ∧ table.Separate ∧
      table.base (table.rename .sort "title.x") = table.base "title.x" ∧
      table.rename .exact "title-raw" ≠ table.rename .sort "title.x" := by
  intro suffixes table
  have hseparate : table.Separate := by decide
  have hnames : "title-raw" ≠ "" ∧ "title.x" ≠ "" := by decide
  obtain ⟨-, -, -, -, -, -, hlaws⟩ := rename_faithful suffixes
  obtain ⟨hbase, -, -, hiff⟩ := hlaws hseparate "title-raw" "title.x" hnames.1 hnames.2
    .exact .sort (by decide) (by decide)
  exact ⟨by decide, hseparate, hbase, fun h => absurd (hiff.1 h).1 (by decide)⟩

end SearchRetrieve.SuffixTable
