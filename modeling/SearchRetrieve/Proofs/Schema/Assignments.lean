import Mathlib.Data.List.Induction
import SearchRetrieve.Proofs.Schema.Synonyms
import SearchRetrieve.Proofs.Text.Words
import SearchRetrieve.Schema.Properties

/-!
# Assignments

A line of properties gives a value to a key. Of several values for one key the last counts, so that
settings depend on nothing but the value that each key has in the end: the order of the lines and
assignments that are made again further on make no difference.
-/
namespace SearchRetrieve.Properties

variable {line before after : List Char} {sep : Char} {p q : Properties} {a : String × String}
  {key value name : String} {entry : String × List String}

def IsSeparator (c : Char) : Prop := c = '=' ∨ c = ':'

instance (c : Char) : Decidable (IsSeparator c) := inferInstanceAs (Decidable (_ ∨ _))

def IsGap (cs : List Char) : Prop := ∀ c ∈ cs, Text.isBlank c = true

instance (cs : List Char) : Decidable (IsGap cs) := List.decidableBAll _ _

/-- The first character that is not white space marks a comment. -/
def IsComment (line : List Char) : Prop :=
  ∃ c ∈ (Text.trimStartChars line).head?, c = '#' ∨ c = '!'

/-- What stands in front of the first separator, or the whole line if there is none, without white
space around it. -/
inductive HasKey : List Char → String → Prop
  | separated {before after : List Char} {sep : Char} (hbefore : ∀ c ∈ before, ¬ IsSeparator c)
      (hsep : IsSeparator sep) :
      HasKey (before ++ sep :: after) (String.ofList (Text.trimChars before))
  | whole {line : List Char} (hline : ∀ c ∈ line, ¬ IsSeparator c) :
      HasKey line (String.ofList (Text.trimChars line))

structure Assigns (line : List Char) (key : String) : Prop where
  hasKey : HasKey line key
  not_comment : ¬ IsComment line
  not_gap : ¬ IsGap line

theorem IsSeparator.not_isBlank {c : Char} (h : IsSeparator c) : Text.isBlank c = false := by
  rcases h with rfl | rfl <;> decide

theorem ofLine?_of_comment (h : IsComment line) : ofLine? line = none := by
  obtain ⟨c, hc, hmark⟩ := h
  rw [← Text.head?_trimChars] at hc
  unfold ofLine?
  cases htrim : Text.trimChars line with
  | nil => rfl
  | cons first rest =>
    obtain rfl : first = c := by simpa [htrim] using hc
    simp [hmark]

theorem ofLine?_of_gap (h : IsGap line) : ofLine? line = none := by
  rw [ofLine?, Text.trimChars_eq_nil_iff.2 h]

/-- What is neither blank nor a comment is cut at its first separator. -/
theorem ofLine?_of_cut {front : List Char} {back : Option (List Char)} (hcomment : ¬ IsComment line)
    (hgap : ¬ IsGap line)
    (hcut : Text.cut (fun c => c == '=' || c == ':') (Text.trimChars line) = (front, back)) :
    ofLine? line = some (String.ofList (Text.trimChars front),
      String.ofList (Text.trimChars (back.getD []))) := by
  unfold ofLine?
  cases htrim : Text.trimChars line with
  | nil => exact absurd (Text.trimChars_eq_nil_iff.1 htrim) hgap
  | cons first rest =>
    have hfirst : ¬ (first = '#' ∨ first = '!') := by
      refine fun hmark => hcomment ⟨first, ?_, hmark⟩
      rw [← Text.head?_trimChars, htrim]
      rfl
    rw [htrim] at hcut
    simp only [if_neg hfirst, hcut]

theorem ofLine?_separated (hbefore : ∀ c ∈ before, ¬ IsSeparator c) (hsep : IsSeparator sep)
    (hcomment : ¬ IsComment (before ++ sep :: after)) :
    ofLine? (before ++ sep :: after) =
      some (String.ofList (Text.trimChars before), String.ofList (Text.trimChars after)) := by
  have hblank := hsep.not_isBlank
  have hgap : ¬ IsGap (before ++ sep :: after) := fun h => by
    simpa [hblank] using h sep (by simp)
  have hplain : ∀ c ∈ before.dropWhile Text.isBlank, (c == '=' || c == ':') = false := by
    intro c hc
    simpa [IsSeparator] using hbefore c ((List.dropWhile_sublist _).mem hc)
  have hmark : (sep == '=' || sep == ':') = true := by simpa [IsSeparator] using hsep
  have hcut : Text.cut (fun c => c == '=' || c == ':') (Text.trimChars (before ++ sep :: after)) =
      (before.dropWhile Text.isBlank, some (after.rdropWhile Text.isBlank)) := by
    rw [Text.trimChars_append_cons hblank]
    exact Text.cut_append hplain hmark
  rw [ofLine?_of_cut hcomment hgap hcut, Text.trimChars_dropWhile]
  simp [Text.trimChars_rdropWhile]

theorem ofLine?_whole (hline : ∀ c ∈ line, ¬ IsSeparator c) (hcomment : ¬ IsComment line)
    (hgap : ¬ IsGap line) :
    ofLine? line = some (String.ofList (Text.trimChars line), "") := by
  have hplain : ∀ c ∈ Text.trimChars line, (c == '=' || c == ':') = false := fun c hc => by
    have hmem : c ∈ (Text.trim (String.ofList line)).toList := by simpa [Text.trim] using hc
    simpa [IsSeparator] using hline c (by simpa using Text.mem_of_mem_trim hmem)
  rw [ofLine?_of_cut hcomment hgap (Text.cut_of_none hplain), Text.trimChars_trimChars]
  rfl

theorem Assigns.exists_value (h : Assigns line key) :
    ∃ value, ofLine? line = some (key, value) := by
  obtain ⟨hkey, hcomment, hgap⟩ := h
  cases hkey with
  | separated hbefore hsep => exact ⟨_, ofLine?_separated hbefore hsep hcomment⟩
  | whole hline => exact ⟨_, ofLine?_whole hline hcomment hgap⟩

theorem HasKey.eq_of_ofLine? (h : HasKey line key) (hline : ofLine? line = some a) : a.1 = key := by
  have hcomment : ¬ IsComment line := fun hcomment => by
    simp [ofLine?_of_comment hcomment] at hline
  have hgap : ¬ IsGap line := fun hgap => by simp [ofLine?_of_gap hgap] at hline
  obtain ⟨value, hvalue⟩ := (Assigns.mk h hcomment hgap).exists_value
  rw [← Option.some.inj (hvalue.symm.trans hline)]

theorem get?_append (p q : Properties) (key : String) :
    get? (p ++ q) key = (q.get? key).or (p.get? key) := by
  simp [get?, List.reverse_append, List.find?_append, Option.map_or]

theorem get?_singleton (a : String × String) (key : String) :
    get? [a] key = if a.1 = key then some a.2 else none := by
  by_cases h : a.1 = key <;> simp [get?, h]

theorem get?_append_singleton (p : Properties) (a : String × String) (key : String) :
    get? (p ++ [a]) key = if a.1 = key then some a.2 else p.get? key := by
  rw [get?_append, get?_singleton]
  split <;> rfl

theorem get?_ne_none_iff : p.get? key ≠ none ↔ key ∈ p.map Prod.fst := by
  simp [get?]

theorem mem_of_get? (h : p.get? key = some value) : (key, value) ∈ p := by
  obtain ⟨found, hfound, rfl⟩ := Option.map_eq_some_iff.1 h
  obtain rfl : found.1 = key := by simpa using List.find?_some hfound
  exact List.mem_reverse.1 (List.mem_of_find?_eq_some hfound)

/-- A key that is assigned once has the value that it is assigned. -/
theorem get?_of_mem (hnodup : (p.map Prod.fst).Nodup) (h : (key, value) ∈ p) :
    p.get? key = some value := by
  have hassigned : key ∈ p.map Prod.fst := List.mem_map_of_mem h
  obtain ⟨other, hother⟩ := Option.ne_none_iff_exists'.1 (get?_ne_none_iff.2 hassigned)
  have hsame := List.inj_on_of_nodup_map hnodup (mem_of_get? hother) h rfl
  rw [hother, (Prod.mk.inj hsame).2]

/-- An assignment counts for nothing if its key is assigned again further on. -/
theorem get?_overwritten {later : Properties} (h : a.1 ∈ later.map Prod.fst) (p : Properties)
    (key : String) : get? (p ++ a :: later) key = get? (p ++ later) key := by
  have hsplit : p ++ a :: later = p ++ [a] ++ later := by simp
  rw [hsplit, get?_append (p ++ [a]), get?_append_singleton, get?_append p]
  split
  · next hkey =>
    obtain ⟨value, hvalue⟩ := Option.ne_none_iff_exists'.1 (get?_ne_none_iff.2 (hkey ▸ h))
    rw [hvalue]
    rfl
  · rfl

theorem get?_of_reassigned {after : List (List Char)} {later : List Char}
    (hkey : HasKey line key) (hmem : later ∈ after) (hlater : Assigns later key)
    (before : List (List Char)) (other : String) :
    get? ((before ++ line :: after).filterMap ofLine?) other =
      get? ((before ++ after).filterMap ofLine?) other := by
  obtain ⟨value, hvalue⟩ := hlater.exists_value
  have hassigned : key ∈ (after.filterMap ofLine?).map Prod.fst :=
    List.mem_map_of_mem (List.mem_filterMap.2 ⟨later, hmem, hvalue⟩)
  rw [List.filterMap_append, List.filterMap_append]
  cases hline : ofLine? line with
  | none => rw [List.filterMap_cons_none hline]
  | some a =>
    obtain rfl := hkey.eq_of_ofLine? hline
    rw [List.filterMap_cons_some hline, get?_overwritten hassigned]

def synonymKeyOf (name : String) : String := "indexSynonym." ++ name

theorem toList_synonymKeyOf (name : String) :
    (synonymKeyOf name).toList = synonymKey ++ name.toList :=
  String.toList_append

theorem aliasOf?_eq_some : aliasOf? key = some name ↔ key = synonymKeyOf name := by
  rw [← String.toList_inj, toList_synonymKeyOf, aliasOf?]
  generalize synonymKey = front
  generalize key.toList = cs
  constructor
  · intro h
    obtain ⟨hfront, hname⟩ := Option.ite_none_right_eq_some.1 h
    obtain ⟨rest, rfl⟩ := List.isPrefixOf_iff_prefix.1 hfront
    simp [← Option.some.inj hname]
  · rintro rfl
    simp

theorem synonyms_append_singleton (p : Properties) (a : String × String) :
    (settings (p ++ [a])).synonyms = assignSynonym p.settings.synonyms a := by
  simp [settings]

/-- A synonym is made of the last value of its key. -/
theorem mem_synonyms : entry ∈ p.settings.synonyms.entries ↔
    ∃ value, p.get? (synonymKeyOf entry.1) = some value ∧ names value = entry.2 := by
  induction p using List.reverseRecOn with
  | nil => simp [settings, Synonyms.empty, get?]
  | append_singleton p a ih =>
    rw [synonyms_append_singleton, get?_append_singleton, assignSynonym]
    cases halias : aliasOf? a.1 with
    | none =>
      have hkey : a.1 ≠ synonymKeyOf entry.1 := fun hkey => by
        simp [aliasOf?_eq_some.2 hkey] at halias
      rw [if_neg hkey]
      exact ih
    | some name =>
      have hkey : a.1 = synonymKeyOf entry.1 ↔ entry.1 = name := by
        rw [← aliasOf?_eq_some, halias, Option.some.injEq, eq_comm]
      rw [Synonyms.mem_assign, Prod.ext_iff]
      by_cases hname : entry.1 = name
      · rw [if_pos (hkey.2 hname)]
        simp [hname, eq_comm]
      · rw [if_neg (fun h => hname (hkey.1 h))]
        simpa [hname] using ih

def suffixKey : Variant → String
  | .exact => "exactSuffix"
  | .present => "isSetSuffix"
  | .sort => "sortSuffix"
  | .stemmed => "stemmedSuffix"
  | .facet => "facetSuffix"
  | .stored => "storedSuffix"

theorem suffixes_get (p : Properties) (v : Variant) :
    p.suffixes.get v = (p.get? (suffixKey v)).map Text.trim := by
  cases v <;> rfl

/-- Settings depend only on the value that each key has in the end. -/
theorem settings_congr (h : ∀ key, p.get? key = q.get? key) : p.settings = q.settings := by
  have hsuffixes : p.suffixes = q.suffixes := by simp only [suffixes, h]
  have hsynonyms : p.settings.synonyms = q.settings.synonyms :=
    Synonyms.eq_of_mem_iff fun entry => by rw [mem_synonyms, mem_synonyms, h]
  simp only [settings] at hsynonyms ⊢
  rw [hsuffixes, hsynonyms, h]

end SearchRetrieve.Properties
