import SearchRetrieve.Proofs.Fallible
import SearchRetrieve.Proofs.Text.Words
import SearchRetrieve.Sort.Key

/-!
# Sort keys read back

The text of a sort key reads back as the key exactly if the key is well formed, and all keys that
are read are. No shorter list of components reads as the same key: a component is written only if
it, or one behind it, differs from what is taken where none is written.
-/
namespace SearchRetrieve

namespace MissingValue

def reserved : List String := ["highValue", "lowValue", "omit", "abort"]

theorem ofText_of_not_reserved {text : String} (h : text ∉ reserved) :
    ofText text = .value text := by
  simp only [reserved, List.mem_cons, List.not_mem_nil, or_false, not_or] at h
  obtain ⟨hhigh, hlow, homit, habort⟩ := h
  unfold ofText
  split <;> simp_all

theorem text_ofText (text : String) : (ofText text).text = text := by
  by_cases h : text ∈ reserved
  · have hwords : ∀ word ∈ reserved, (ofText word).text = word := by decide
    exact hwords text h
  · rw [ofText_of_not_reserved h]
    rfl

theorem ofText_eq_value {text value : String} :
    ofText text = .value value ↔ text = value ∧ value ∉ reserved := by
  by_cases h : text ∈ reserved
  · have hwords : ∀ word ∈ reserved, ∀ value, ofText word ≠ .value value := by
      simp [reserved, ofText]
    refine iff_of_false (hwords text h value) ?_
    rintro ⟨rfl, hvalue⟩
    exact hvalue h
  · rw [ofText_of_not_reserved h]
    constructor
    · intro hvalue
      cases hvalue
      exact ⟨rfl, h⟩
    · rintro ⟨rfl, -⟩
      rfl

/-- Every missing value but an ill formed one has a text of its own. -/
theorem ofText_text {m : MissingValue} (h : ∀ value, m = .value value → value ∉ reserved) :
    ofText m.text = m := by
  cases m with
  | value value => exact ofText_of_not_reserved (h value rfl)
  | _ => rfl

end MissingValue

namespace SortKey

variable {k : SortKey} {text part : String} {parts : List String} {i : Nat}

/-- The key can be written: no comma is in its texts, those that are given are not empty, no white
space would be cut off the path, and no reserved word stands for itself as a value. -/
structure WellFormed (k : SortKey) : Prop where
  path_ne : k.path ≠ ""
  path_comma : ',' ∉ k.path.toList
  path_trimmed : Text.IsTrimmed k.path
  schema : ∀ schema, k.schema = some schema → schema ≠ "" ∧ ',' ∉ schema.toList
  value : ∀ value, k.missingValue = .value value →
    value ≠ "" ∧ ',' ∉ value.toList ∧ value ∉ MissingValue.reserved

theorem component?_eq_some :
    component? parts i = some part ↔ parts[i]? = some part ∧ part ≠ "" := by
  unfold component?
  split
  · next hempty =>
    refine iff_of_false (by simp) ?_
    rintro ⟨hpart, hne⟩
    rw [hempty] at hpart
    exact hne (Option.some.inj hpart).symm
  · next hne =>
    refine ⟨fun h => ⟨h, ?_⟩, And.left⟩
    rintro rfl
    exact hne h

theorem mem_of_component? (h : component? parts i = some part) : part ∈ parts ∧ part ≠ "" :=
  have ⟨hpart, hne⟩ := component?_eq_some.1 h
  ⟨List.mem_of_getElem? hpart, hne⟩

theorem lt_length_of_component? (h : component? parts i ≠ none) : i < parts.length := by
  obtain ⟨part, hpart⟩ := Option.ne_none_iff_exists'.1 h
  exact (List.getElem?_eq_some_iff.1 (component?_eq_some.1 hpart).1).1

theorem component?_take (n : Nat) :
    component? (parts.take n) i = if i < n then component? parts i else none := by
  unfold component?
  rw [List.getElem?_take]
  by_cases hi : i < n <;> simp [hi]

theorem ofParts_eq_ok : ofParts text parts = .ok k ↔
    parts.length ≤ 5 ∧ Text.trim (parts.headD "") ≠ "" ∧
      k.path = Text.trim (parts.headD "") ∧ k.schema = component? parts 1 ∧
      readFlag "ascending" true (component? parts 2) = .ok k.ascending ∧
      readFlag "caseSensitive" false (component? parts 3) = .ok k.caseSensitive ∧
      k.missingValue = ((component? parts 4).map MissingValue.ofText).getD .highValue := by
  unfold ofParts
  by_cases hlength : parts.length > 5
  · rw [if_pos hlength]
    exact iff_of_false nofun fun h => absurd h.1 (Nat.not_le_of_gt hlength)
  by_cases hpath : Text.trim (parts.headD "") = ""
  · rw [if_neg hlength, if_pos hpath]
    exact iff_of_false nofun fun h => h.2.1 hpath
  rw [if_neg hlength, if_neg hpath]
  constructor
  · intro h
    obtain ⟨ascending, hascending, h⟩ := ok_of_bind h
    obtain ⟨caseSensitive, hcase, h⟩ := ok_of_bind h
    cases h
    exact ⟨Nat.le_of_not_gt hlength, hpath, rfl, rfl, hascending, hcase, rfl⟩
  · rintro ⟨-, -, hkey, hschema, hascending, hcase, hmissing⟩
    rw [hascending, ok_bind, hcase, ok_bind, ← hkey, ← hschema, ← hmissing]
    rfl

theorem parse_eq_ok : parse text = .ok k ↔ ofParts text (Text.splitAt ',' text) = .ok k := Iff.rfl

theorem readFlag_flagText (name : String) (default flag : Bool) :
    readFlag name default (some (flagText flag)) = .ok flag := by
  cases flag <;> rfl

def allComponents (k : SortKey) : List String :=
  [k.path, k.schema.getD "", flagText k.ascending, flagText k.caseSensitive, k.missingValue.text]

/-- The components that are written. -/
def components (k : SortKey) : List String := k.allComponents.take k.componentCount

theorem text_eq (k : SortKey) : k.text = String.intercalate "," k.components := rfl

/-- A component is written if it is not the one that is taken where none is written. -/
theorem lt_componentCount (k : SortKey) :
    0 < k.componentCount ∧ k.componentCount ≤ 5 ∧ (k.schema ≠ none → 1 < k.componentCount) ∧
      (k.ascending = false → 2 < k.componentCount) ∧
      (k.caseSensitive = true → 3 < k.componentCount) ∧
      (k.missingValue ≠ .highValue → 4 < k.componentCount) := by
  unfold componentCount
  split
  · simp
  · next hmissing =>
    split
    · simp [hmissing]
    · next hcase =>
      split
      · simp [hmissing, hcase]
      · next hascending =>
        split <;> simp_all

theorem components_length (k : SortKey) : k.components.length = k.componentCount := by
  have hle := (lt_componentCount k).2.1
  simp [components, allComponents, hle]

theorem headD_components (k : SortKey) : k.components.headD "" = k.path := by
  obtain ⟨n, hn⟩ := Nat.exists_eq_succ_of_ne_zero (Nat.ne_of_gt (lt_componentCount k).1)
  rw [components, hn]
  rfl

theorem component?_components (k : SortKey) (i : Nat) : component? k.components i =
    if i < k.componentCount then component? k.allComponents i else none :=
  component?_take _

theorem component?_flag (flag : Bool) (hi : k.allComponents[i]? = some (flagText flag)) :
    component? k.allComponents i = some (flagText flag) :=
  component?_eq_some.2 ⟨hi, by cases flag <;> decide⟩

/-- A flag reads back if it is written wherever it is not the default. -/
theorem readFlag_components (name : String) (default flag : Bool)
    (hi : k.allComponents[i]? = some (flagText flag))
    (hcount : flag ≠ default → i < k.componentCount) :
    readFlag name default (component? k.components i) = .ok flag := by
  rw [component?_components, component?_flag flag hi]
  split
  · exact readFlag_flagText _ _ _
  · next hleft =>
    obtain rfl : flag = default := by
      by_contra hne
      exact hleft (hcount hne)
    rfl

theorem readFlag_ascending (k : SortKey) :
    readFlag "ascending" true (component? k.components 2) = .ok k.ascending :=
  readFlag_components _ _ _ rfl fun hne =>
    (lt_componentCount k).2.2.2.1 (by simpa using hne)

theorem readFlag_caseSensitive (k : SortKey) :
    readFlag "caseSensitive" false (component? k.components 3) = .ok k.caseSensitive :=
  readFlag_components _ _ _ rfl fun hne =>
    (lt_componentCount k).2.2.2.2.1 (by simpa using hne)

namespace WellFormed

variable (h : k.WellFormed)

include h

theorem comma_not_mem : ∀ part ∈ k.components, ',' ∉ part.toList := by
  intro part hpart
  have hall : part ∈ k.allComponents := List.mem_of_mem_take hpart
  have hflag (flag : Bool) : ',' ∉ (flagText flag).toList := by cases flag <;> decide
  simp only [allComponents, List.mem_cons, List.not_mem_nil, or_false] at hall
  rcases hall with rfl | rfl | rfl | rfl | rfl
  · exact h.path_comma
  · cases hschema : k.schema with
    | none => simp
    | some schema => exact (h.schema schema hschema).2
  · exact hflag _
  · exact hflag _
  · cases hmissing : k.missingValue with
    | value value => exact (h.value value hmissing).2.1
    | _ => decide

theorem splitAt_text : Text.splitAt ',' k.text = k.components := by
  have hne : k.components ≠ [] := by
    rw [← List.length_pos_iff, components_length]
    exact (lt_componentCount k).1
  exact Text.splitAt_intercalate rfl hne h.comma_not_mem

theorem component?_schema : component? k.components 1 = k.schema := by
  rw [component?_components]
  cases hschema : k.schema with
  | none =>
    have hempty : component? k.allComponents 1 = none := by
      simp [allComponents, component?, hschema]
    rw [hempty, ite_self]
  | some schema =>
    have hwritten : component? k.allComponents 1 = some schema :=
      component?_eq_some.2 ⟨by simp [allComponents, hschema], (h.schema schema hschema).1⟩
    rw [if_pos ((lt_componentCount k).2.2.1 (by simp [hschema])), hwritten]

theorem text_missingValue_ne : k.missingValue.text ≠ "" := by
  cases hmissing : k.missingValue with
  | value value => exact (h.value value hmissing).1
  | _ => decide

theorem component?_missingValue :
    ((component? k.components 4).map MissingValue.ofText).getD .highValue = k.missingValue := by
  have hwritten : component? k.allComponents 4 = some k.missingValue.text :=
    component?_eq_some.2 ⟨rfl, h.text_missingValue_ne⟩
  rw [component?_components, hwritten]
  split
  · exact MissingValue.ofText_text fun value hvalue => (h.value value hvalue).2.2
  · next hcount =>
    by_contra hmissing
    exact hcount ((lt_componentCount k).2.2.2.2.2 (Ne.symm hmissing))

theorem parse_text : parse k.text = .ok k := by
  have htrim : Text.trim (k.components.headD "") = k.path := by
    rw [headD_components]
    exact Text.trim_eq_self_iff.2 h.path_trimmed
  rw [parse_eq_ok, h.splitAt_text]
  refine ofParts_eq_ok.2 ⟨?_, ?_, htrim.symm, h.component?_schema.symm, readFlag_ascending k,
    readFlag_caseSensitive k, h.component?_missingValue.symm⟩
  · rw [components_length]
    exact (lt_componentCount k).2.1
  · rw [htrim]
    exact h.path_ne

end WellFormed

/-- The characters of a key are those of the pieces of the text, or of words for what is left
out. -/
theorem allComponents_of_parse {p : Char → Bool} (h : parse text = .ok k)
    (hpieces : ∀ piece ∈ Text.splitAt ',' text, ∀ c ∈ piece.toList, p c = true)
    (hwords : ["0", "1", "highValue"].all (fun word => word.toList.all p) = true) :
    ∀ part ∈ k.allComponents, ∀ c ∈ part.toList, p c = true := by
  obtain ⟨-, -, hpath, hschema, -, -, hmissing⟩ := ofParts_eq_ok.1 (parse_eq_ok.1 h)
  simp only [List.all_eq_true] at hwords
  have hflag (flag : Bool) : ∀ c ∈ (flagText flag).toList, p c = true := by
    cases flag <;> exact hwords _ (by decide)
  intro part hpart
  simp only [allComponents, List.mem_cons, List.not_mem_nil, or_false] at hpart
  rcases hpart with rfl | rfl | rfl | rfl | rfl
  · intro c hc
    rw [hpath] at hc
    cases hparts : Text.splitAt ',' text with
    | nil => simp [hparts, Text.trim, Text.trimChars_eq] at hc
    | cons first others =>
      rw [hparts] at hc hpieces
      exact hpieces first List.mem_cons_self c (Text.mem_of_mem_trim hc)
  · cases hpart : component? (Text.splitAt ',' text) 1 with
    | none => simp [hschema, hpart]
    | some part =>
      rw [hschema, hpart]
      exact hpieces part (mem_of_component? hpart).1
  · exact hflag _
  · exact hflag _
  · cases hpart : component? (Text.splitAt ',' text) 4 with
    | none =>
      rw [hmissing, hpart]
      exact hwords _ (by decide)
    | some part =>
      rw [hmissing, hpart, Option.map_some, Option.getD_some, MissingValue.text_ofText]
      exact hpieces part (mem_of_component? hpart).1

theorem wellFormed_of_parse (h : parse text = .ok k) : k.WellFormed := by
  obtain ⟨-, hne, hpath, hschema, -, -, hmissing⟩ := ofParts_eq_ok.1 (parse_eq_ok.1 h)
  have hpieces : ∀ piece ∈ Text.splitAt ',' text, ∀ c ∈ piece.toList, (c != ',') = true := by
    intro piece hpiece c hc
    rw [bne_iff_ne]
    rintro rfl
    exact Text.not_mem_of_mem_splitAt hpiece hc
  have hcomma : ∀ part ∈ k.allComponents, ',' ∉ part.toList := fun part hpart hc =>
    bne_iff_ne.1 (allComponents_of_parse h hpieces (by decide) part hpart ',' hc) rfl
  constructor
  · rwa [hpath]
  · exact hcomma k.path (by simp [allComponents])
  · rw [hpath, ← Text.trim_eq_self_iff]
    exact Text.trim_trim _
  · intro schema hsome
    have hwritten : schema ∈ k.allComponents := by simp [allComponents, hsome]
    exact ⟨(mem_of_component? (hschema.symm.trans hsome)).2, hcomma schema hwritten⟩
  · intro value hvalue
    have hwritten : value ∈ k.allComponents := by
      simp [allComponents, hvalue, MissingValue.text]
    cases hpart : component? (Text.splitAt ',' text) 4 with
    | none => simp [hpart, hvalue] at hmissing
    | some part =>
      rw [hpart, hvalue] at hmissing
      obtain ⟨rfl, hreserved⟩ := MissingValue.ofText_eq_value.1 hmissing.symm
      exact ⟨(mem_of_component? hpart).2, hcomma _ hwritten, hreserved⟩

theorem componentCount_le_of_parse (h : parse text = .ok k) :
    k.componentCount ≤ (Text.splitAt ',' text).length := by
  obtain ⟨-, hne, -, hschema, hascending, hcase, hmissing⟩ := ofParts_eq_ok.1 (parse_eq_ok.1 h)
  generalize Text.splitAt ',' text = parts at *
  unfold componentCount
  split
  · next hdiffers =>
    refine lt_length_of_component? (i := 4) fun hnone => hdiffers ?_
    rw [hmissing, hnone]
    rfl
  split
  · next hdiffers =>
    refine lt_length_of_component? (i := 3) fun hnone => ?_
    rw [hnone, hdiffers] at hcase
    exact absurd hcase nofun
  split
  · next hdiffers =>
    refine lt_length_of_component? (i := 2) fun hnone => ?_
    rw [hnone] at hascending
    have htrue : true = k.ascending := Except.ok.inj hascending
    simp [← htrue] at hdiffers
  split
  · next hdiffers =>
    refine lt_length_of_component? (i := 1) fun hnone => ?_
    simp [hschema, hnone] at hdiffers
  · cases parts with
    | nil => simp [Text.trim, Text.trimChars_eq] at hne
    | cons first others => simp

/-- A key reads back from its text exactly if it is well formed. Whatever is read as a key is well
formed, so that its own text is read as the same key, and this text has no more components than the
one that it was read from. -/
theorem text_reads_back_shortest (k : SortKey) :
    (parse k.text = .ok k ↔ k.WellFormed) ∧
      ∀ text, parse text = .ok k → k.WellFormed ∧ parse k.text = .ok k ∧
        (Text.splitAt ',' k.text).length ≤ (Text.splitAt ',' text).length := by
  refine ⟨⟨wellFormed_of_parse, WellFormed.parse_text⟩, fun text htext => ?_⟩
  have hkey := wellFormed_of_parse htext
  refine ⟨hkey, hkey.parse_text, ?_⟩
  rw [hkey.splitAt_text, components_length]
  exact componentCount_le_of_parse htext

/-- With a component in the middle that has to be written because of the one at the end. -/
theorem text_reads_back_shortest_date :
    let k : SortKey := ⟨"dc.date", none, false, false, .value "1900"⟩
    parse " dc.date ,,0,,1900" = .ok k ∧ k.text = "dc.date,,0,0,1900" ∧ k.WellFormed ∧
      parse k.text = .ok k ∧ parse (SortKey.text { k with schema := some "a,b" }) ≠ .ok
        { k with schema := some "a,b" } := by
  intro k
  have hread : parse " dc.date ,,0,,1900" = .ok k := by cbv
  obtain ⟨hkey, hback, -⟩ := (text_reads_back_shortest k).2 _ hread
  refine ⟨hread, by decide, hkey, hback, fun h => ?_⟩
  have hcomma := ((text_reads_back_shortest _).1.1 h).schema "a,b" rfl
  exact absurd hcomma.2 (by decide)

end SortKey

end SearchRetrieve
