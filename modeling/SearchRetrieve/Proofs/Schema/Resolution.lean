import SearchRetrieve.Schema.Basic

/-!
# Resolving an index

Every schema that is made of settings resolves an index to some field.
-/
namespace SearchRetrieve.Schema

/-- The schemas there are: of settings alone, and of settings with the names found in an index. -/
inductive Made : Schema → Prop
  | ofSettings (settings : SchemaSettings) : Made (ofSettings settings)
  | discover (settings : SchemaSettings) (catalogue : List String) :
    Made (discover settings catalogue)

theorem synonymOf?_ne_nil {entry made : String × List String}
    (h : synonymOf? entry = some made) : made.2 ≠ [] := by
  unfold synonymOf? at h
  split at h
  · cases h
  · next hfields =>
    cases h
    cases hlist : entry.2 with
    | nil => simp [hlist] at hfields
    | cons field fields => simp [List.eraseDups_cons]

theorem Made.synonyms_ne_nil {schema : Schema} (h : schema.Made) :
    ∀ entry ∈ schema.synonyms, entry.2 ≠ [] := by
  have hsynonyms : ∃ entries : List (String × List String),
      schema.synonyms = (entries.filterMap synonymOf?).reverse := by
    cases h with
    | ofSettings settings => exact ⟨settings.synonyms.entries, rfl⟩
    | discover settings catalogue => exact ⟨settings.synonyms.entries, rfl⟩
  obtain ⟨entries, hentries⟩ := hsynonyms
  intro made hmade
  rw [hentries, List.mem_reverse] at hmade
  obtain ⟨entry, -, hentry⟩ := List.mem_filterMap.1 hmade
  exact synonymOf?_ne_nil hentry

theorem Made.resolve_ne_nil {schema : Schema} (h : schema.Made) (index : String) :
    schema.resolve index ≠ [] := by
  unfold resolve
  split
  · next fields hlookup =>
    obtain ⟨before, after, hsynonyms, -⟩ := List.lookup_eq_some_iff.1 hlookup
    apply h.synonyms_ne_nil (Text.lower index, fields)
    simp [hsynonyms]
  · split
    · next hanywhere =>
      intro hnil
      simp [hnil] at hanywhere
    · simp

end SearchRetrieve.Schema
