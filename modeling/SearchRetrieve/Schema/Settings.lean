import SearchRetrieve.Schema.Variant

/-!
# Settings of a schema

What a deployment writes down about its fields. Synonyms are kept in the order of their aliases,
each alias once: an assignment puts its entry in the place of the alias.
-/
namespace SearchRetrieve

/-- Aliases and the fields that they stand for; aliases increase. -/
structure Synonyms where
  entries : List (String × List String)
  ordered : entries.Pairwise fun a b => a.1 < b.1
  deriving DecidableEq, Repr

namespace Synonyms

def empty : Synonyms := ⟨[], .nil⟩

def map {α : Type} (f : String × List String → α) (s : Synonyms) : List α := s.entries.map f

/-- Puts an entry into its place, or in the place of one with the same alias. -/
def place (name : String) (fields : List String) :
    List (String × List String) → List (String × List String)
  | [] => [(name, fields)]
  | entry :: rest =>
    if name < entry.1 then (name, fields) :: entry :: rest
    else if name = entry.1 then (name, fields) :: rest
    else entry :: place name fields rest

variable {name : String} {fields : List String} {entry : String × List String}
  {entries : List (String × List String)}

theorem eq_or_mem_of_mem_place (h : entry ∈ place name fields entries) :
    entry = (name, fields) ∨ entry ∈ entries := by
  induction entries with
  | nil => exact Or.inl (List.mem_singleton.1 h)
  | cons first rest ih =>
    unfold place at h
    split at h
    · exact List.mem_cons.1 h
    · split at h
      · exact (List.mem_cons.1 h).imp_right (List.mem_cons_of_mem _)
      · rcases List.mem_cons.1 h with rfl | hrest
        · exact Or.inr List.mem_cons_self
        · exact (ih hrest).imp_right (List.mem_cons_of_mem _)

theorem place_ordered (h : entries.Pairwise fun a b => a.1 < b.1) :
    (place name fields entries).Pairwise fun a b => a.1 < b.1 := by
  induction entries with
  | nil => exact List.pairwise_singleton _ _
  | cons first rest ih =>
    obtain ⟨hfirst, hrest⟩ := List.pairwise_cons.1 h
    unfold place
    split
    · next hlt =>
      refine List.pairwise_cons.2 ⟨fun other hother => ?_, h⟩
      rcases List.mem_cons.1 hother with rfl | hother
      · exact hlt
      · exact String.lt_trans hlt (hfirst other hother)
    · split
      · next heq =>
        exact List.pairwise_cons.2 ⟨fun other hother => heq ▸ hfirst other hother, hrest⟩
      · next hge hne =>
        refine List.pairwise_cons.2 ⟨fun other hother => ?_, ih hrest⟩
        rcases eq_or_mem_of_mem_place hother with rfl | hother
        · exact Std.lt_of_le_of_ne (String.not_lt.1 hge) (Ne.symm hne)
        · exact hfirst other hother

def assign (s : Synonyms) (name : String) (fields : List String) : Synonyms :=
  ⟨place name fields s.entries, place_ordered s.ordered⟩

end Synonyms

structure SchemaSettings where
  suffixes : Suffixes
  /-- The fields that an anywhere alias searches. -/
  fields : List String
  synonyms : Synonyms
  /-- The names that stand for all fields. -/
  anywhereAliases : List String
  deriving DecidableEq, Repr

namespace SchemaSettings

def standardAnywhereAliases : List String :=
  ["cql.anywhere", "cql.allIndexes", "cql.anyIndexes", "cql.serverChoice"]

def standard : SchemaSettings := ⟨.standard, [], .empty, standardAnywhereAliases⟩

def withField (s : SchemaSettings) (name : String) : SchemaSettings :=
  { s with fields := s.fields ++ [name] }

def withSynonym (s : SchemaSettings) (name : String) (fields : List String) : SchemaSettings :=
  { s with synonyms := s.synonyms.assign name fields }

end SchemaSettings

end SearchRetrieve
