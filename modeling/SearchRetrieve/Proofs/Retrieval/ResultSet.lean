import SearchRetrieve.Native.Compile
import SearchRetrieve.Proofs.Query.Lexing
import SearchRetrieve.Proofs.Query.Parsing
import SearchRetrieve.Retrieval.Request

/-!
# Result sets as queries

The query for a result set is one clause, which reads back as the identifier of the result set,
whatever characters this has. It asks nothing of the fields of a schema.
-/
namespace SearchRetrieve

open Grammar Token

theorem Query.escapeTerm_eq_flatMap (cs : List Char) :
    escapeTerm cs =
      cs.flatMap fun c => if c == '\\' || c == '"' then ['\\', c] else [c] := by
  induction cs with
  | nil => rfl
  | cons c cs ih =>
    rw [escapeTerm, List.flatMap_cons, ih]
    by_cases hquote : c = '"'
    · simp [hquote]
    · by_cases hbackslash : c = '\\'
      · simp [hbackslash]
      · simp [hquote, hbackslash]

theorem continuationQuery_eq (id : String) :
    continuationQuery id =
      "cql.resultSetId" ++ Comparator.equal.symbol ++ Query.quoteTerm id := by
  have hterm : Query.quoteTerm id =
      "\"" ++ String.ofList (Query.escapeTerm id.toList) ++ "\"" := by
    apply String.toList_injective
    simp [Query.quoteTerm]
  have hfront : "cql.resultSetId" ++ Comparator.equal.symbol ++ "\"" = "cql.resultSetId=\"" := by
    decide
  rw [hterm, Query.escapeTerm_eq_flatMap, ← String.append_assoc, ← String.append_assoc, hfront]
  rfl

theorem sequence_continuationQuery (id : String) :
    sequence (continuationQuery id).toList =
      ⟨[.word "cql.resultSetId", .comparator .equal, .quoted id], true⟩ := by
  have hindex : IsWord "cql.resultSetId" := by decide
  have hword :
      EndsWord (Comparator.equal.symbol.toList ++ ((Query.quoteTerm id).toList ++ [])) := by
    simp [EndsWord, Comparator.symbol, isWordChar, isDelimiter]
  have hcomparator : EndsComparator ((Query.quoteTerm id).toList ++ []) := by
    simp [EndsComparator, Query.quoteTerm]
  have htext : (continuationQuery id).toList =
      "cql.resultSetId".toList ++
        (Comparator.equal.symbol.toList ++ ((Query.quoteTerm id).toList ++ [])) := by
    simp [continuationQuery_eq]
  rw [htext, sequence_word hindex hword, sequence_comparator .equal hcomparator, sequence_quoted,
    sequence_nil]
  rfl

theorem parse_continuationQuery (id : String) :
    Query.parse (continuationQuery id) = .ok (.clause "cql.resultSetId" ⟨"=", []⟩ id) := by
  let d : QueryTree :=
    .operands (.search "cql.resultSetId" (.comparator .equal) [] (.quoted id)) .done
  exact Query.parse_eq_ok.2 ⟨d, sequence_continuationQuery id, rfl⟩

/-- A clause on the index of result sets says nothing to any schema, its synonyms included. -/
theorem Native.clauseText_resultSet (schema : Schema) (relation : Relation) (term : String) :
    clauseText schema "cql.resultSetId" relation term = "" := by
  have hindex : Text.sameIgnoringCase "cql.resultSetId" resultSetIndex = true := by decide
  rw [clauseText, if_pos hindex]

/-- The query that continues a result set is read as a clause for exactly its identifier, its
native query is empty over every schema, and no two result sets share it. -/
theorem continuationQuery_reads_back :
    (∀ id : String,
      Query.parse (continuationQuery id) = .ok (.clause "cql.resultSetId" ⟨"=", []⟩ id)) ∧
    (∀ (schema : Schema) (id : String),
      (Query.parse (continuationQuery id)).map (Query.native schema) = .ok "") ∧
    Function.Injective continuationQuery := by
  refine ⟨parse_continuationQuery, fun schema id => ?_, fun id id' hsame => ?_⟩
  · rw [parse_continuationQuery]
    exact congrArg Except.ok (Native.clauseText_resultSet schema ⟨"=", []⟩ id)
  · have hread := parse_continuationQuery id
    rw [hsame, parse_continuationQuery] at hread
    cases hread
    rfl

end SearchRetrieve
