import SearchRetrieve.Proofs.Fallible
import SearchRetrieve.Proofs.Retrieval.Request
import SearchRetrieve.Proofs.Text.Words

/-!
# Parameters of a URL

A server takes the text behind the base of a URL apart at the ampersands, each part at its first
equals sign, and decodes the values. What it reads are the parameters of the request, each with the
text that it was made from, whatever characters are in these texts.
-/
namespace SearchRetrieve

/-- A name and a value, which is in percent encoding behind the first equals sign. -/
def parameter? (text : List Char) : Option (String × String) :=
  match text.dropWhile (· ≠ '=') with
  | [] => none
  | _ :: value =>
    (Text.percentDecoded? value).map fun v => (String.ofList (text.takeWhile (· ≠ '=')), v)

def parameters? (text : String) : Option (List (String × String)) :=
  (text.toList.splitOn '&').mapM parameter?

theorem parameter?_parameterText {p : String × String} (h : '=' ∉ p.1.toList) :
    parameter? (Search.parameterText p).toList = some p := by
  have hname : ∀ ch ∈ p.1.toList, decide (ch ≠ '=') = true := by
    intro ch hch
    have hne : ch ≠ '=' := fun heq => h (heq ▸ hch)
    simpa using hne
  have htext : (Search.parameterText p).toList =
      p.1.toList ++ '=' :: (Text.percentEncoded p.2).toList := by
    simp [Search.parameterText]
  have hfront : (p.1.toList ++ '=' :: (Text.percentEncoded p.2).toList).takeWhile (· ≠ '=') =
      p.1.toList := by
    rw [List.takeWhile_append_of_pos hname]
    simp
  have hrest : (p.1.toList ++ '=' :: (Text.percentEncoded p.2).toList).dropWhile (· ≠ '=') =
      '=' :: (Text.percentEncoded p.2).toList := by
    rw [List.dropWhile_append_of_pos hname]
    simp
  rw [parameter?, htext, hrest]
  simp only [hfront, Text.percentDecoded?_percentEncoded, Option.map_some, String.ofList_toList]

namespace Search

/-- The parameters of a request are read from their texts as they are. -/
theorem parameters?_parameterTexts (s : Search) (c : Cursor) (continuing : Bool) :
    parameters? (String.intercalate "&" ((s.parameters c continuing).map parameterText)) =
      some (s.parameters c continuing) := by
  rw [parameters?, splitOn_parameterTexts, List.map_map]
  apply mapM_map_eq_pure
  intro p hp
  apply parameter?_parameterText
  exact fun hequals => absurd (mem_parameterName hp hequals) (by decide)

theorem mem_parameterTexts {s : Search} {c : Cursor} {continuing : Bool} {ch : Char}
    (h : ch ∈ (String.intercalate "&" ((s.parameters c continuing).map parameterText)).toList) :
    Text.isUnreserved ch = true ∨ ch = '%' ∨ ch = '&' ∨ ch = '=' := by
  rcases Text.mem_intercalate h with hbetween | ⟨text, htext, hch⟩
  · have hampersand : ch = '&' := by simpa using hbetween
    exact Or.inr (Or.inr (Or.inl hampersand))
  · obtain ⟨p, hp, rfl⟩ := List.mem_map.1 htext
    rcases mem_parameterText hp hch with hplain | hpercent | hequals
    · exact Or.inl hplain
    · exact Or.inr (Or.inl hpercent)
    · exact Or.inr (Or.inr (Or.inr hequals))

/-- A URL is the base, a separator that goes with it, and a text of unreserved characters, percent
signs, ampersands and equals signs. From this text a server reads the parameters of the request:
the query, or the one for the result set if it is known and to be continued with, and the settings
of the search in their order, each value as it was given. -/
theorem url_parameters (s : Search) (c : Cursor) (continuing : Bool)
    (hoffset : c.offset < UInt64.size - 1) :
    ∃ text, s.url c continuing =
        s.baseUrl ++ (if '?' ∈ s.baseUrl.toList then "&" else "?") ++ text ∧
      (∀ ch ∈ text.toList, ch.isAlphanum = true ∨ ch ∈ ['-', '_', '.', '~', '%', '&', '=']) ∧
      parameters? text = some
        ([("query", match c.resultSetId, continuing with
            | some id, true => continuationQuery id
            | _, _ => s.query),
          ("version", s.settings.version), ("operation", "searchRetrieve"),
          ("maximumRecords", toString c.pageSize), ("startRecord", toString (c.offset + 1))] ++
        s.recordSchema.toList.map (("recordSchema", ·)) ++
        [("recordPacking", s.settings.recordPacking)] ++
        s.settings.resultSetTtl.toList.map (fun ttl => ("resultSetTTL", toString ttl)) ++
        s.sortKeys.toList.map (("sortKeys", ·))) := by
  refine ⟨String.intercalate "&" ((s.parameters c continuing).map parameterText), ?_, ?_, ?_⟩
  · simp [url]
  · intro ch hch
    have hplain := mem_parameterTexts hch
    simp only [Text.isUnreserved, Bool.or_eq_true, beq_iff_eq, or_assoc] at hplain
    simpa only [List.mem_cons, List.not_mem_nil, or_false] using hplain
  · have hstart : c.startRecord = c.offset + 1 := Nat.mod_eq_of_lt (by omega)
    have hquery : s.queryAt c continuing = match c.resultSetId, continuing with
        | some id, true => continuationQuery id
        | _, _ => s.query := by
      unfold queryAt
      cases c.resultSetId <;> cases continuing <;> rfl
    rw [parameters?_parameterTexts, parameters, hstart, hquery]
    simp only [Option.toList_map]

/-- Values with separators, percent signs and characters beyond ASCII, on a page of a result set
whose identifier has them too. -/
theorem url_parameters_separators :
    let search : Search := ⟨"http://host/sru?x=1", "moon", some "a&b=c", some "título,,0 50%",
      ⟨25, "1.1", "x\ny", none⟩⟩
    let cursor : Cursor := ⟨some "é=\"&", 50, 10⟩
    ∃ text, search.url cursor true = "http://host/sru?x=1" ++ "&" ++ text ∧
      parameters? text = some
        [("query", "cql.resultSetId=\"é=\\\"&\""), ("version", "1.1"),
          ("operation", "searchRetrieve"), ("maximumRecords", "10"), ("startRecord", "51"),
          ("recordSchema", "a&b=c"), ("recordPacking", "x\ny"),
          ("sortKeys", "título,,0 50%")] := by
  intro search cursor
  have hoffset : cursor.offset < UInt64.size - 1 := by decide
  have hbase : '?' ∈ search.baseUrl.toList := by decide
  obtain ⟨text, hurl, -, hparameters⟩ := url_parameters search cursor true hoffset
  rw [if_pos hbase] at hurl
  refine ⟨text, hurl, hparameters.trans ?_⟩
  decide +kernel

end Search

end SearchRetrieve
