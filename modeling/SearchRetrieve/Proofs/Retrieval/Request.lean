import SearchRetrieve.Proofs.Text.Percent
import SearchRetrieve.Retrieval.Request

/-!
# What a URL asks for

No encoded value holds an ampersand, so the parameters of a request can be told apart in its URL.
In particular a URL tells with which record the page is to begin.
-/
namespace SearchRetrieve

theorem Text.toString_injective {m n : Nat} (h : toString m = toString n) : m = n := by
  have hvalue (k : Nat) : Nat.ofDigitChars 10 (toString k).toList 0 = k := by simp
  rw [← hvalue m, h, hvalue n]

namespace Search

variable {s : Search} {c c' : Cursor} {continuing continuing' : Bool} {url : String} {m n : Nat}
  {p : String × String} {ch : Char}

theorem mem_parameterName (hp : p ∈ s.parameters c continuing) (hch : ch ∈ p.1.toList) :
    Text.isUnreserved ch = true := by
  have hnames : p.1 ∈ ["query", "version", "operation", "maximumRecords", "startRecord",
      "recordSchema", "recordPacking", "resultSetTTL", "sortKeys"] := by
    simp only [parameters, List.mem_append, List.mem_cons, List.not_mem_nil, or_false,
      Option.mem_toList, Option.map_eq_some_iff] at hp
    simp only [List.mem_cons, List.not_mem_nil, or_false]
    rcases hp with ((((rfl | rfl | rfl | rfl | rfl) | ⟨_, _, rfl⟩) | rfl) | ⟨_, _, rfl⟩) |
      ⟨_, _, rfl⟩ <;> simp
  have hplain : ["query", "version", "operation", "maximumRecords", "startRecord",
      "recordSchema", "recordPacking", "resultSetTTL", "sortKeys"].all
        (fun name => name.toList.all Text.isUnreserved) = true := by decide
  have hname := List.all_eq_true.1 hplain p.1 hnames
  exact List.all_eq_true.1 hname ch hch

theorem mem_parameterText (hp : p ∈ s.parameters c continuing)
    (hch : ch ∈ (parameterText p).toList) :
    Text.isUnreserved ch = true ∨ ch = '%' ∨ ch = '=' := by
  simp only [parameterText, String.toList_append, List.mem_append] at hch
  rcases hch with (hname | hequals) | hvalue
  · exact Or.inl (mem_parameterName hp hname)
  · exact Or.inr (Or.inr (by simpa using hequals))
  · exact (Text.mem_percentEncoded hvalue).imp_right Or.inl

/-- The parameters of a request are the parts of its text between the ampersands. -/
theorem splitOn_parameterTexts (s : Search) (c : Cursor) (continuing : Bool) :
    (String.intercalate "&" ((s.parameters c continuing).map parameterText)).toList.splitOn '&' =
      ((s.parameters c continuing).map parameterText).map String.toList := by
  rw [String.toList_intercalate]
  apply List.splitOn_intercalate
  · simp only [List.map_map, List.mem_map]
    rintro text ⟨p, hp, rfl⟩
    exact fun hch => absurd (mem_parameterText hp hch) (by decide)
  · simp [parameters]

/-- Requests with the same URL have the same parameters. -/
theorem parameterTexts_eq (h : s.url c continuing = s.url c' continuing') :
    (s.parameters c continuing).map parameterText =
      (s.parameters c' continuing').map parameterText := by
  have hquery : String.intercalate "&" ((s.parameters c continuing).map parameterText) =
      String.intercalate "&" ((s.parameters c' continuing').map parameterText) := by
    simpa [Search.url] using h
  have htexts := congrArg (fun text => text.toList.splitOn '&') hquery
  simp only [splitOn_parameterTexts] at htexts
  exact (List.map_inj_right fun _ _ h => String.toList_injective h).1 htexts

/-- A request of the search for a page that begins with the record of this number. -/
def AsksFor (s : Search) (url : String) (number : Nat) : Prop :=
  ∃ c continuing, url = s.url c continuing ∧ c.startRecord = number

/-- A URL asks for one page only. -/
theorem asksFor_unique (hm : s.AsksFor url m) (hn : s.AsksFor url n) : m = n := by
  obtain ⟨c, continuing, rfl, rfl⟩ := hm
  obtain ⟨c', continuing', h, rfl⟩ := hn
  have htexts := parameterTexts_eq h
  simp only [parameters, List.cons_append, List.nil_append, List.map_cons, List.cons.injEq]
    at htexts
  obtain ⟨-, -, -, -, hstart, -⟩ := htexts
  simp only [parameterText, Text.percentEncoded_toString] at hstart
  exact Text.toString_injective ((String.append_right_inj _).1 hstart)

end Search

end SearchRetrieve
