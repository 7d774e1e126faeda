import Mathlib.Data.List.DropRight
import SearchRetrieve.Native.Compile
import SearchRetrieve.Proofs.Native.Reading
import SearchRetrieve.Proofs.Text.Words

/-!
# Field names in native queries

White space in a value is kept inside a phrase, but white space in a field name stands as it is.
It ends the clause that was meant: the words before the last white space are read on their own, as
operators or as terms in no field, and only what is after it is read as the field.
-/
namespace SearchRetrieve.Native

/-- What stands in a native text, one lexeme after another. -/
def lexemesOf? (text : String) : Option (List Lexeme) := (marks? text.toList).bind lexemes?

theorem lexemesOf?_eq {text : String} {ms : List Mark} (h : GivesMarks text.toList ms) :
    lexemesOf? text = lexemes? ms := by
  have hmarks := h []
  rw [List.append_nil] at hmarks
  simp [lexemesOf?, hmarks, marks?]

variable {c : Char}

theorem isBlank_of_isReserved (h : isReserved c = true) : Text.isBlank c = false := by
  have hall : reserved.all (fun c => !Text.isBlank c) = true := by decide
  have hc := List.all_eq_true.1 hall c (by simpa [isReserved] using h)
  simpa using hc

theorem escapedMark_isSpace (c : Char) : (escapedMark c).isSpace = Text.isBlank c := by
  cases hc : isReserved c with
  | true => simp [escapedMark, Mark.isSpace, hc, isBlank_of_isReserved hc]
  | false => simp [escapedMark, Mark.isSpace, hc]

theorem escapedMark_isOrdinary (c : Char) :
    (escapedMark c).isOrdinary = !Text.isBlank c := by
  cases hc : isReserved c with
  | true => simp [escapedMark, Mark.isOrdinary, hc, isBlank_of_isReserved hc]
  | false =>
    have hspecial : c ∉ ['(', ')', '[', ']', '"', ':'] := by
      intro hmem
      have hreserved := List.all_eq_true.1 Spells.special_isReserved c hmem
      simp [hc] at hreserved
    simp only [escapedMark, Mark.isOrdinary, hc, Bool.false_or, List.contains_eq_mem,
      decide_eq_false hspecial, Bool.or_false]

/-- A word that stands alone: an operator, or a term in no field. -/
def Lexeme.ofWord (word : String) : Lexeme :=
  if word = "AND" then .operator .and
  else if word = "OR" then .operator .or
  else if word = "NOT" then .operator .not
  else .term none (.word word)

theorem map_escapedMark_eq_iff (word : List Char) {op : String}
    (hop : op.toList.all (fun c => !isReserved c) = true) :
    word.map escapedMark = op.toList.map plain ↔ String.ofList word = op := by
  have hmarks : op.toList.map escapedMark = op.toList.map plain := by
    apply List.map_congr_left
    intro c hc
    have hplain := List.all_eq_true.1 hop c hc
    simpa [escapedMark, plain] using hplain
  have hinjective : Function.Injective escapedMark := fun a b hab => congrArg Mark.char hab
  rw [← hmarks, List.map_inj_right hinjective, ← String.toList_inj, String.toList_ofList]

theorem wordLexeme_escaped (word : List Char) :
    wordLexeme (word.map escapedMark) = Lexeme.ofWord (String.ofList word) := by
  have htext : textOf (word.map escapedMark) = String.ofList word := (spells_map word).1
  have hand : word.map escapedMark = "AND".toList.map plain ↔ String.ofList word = "AND" :=
    map_escapedMark_eq_iff word (by decide)
  have hor : word.map escapedMark = "OR".toList.map plain ↔ String.ofList word = "OR" :=
    map_escapedMark_eq_iff word (by decide)
  have hnot : word.map escapedMark = "NOT".toList.map plain ↔ String.ofList word = "NOT" :=
    map_escapedMark_eq_iff word (by decide)
  simp only [wordLexeme, Lexeme.ofWord, hand, hor, hnot, htext]

/-- Nothing but a colon makes a word the name of a field. -/
theorem afterWord?_alone {word rest : List Mark} (h : ∀ m ∈ rest.head?, m ≠ plain ':') :
    afterWord? word rest = some (wordLexeme word, rest) := by
  unfold afterWord?
  split
  · exact (h _ rfl rfl).elim
  · rfl

theorem lexemes?_word {word : List Char} (hne : word ≠ []) (hword : Text.hasBlank word = false)
    {b : Char} (hb : Text.isBlank b = true) (rest : List Mark) :
    lexemes? (word.map escapedMark ++ escapedMark b :: rest) =
      (lexemes? rest).map (Lexeme.ofWord (String.ofList word) :: ·) := by
  have hrun : ∀ m ∈ word.map escapedMark, m.isOrdinary = true := by
    have hplain : ∀ c ∈ word, Text.isBlank c = false := by simpa [Text.hasBlank] using hword
    intro m hm
    obtain ⟨c, hc, rfl⟩ := List.mem_map.1 hm
    simp [escapedMark_isOrdinary, hplain c hc]
  have hspace : (escapedMark b).isSpace = true := by rw [escapedMark_isSpace, hb]
  have hend : ∀ m ∈ (escapedMark b :: rest).head?, m.isOrdinary = false := by
    rintro m ⟨rfl⟩
    simp [escapedMark_isOrdinary, hb]
  have halone : ∀ m ∈ (escapedMark b :: rest).head?, m ≠ plain ':' := by
    rintro m ⟨rfl⟩ hcolon
    rw [hcolon] at hspace
    exact absurd hspace (by decide)
  cases word with
  | nil => exact (hne rfl).elim
  | cons c word =>
    have hlexeme : lexemeFrom? (escapedMark c) (word.map escapedMark ++ escapedMark b :: rest) =
        some (Lexeme.ofWord (String.ofList (c :: word)), escapedMark b :: rest) := by
      rw [lexemeFrom?_run hrun hend, afterWord?_alone halone, ← List.map_cons, wordLexeme_escaped]
    calc lexemes? (escapedMark c :: (word.map escapedMark ++ escapedMark b :: rest))
        = (lexemes? (escapedMark b :: rest)).map
            (Lexeme.ofWord (String.ofList (c :: word)) :: ·) :=
          lexemes?_cons (ordinary_not_isSpace (hrun _ (by simp))) hlexeme
      _ = (lexemes? rest).map (Lexeme.ofWord (String.ofList (c :: word)) :: ·) := by
          rw [lexemes?_space hspace]

def EndsBlank (cs : List Char) : Prop := ∀ c ∈ cs.getLast?, Text.isBlank c = true

theorem EndsBlank.tail {b : Char} {cs : List Char} (h : EndsBlank (b :: cs)) : EndsBlank cs := by
  intro c hc
  cases cs with
  | nil => simp at hc
  | cons d cs => exact h c (by simpa using hc)

/-- Text that ends with white space begins with a run without it, which may be empty. -/
theorem EndsBlank.exists_word {cs : List Char} (h : EndsBlank cs) (hne : cs ≠ []) :
    ∃ word b rest, cs = word ++ b :: rest ∧ Text.hasBlank word = false ∧
      Text.isBlank b = true ∧ EndsBlank rest := by
  induction cs with
  | nil => exact (hne rfl).elim
  | cons c cs ih =>
    cases hc : Text.isBlank c with
    | true => exact ⟨[], c, cs, rfl, rfl, hc, h.tail⟩
    | false =>
      have hcs : cs ≠ [] := by
        rintro rfl
        simpa [hc] using h c rfl
      obtain ⟨word, b, rest, rfl, hword, hb, hrest⟩ := ih h.tail hcs
      refine ⟨c :: word, b, rest, rfl, ?_, hb, hrest⟩
      simpa [Text.hasBlank, hc] using hword

theorem lexemes?_front {front : List Char} (h : EndsBlank front) (rest : List Mark) :
    lexemes? (front.map escapedMark ++ rest) = (lexemes? rest).map
      (((Text.wordsChars front).map String.ofList).map Lexeme.ofWord ++ ·) := by
  -- on the number of characters: each round takes a word and the blank after it
  induction hlength : front.length using Nat.strong_induction_on generalizing front with
  | _ n ih =>
  by_cases hne : front = []
  · subst hne
    cases hrest : lexemes? rest <;> simp [Text.wordsChars, hrest]
  obtain ⟨word, b, later, rfl, hword, hb, hlater⟩ := h.exists_word hne
  have hshort : later.length < n := by
    simp only [List.length_append, List.length_cons] at hlength
    omega
  have hread := ih _ hshort hlater rfl
  rw [List.map_append, List.map_cons, List.append_assoc, List.cons_append]
  by_cases hempty : word = []
  · have hspace : (escapedMark b).isSpace = true := by rw [escapedMark_isSpace, hb]
    subst hempty
    rw [List.nil_append, Text.wordsChars_blank hb]
    exact (lexemes?_space hspace _).trans hread
  · rw [lexemes?_word hempty hword hb, hread, Text.wordsChars_append hempty hword hb,
      Option.map_map]
    rfl

/-- A colon that no name stands before cannot be read. -/
theorem lexemes?_colon (rest : List Mark) : lexemes? (plain ':' :: rest) = none := by
  have hlexeme : lexemeFrom? (plain ':') rest = none := by
    simp [lexemeFrom?, plain, Mark.isOrdinary]
  have hspace : (plain ':').isSpace = false := by decide
  rw [lexemes?, if_neg (by simp [hspace])]
  split <;> simp_all

theorem escape_of_hasBlank {field : String} (h : Text.hasBlank field.toList = true) :
    escape field = String.ofList (escapeChars field.toList) := by
  have hoperators : operatorWords.all (fun word => !Text.hasBlank word.toList) = true := by decide
  have hfield : field ∉ operatorWords := by
    intro hmem
    have hword := List.all_eq_true.1 hoperators field hmem
    simp [h] at hword
  rw [escape, if_neg (by simpa using hfield)]

/-- A term at the end of a native text. -/
theorem quoteIfBlank_last (term : String) :
    ∃ vs, GivesMarks (quoteIfBlank term).toList vs ∧ value? vs = some (.ofTerm term, []) := by
  obtain ⟨vs, hvs, hvalue⟩ := quoteIfBlank_marks term
  exact ⟨vs, hvs, by simpa using hvalue [] (by simp [EndsTerm])⟩

/-- A name without white space and a term are read as the one clause that is meant. -/
theorem lexemesOf?_clause {field : String} (hne : field ≠ "")
    (hfield : Text.hasBlank field.toList = false) (term : String) :
    lexemesOf? (escape field ++ ":" ++ quoteIfBlank term) =
      some [.term (some field) (.ofTerm term)] := by
  obtain ⟨fs, hfs, hspells⟩ := escape_marks field
  obtain ⟨vs, hvs, hterm⟩ := quoteIfBlank_last term
  have hcolon : GivesMarks ":".toList [plain ':'] := .single (by decide)
  have hmarks : GivesMarks (escape field ++ ":" ++ quoteIfBlank term).toList
      (fs ++ plain ':' :: vs) := by
    simpa using (hfs.append hcolon).append hvs
  rw [lexemesOf?_eq hmarks, lexemes?_term hspells hne hfield hterm]
  simp [lexemes?]

theorem hasBlank_of_endsBlank {front : String} (h : EndsBlank front.toList) (hne : front ≠ "")
    (last : String) : Text.hasBlank (front ++ last).toList = true := by
  have hchars : front.toList ≠ [] := by simpa using hne
  have hend := h _ (List.getLast?_eq_getLast_of_ne_nil hchars)
  have hfront : front.toList.any Text.isBlank = true :=
    List.any_eq_true.2 ⟨_, List.getLast_mem hchars, hend⟩
  simp [Text.hasBlank, hfront]

/-- The words of a name before its last white space are on their own, and the rest is the field. -/
theorem lexemesOf?_split {front last : String} (hne : front ++ last ≠ "")
    (hfront : EndsBlank front.toList) (hlast : Text.hasBlank last.toList = false) (term : String) :
    lexemesOf? (escape (front ++ last) ++ ":" ++ quoteIfBlank term) =
      if last = "" then none
      else some ((Text.words front).map Lexeme.ofWord ++ [.term (some last) (.ofTerm term)]) := by
  by_cases hempty : front = ""
  · subst hempty
    rw [String.empty_append] at hne ⊢
    simp [lexemesOf?_clause hne hlast, hne, Text.words, Text.wordsChars]
  obtain ⟨vs, hvs, hterm⟩ := quoteIfBlank_last term
  have hcolon : GivesMarks ":".toList [plain ':'] := .single (by decide)
  have hmarks : GivesMarks (escape (front ++ last) ++ ":" ++ quoteIfBlank term).toList
      (front.toList.map escapedMark ++ (last.toList.map escapedMark ++ plain ':' :: vs)) := by
    rw [escape_of_hasBlank (hasBlank_of_endsBlank hfront hempty last)]
    simpa using ((escapeChars_marks (front ++ last).toList).append hcolon).append hvs
  rw [lexemesOf?_eq hmarks, lexemes?_front hfront]
  split
  · next hend => simp [hend, lexemes?_colon]
  · next hlastne =>
    rw [lexemes?_term (spells_toList last) hlastne hlast hterm]
    simp [lexemes?, Text.words]

/-- Every name is some text that ends with white space, or none, and a rest without it. -/
theorem exists_front_last (field : String) :
    ∃ front last : String, field = front ++ last ∧ EndsBlank front.toList ∧
      Text.hasBlank last.toList = false := by
  let p : Char → Bool := fun c => !Text.isBlank c
  refine ⟨String.ofList (field.toList.rdropWhile p), String.ofList (field.toList.rtakeWhile p),
    ?_, ?_, ?_⟩
  · apply String.toList_injective
    simp
  · rw [String.toList_ofList]
    intro c hc
    have hne : field.toList.rdropWhile p ≠ [] := by
      rintro hnil
      simp [hnil] at hc
    have hlast := List.rdropWhile_last_not p field.toList hne
    rw [List.getLast?_eq_getLast_of_ne_nil hne, Option.mem_some_iff] at hc
    rw [hc] at hlast
    simpa [p] using hlast
  · rw [String.toList_ofList, Text.hasBlank, List.any_eq_false]
    intro c hc
    simpa [p] using List.mem_rtakeWhile_imp hc

/-- A name and a value are read as one clause on that name and that value exactly if the name has
no white space. Of any other name the words before its last white space are read on their own, and
nothing is read if that white space is at its end. -/
theorem clause_reads_back_iff {field : String} (hne : field ≠ "") (term : String) :
    (lexemesOf? (escape field ++ ":" ++ quoteIfBlank term) =
        some [.term (some field) (.ofTerm term)] ↔ Text.hasBlank field.toList = false) ∧
      ∀ front last : String, field = front ++ last → EndsBlank front.toList →
        Text.hasBlank last.toList = false →
        lexemesOf? (escape field ++ ":" ++ quoteIfBlank term) =
          if last = "" then none
          else some ((Text.words front).map Lexeme.ofWord ++
            [.term (some last) (.ofTerm term)]) := by
  constructor
  · constructor
    · intro hread
      obtain ⟨front, last, rfl, hfront, hlast⟩ := exists_front_last field
      rw [lexemesOf?_split hne hfront hlast] at hread
      split at hread
      · cases hread
      · have hends := congrArg List.getLast? (Option.some.inj hread)
        simp only [List.getLast?_append, List.getLast?_singleton, Option.some_or, Option.some.injEq,
          Lexeme.term.injEq, and_true] at hends
        rwa [← hends]
    · exact fun hfield => lexemesOf?_clause hne hfield term
  · rintro front last rfl hfront hlast
    exact lexemesOf?_split hne hfront hlast term

/-- A name with an operator in it. -/
theorem clause_reads_back_iff_operator :
    lexemesOf? (escape "all OR title" ++ ":" ++ quoteIfBlank "moon cow") =
      some [.term none (.word "all"), .operator .or,
        .term (some "title") (.phrase "moon cow")] := by
  have hne : "all OR title" ≠ "" := by decide
  have hfront : EndsBlank "all OR ".toList := by
    rintro c ⟨rfl⟩
    decide
  have hread := (clause_reads_back_iff hne "moon cow").2 "all OR " "title" (by decide) hfront
    (by decide)
  have hwords : (Text.words "all OR ").map Lexeme.ofWord =
      [.term none (.word "all"), .operator .or] := by
    decide +kernel
  have hvalue : Value.ofTerm "moon cow" = .phrase "moon cow" := by decide +kernel
  rw [if_neg (by decide), hwords, hvalue] at hread
  exact hread

/-- A synonym for one field whose name has an operator in it: the clause that is meant becomes
an alternative. -/
theorem clause_breaks_out :
    let schema := Schema.ofSettings ⟨.standard, [], ⟨[("x", ["all OR title"])], by decide⟩, []⟩
    let text := (Query.clause "x" ⟨"=", []⟩ "moon").native schema
    schema.resolve "x" = ["all OR title"] ∧
      text = "(" ++ (escape "all OR title" ++ ":" ++ quoteIfBlank "moon") ++ ")" ∧
      formula? text =
        some (.join .or (.term none (.word "all")) (.term (some "title") (.word "moon"))) ∧
      lexemesOf? (escape "all OR title" ++ ":" ++ quoteIfBlank "moon") ≠
        some [.term (some "all OR title") (.ofTerm "moon")] := by
  decide +kernel

end SearchRetrieve.Native
