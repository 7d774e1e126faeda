import Mathlib.Data.List.Forall2
import SearchRetrieve.Native.Escape
import SearchRetrieve.Proofs.Native.Reader
import SearchRetrieve.Proofs.Text.Words

/-!
# Reading escaped text

An escaped value is read back as the value wherever a native query can hold it: as a field, as a
word, inside a phrase and as a bound of a range. A group of texts that can be read is read as the
formulas of the texts under one operator.
-/
namespace SearchRetrieve.Native

/-- The text gives these marks, whatever follows it. -/
def GivesMarks (cs : List Char) (ms : List Mark) : Prop :=
  ∀ rest, marks? (cs ++ rest) = (marks? rest).map (ms ++ ·)

theorem marks?_plain {c : Char} (hc : c ≠ '\\') (rest : List Char) :
    marks? (c :: rest) = (marks? rest).map (plain c :: ·) := by
  rw [marks?] <;> simp_all

theorem GivesMarks.nil : GivesMarks [] [] := by
  intro rest
  cases h : marks? rest <;> simp [h]

theorem GivesMarks.append {cs ds : List Char} {ms ns : List Mark} (hcs : GivesMarks cs ms)
    (hds : GivesMarks ds ns) : GivesMarks (cs ++ ds) (ms ++ ns) := by
  intro rest
  rw [List.append_assoc, hcs, hds, Option.map_map]
  simp [Function.comp_def]

theorem GivesMarks.single {c : Char} (hc : c ≠ '\\') : GivesMarks [c] [plain c] :=
  fun rest => marks?_plain hc rest

theorem GivesMarks.literal (c : Char) : GivesMarks ['\\', c] [⟨c, true⟩] := by
  intro rest
  simp [marks?]

/-- Text without backslashes has its own meaning. -/
theorem GivesMarks.ofPlain {cs : List Char} (hcs : '\\' ∉ cs) :
    GivesMarks cs (cs.map plain) := by
  induction cs with
  | nil => exact .nil
  | cons c cs ih =>
    simp only [List.mem_cons, not_or] at hcs
    exact (GivesMarks.single (Ne.symm hcs.1)).append (ih hcs.2)

/-- Marks that spell a value and in which no reserved character has its own meaning. -/
def Spells (ms : List Mark) (value : String) : Prop :=
  textOf ms = value ∧ ∀ m ∈ ms, m.literal = true ∨ isReserved m.char = false

theorem backslash_isReserved : isReserved '\\' = true := by decide

theorem ne_backslash {c : Char} (hc : isReserved c = false) : c ≠ '\\' := by
  rintro rfl
  simp [backslash_isReserved] at hc

def escapedMark (c : Char) : Mark := ⟨c, isReserved c⟩

theorem escapeChars_marks (cs : List Char) :
    GivesMarks (escapeChars cs) (cs.map escapedMark) := by
  induction cs with
  | nil => exact .nil
  | cons c cs ih =>
    cases hc : isReserved c with
    | true =>
      have htwo := (GivesMarks.literal c).append ih
      simpa [escapeChars, escapedMark, hc] using htwo
    | false =>
      have htwo := (GivesMarks.single (ne_backslash hc)).append ih
      simpa [escapeChars, escapedMark, hc, plain] using htwo

theorem spells_map (cs : List Char) : Spells (cs.map escapedMark) (String.ofList cs) := by
  refine ⟨by simp [textOf, Function.comp_def, escapedMark], fun m hm => ?_⟩
  obtain ⟨c, -, rfl⟩ := List.mem_map.1 hm
  cases hc : isReserved c <;> simp [escapedMark, hc]

theorem spells_toList (value : String) : Spells (value.toList.map escapedMark) value := by
  simpa using spells_map value.toList

theorem operatorWord_cases {value : String} (h : operatorWords.contains value = true) :
    ∃ c cs, value.toList = c :: cs ∧ isReserved c = false := by
  simp only [operatorWords, List.contains_iff_mem, List.mem_cons, List.not_mem_nil,
    or_false] at h
  rcases h with rfl | rfl | rfl
  · exact ⟨'A', ['N', 'D'], rfl, by decide⟩
  · exact ⟨'O', ['R'], rfl, by decide⟩
  · exact ⟨'N', ['O', 'T'], rfl, by decide⟩

/-- Of an operator word the first character is escaped too, which is not a reserved one. -/
theorem escape_cases (value : String) :
    (escape value).toList = escapeChars value.toList ∨
      ∃ c cs, value.toList = c :: cs ∧ isReserved c = false ∧
        (escape value).toList = '\\' :: c :: escapeChars cs := by
  unfold escape
  split
  · next hoperator =>
    obtain ⟨c, cs, hvalue, hc⟩ := operatorWord_cases hoperator
    exact Or.inr ⟨c, cs, hvalue, hc, by simp [hvalue, escapeChars, hc]⟩
  · exact Or.inl String.toList_ofList

/-- An escaped value gives marks that spell the value. -/
theorem escape_marks (value : String) :
    ∃ ms, GivesMarks (escape value).toList ms ∧ Spells ms value := by
  have hspells := spells_toList value
  rcases escape_cases value with htext | ⟨c, cs, hvalue, -, htext⟩
  · rw [htext]
    exact ⟨_, escapeChars_marks value.toList, hspells⟩
  · rw [hvalue] at hspells
    obtain ⟨hword, hmarks⟩ := hspells
    rw [htext]
    refine ⟨⟨c, true⟩ :: cs.map escapedMark,
      (GivesMarks.literal c).append (escapeChars_marks cs), ?_, ?_⟩
    · simpa [textOf, escapedMark] using hword
    · intro m hm
      rcases List.mem_cons.1 hm with rfl | hm
      · exact Or.inl rfl
      · exact hmarks m (by simp [hm])

namespace Spells

variable {ms : List Mark} {value : String}

theorem not_mem {c : Char} (h : Spells ms value) (hc : isReserved c = true) : plain c ∉ ms := by
  intro hm
  rcases h.2 _ hm with hliteral | hreserved
  · simp [plain] at hliteral
  · simp [plain, hc] at hreserved

theorem special_isReserved : ['(', ')', '[', ']', '"', ':'].all isReserved = true := by decide

theorem isBlank_of_mem (h : Spells ms value) (hvalue : Text.hasBlank value.toList = false)
    {m : Mark} (hm : m ∈ ms) : Text.isBlank m.char = false := by
  obtain ⟨rfl, -⟩ := h
  simp only [Text.hasBlank, textOf, String.toList_ofList, List.any_map, List.any_eq_false] at hvalue
  simpa using hvalue m hm

/-- A value without white space is one run of marks. -/
theorem isOrdinary (h : Spells ms value) (hvalue : Text.hasBlank value.toList = false) :
    ∀ m ∈ ms, m.isOrdinary = true := by
  intro m hm
  have hblank := h.isBlank_of_mem hvalue hm
  rcases h.2 m hm with hliteral | hreserved
  · simp [Mark.isOrdinary, hliteral]
  · have hspecial : m.char ∉ ['(', ')', '[', ']', '"', ':'] := by
      intro hmem
      simp [List.all_eq_true.1 special_isReserved _ hmem] at hreserved
    simp only [Mark.isOrdinary, hblank, Bool.false_or, Bool.or_eq_true, Bool.not_eq_true',
      List.contains_eq_mem, decide_eq_false_iff_not]
    exact Or.inr hspecial

theorem ne_nil (h : Spells ms value) (hvalue : value ≠ "") : ms ≠ [] := by
  rintro rfl
  exact hvalue (h.1.symm.trans (by simp [textOf]))

end Spells

/-- After a term of a native query: a blank, a closing parenthesis or nothing. -/
def EndsTerm (rest : List Mark) : Prop := ∀ m ∈ rest.head?, m = plain ' ' ∨ m = plain ')'

theorem endsTerm_blank (rest : List Mark) : EndsTerm (plain ' ' :: rest) := by simp [EndsTerm]

theorem endsTerm_closing (rest : List Mark) : EndsTerm (plain ')' :: rest) := by simp [EndsTerm]

theorem not_isOrdinary {c : Char} (hc : c = ' ' ∨ c = ')' ∨ c = ':') :
    (plain c).isOrdinary = false := by
  rcases hc with rfl | rfl | rfl <;> decide

theorem EndsTerm.not_isOrdinary {rest : List Mark} (h : EndsTerm rest) :
    ∀ m ∈ rest.head?, m.isOrdinary = false := by
  intro m hm
  rcases h m hm with rfl | rfl <;> decide

theorem upTo?_append {stop : Mark} {before : List Mark} (h : stop ∉ before) (after : List Mark) :
    upTo? stop (before ++ stop :: after) = some (before, after) := by
  induction before with
  | nil => simp [upTo?]
  | cons m before ih =>
    simp only [List.mem_cons, not_or] at h
    simp [upTo?, Ne.symm h.1, ih h.2]

/-- Marks that begin neither a phrase nor a range are a word. -/
theorem value?_run {ms : List Mark} (h : ∀ m ∈ ms.head?, m ≠ plain '"' ∧ m ≠ plain '[') :
    value? ms = some (.word (textOf (ms.takeWhile Mark.isOrdinary)),
      ms.dropWhile Mark.isOrdinary) := by
  unfold value?
  split
  · exact ((h _ rfl).1 rfl).elim
  · exact ((h _ rfl).2 rfl).elim
  · rfl

variable {ms rest : List Mark} {value : String}

theorem value?_word (h : Spells ms value) (hvalue : Text.hasBlank value.toList = false)
    (hrest : EndsTerm rest) : value? (ms ++ rest) = some (.word value, rest) := by
  have hordinary := h.isOrdinary hvalue
  have hhead : ∀ m ∈ (ms ++ rest).head?, m ≠ plain '"' ∧ m ≠ plain '[' := by
    cases ms with
    | nil =>
      intro m hm
      rcases hrest m hm with rfl | rfl <;> decide
    | cons n ms =>
      rintro m ⟨rfl⟩
      have hn : n.isOrdinary = true := hordinary n (by simp)
      constructor <;> rintro rfl <;> exact absurd hn (by decide)
  rw [value?_run hhead, Text.takeWhile_run hordinary hrest.not_isOrdinary,
    Text.dropWhile_run hordinary hrest.not_isOrdinary, h.1]

theorem value?_phrase (h : Spells ms value) (rest : List Mark) :
    value? (plain '"' :: (ms ++ plain '"' :: rest)) = some (.phrase value, rest) := by
  have hquote : plain '"' ∉ ms := h.not_mem (by decide)
  change phrase? (ms ++ plain '"' :: rest) = _
  simp [phrase?, upTo?_append hquote, h.1]

theorem Spells.not_isSpace (h : Spells ms value) (hvalue : Text.hasBlank value.toList = false) :
    ∀ m ∈ ms, m.isSpace = false := by
  intro m hm
  simp [Mark.isSpace, h.isBlank_of_mem hvalue hm]

theorem range?_bounds {ls us : List Mark} {lower upper : String} (hl : Spells ls lower)
    (hlower : lower ≠ "") (hlblank : Text.hasBlank lower.toList = false) (hu : Spells us upper)
    (hupper : upper ≠ "") (hublank : Text.hasBlank upper.toList = false) :
    range? (ls ++ plain ' ' :: ("TO".toList.map plain ++ plain ' ' :: us)) =
      some (.range lower upper) := by
  have hspace : (plain ' ').isSpace = true := by decide
  have hto : ∀ m ∈ "TO".toList.map plain, m.isSpace = false := by decide
  have hpieces : (ls ++ plain ' ' :: ("TO".toList.map plain ++ plain ' ' :: us)).splitOnP
      Mark.isSpace = [ls, "TO".toList.map plain, us] := by
    rw [List.splitOnP_append_cons_of_forall_mem (hl.not_isSpace hlblank) _ hspace,
      List.splitOnP_append_cons_of_forall_mem hto _ hspace,
      List.splitOnP_eq_singleton (hu.not_isSpace hublank)]
  have hfilter : [ls, "TO".toList.map plain, us].filter (fun piece => !piece.isEmpty) =
      [ls, "TO".toList.map plain, us] := by
    rw [List.filter_eq_self]
    intro piece hpiece
    simp only [List.mem_cons, List.not_mem_nil, or_false] at hpiece
    rcases hpiece with rfl | rfl | rfl
    · simp [hl.ne_nil hlower]
    · rfl
    · simp [hu.ne_nil hupper]
  unfold range?
  rw [hpieces, hfilter]
  simp [hl.1, hu.1]

theorem value?_range {ls us : List Mark} {lower upper : String} (hl : Spells ls lower)
    (hlower : lower ≠ "") (hlblank : Text.hasBlank lower.toList = false) (hu : Spells us upper)
    (hupper : upper ≠ "") (hublank : Text.hasBlank upper.toList = false) (rest : List Mark) :
    value? (plain '[' :: (ls ++ plain ' ' :: ("TO".toList.map plain ++ plain ' ' :: us) ++
      plain ']' :: rest)) = some (.range lower upper, rest) := by
  have hl' : plain ']' ∉ ls := hl.not_mem (by decide)
  have hu' : plain ']' ∉ us := hu.not_mem (by decide)
  have hbracket : plain ']' ∉ ls ++ plain ' ' :: ("TO".toList.map plain ++ plain ' ' :: us) := by
    simp only [List.mem_append, List.mem_cons, not_or]
    exact ⟨hl', by decide, by decide, by decide, hu'⟩
  change bracketed? _ = _
  rw [bracketed?, upTo?_append hbracket]
  simp only [Option.bind_some, range?_bounds hl hlower hlblank hu hupper hublank,
    Option.map_some]

def read? (ms : List Mark) (frame : Frame) (outer : List Frame) : Option Formula :=
  (lexemes? ms).bind fun ls => assemble? ls frame outer

theorem read?_nil (f : Formula) : read? [] (.complete f) [] = some f := by
  simp [read?, lexemes?, assemble?]

theorem lexemes?_space {m : Mark} (hm : m.isSpace = true) (rest : List Mark) :
    lexemes? (m :: rest) = lexemes? rest := by
  rw [lexemes?]
  simp [hm]

theorem read?_space {m : Mark} (hm : m.isSpace = true) (rest : List Mark) (frame : Frame)
    (outer : List Frame) : read? (m :: rest) frame outer = read? rest frame outer := by
  rw [read?, lexemes?_space hm, read?]

theorem lexemes?_cons {m : Mark} {rest after : List Mark} {l : Lexeme}
    (hm : m.isSpace = false) (h : lexemeFrom? m rest = some (l, after)) :
    lexemes? (m :: rest) = (lexemes? after).map (l :: ·) := by
  rw [lexemes?]
  simp only [hm, Bool.false_eq_true, if_false]
  split <;> simp_all

theorem read?_lexeme {m : Mark} {rest after : List Mark} {l : Lexeme} (hm : m.isSpace = false)
    (h : lexemeFrom? m rest = some (l, after)) (frame : Frame) (outer : List Frame) :
    read? (m :: rest) frame outer =
      (lexemes? after).bind fun ls => assemble? (l :: ls) frame outer := by
  rw [read?, lexemes?_cons hm h, Option.bind_map]
  rfl

theorem read?_opening (rest : List Mark) (frame : Frame) (outer : List Frame) :
    read? (plain '(' :: rest) frame outer = read? rest .start (frame :: outer) :=
  read?_lexeme (m := plain '(') (l := .opening) (by decide) (by simp [lexemeFrom?]) frame outer

theorem read?_closing {frame enclosing after : Frame} {f : Formula}
    (hf : frame.result = some f) (hafter : enclosing.operand f = some after) (rest : List Mark)
    (outer : List Frame) :
    read? (plain ')' :: rest) frame (enclosing :: outer) = read? rest after outer := by
  have hlexeme : lexemeFrom? (plain ')') rest = some (.closing, rest) := by
    simp [lexemeFrom?, plain]
  rw [read?_lexeme (by decide) hlexeme]
  simp [assemble?, hf, hafter, read?]

/-- A run of marks that does not begin a group, a phrase or a range is a word. -/
theorem lexemeFrom?_run {m : Mark} {run rest : List Mark}
    (hrun : ∀ n ∈ m :: run, n.isOrdinary = true)
    (hrest : ∀ n ∈ rest.head?, n.isOrdinary = false) :
    lexemeFrom? m (run ++ rest) = afterWord? (m :: run) rest := by
  have hm : m.isOrdinary = true := hrun m (by simp)
  have hspecial : ['(', ')', '"', '['].all (fun c => !(plain c).isOrdinary) = true := by decide
  have hne : ∀ c ∈ ['(', ')', '"', '['], m ≠ plain c := by
    rintro c hc rfl
    have hnot := List.all_eq_true.1 hspecial c hc
    simp [hm] at hnot
  simp only [List.mem_cons, List.not_mem_nil, or_false, forall_eq_or_imp, forall_eq] at hne
  obtain ⟨hopening, hclosing, hquote, hbracket⟩ := hne
  have htail : ∀ n ∈ run, n.isOrdinary = true := fun n hn => hrun n (by simp [hn])
  simp only [lexemeFrom?, hopening, hclosing, hquote, hbracket, hm, if_false, if_true,
    Text.takeWhile_run htail hrest, Text.dropWhile_run htail hrest]

theorem ordinary_not_isSpace {m : Mark} (hm : m.isOrdinary = true) : m.isSpace = false := by
  obtain ⟨c, literal⟩ := m
  cases literal <;> simp_all [Mark.isOrdinary, Mark.isSpace]

/-- A field, a colon and a value are a term. -/
theorem lexemes?_term {field : String} {v : Value} {tail : List Mark} (h : Spells ms field)
    (hne : field ≠ "") (hfield : Text.hasBlank field.toList = false)
    (hv : value? tail = some (v, rest)) :
    lexemes? (ms ++ plain ':' :: tail) = (lexemes? rest).map (.term (some field) v :: ·) := by
  have hordinary := h.isOrdinary hfield
  cases ms with
  | nil => exact (h.ne_nil hne rfl).elim
  | cons m ms =>
    have hcolon : ∀ n ∈ (plain ':' :: tail).head?, n.isOrdinary = false := by
      rintro n ⟨rfl⟩
      decide
    have hlexeme : lexemeFrom? m (ms ++ plain ':' :: tail) =
        some (.term (some field) v, rest) := by
      rw [lexemeFrom?_run hordinary hcolon]
      simp [afterWord?, plain, hv, h.1]
    exact lexemes?_cons (ordinary_not_isSpace (hordinary m (by simp))) hlexeme

theorem read?_term {field : String} {v : Value} {tail : List Mark} {frame after : Frame}
    (h : Spells ms field) (hne : field ≠ "") (hfield : Text.hasBlank field.toList = false)
    (hv : value? tail = some (v, rest)) (hafter : frame.operand (.term (some field) v) = some after)
    (outer : List Frame) :
    read? (ms ++ plain ':' :: tail) frame outer = read? rest after outer := by
  rw [read?, lexemes?_term h hne hfield hv, Option.bind_map]
  simp [Function.comp_def, assemble?, hafter, read?]

def Operator.between : Operator → String
  | and => " AND "
  | or => " OR "
  | not => " NOT "

def Operator.marks (op : Operator) : List Mark := op.between.toList.map plain

theorem Operator.between_marks (op : Operator) : GivesMarks op.between.toList op.marks := by
  apply GivesMarks.ofPlain
  cases op <;> decide

theorem read?_operator (op : Operator) (f : Formula) (rest : List Mark) (outer : List Frame) :
    read? (op.marks ++ rest) (.complete f) outer = read? rest (.pending f op) outer := by
  have hblank : (plain ' ').isSpace = true := by decide
  have hend : ∀ n ∈ (plain ' ' :: rest).head?, n.isOrdinary = false := by
    rintro n ⟨rfl⟩
    decide
  have hword (m : Mark) (run : List Mark) (hrun : ∀ n ∈ m :: run, n.isOrdinary = true)
      (hop : wordLexeme (m :: run) = .operator op) :
      read? (plain ' ' :: m :: (run ++ plain ' ' :: rest)) (.complete f) outer =
        read? rest (.pending f op) outer := by
    have hlexeme : lexemeFrom? m (run ++ plain ' ' :: rest) =
        some (.operator op, plain ' ' :: rest) := by
      rw [lexemeFrom?_run hrun hend]
      simp [afterWord?, plain, hop]
    rw [read?_space hblank, read?_lexeme (ordinary_not_isSpace (hrun m (by simp))) hlexeme,
      ← read?_space hblank rest (.pending f op)]
    rfl
  cases op with
  | and => exact hword (plain 'A') [plain 'N', plain 'D'] (by decide) (by decide)
  | or => exact hword (plain 'O') [plain 'R'] (by decide) (by decide)
  | not => exact hword (plain 'N') [plain 'O', plain 'T'] (by decide) (by decide)

/-- The text is read as an operand wherever it stands before a blank, a closing parenthesis or
the end. -/
def Reads (text : String) (f : Formula) : Prop :=
  ∃ ms, GivesMarks text.toList ms ∧
    ∀ (frame after : Frame) (outer : List Frame) (rest : List Mark), EndsTerm rest →
      frame.operand f = some after → read? (ms ++ rest) frame outer = read? rest after outer

theorem Reads.formula? {text : String} {f : Formula} (h : Reads text f) :
    formula? text = some f := by
  obtain ⟨ms, hms, hread⟩ := h
  have hmarks := hms []
  rw [List.append_nil] at hmarks
  have hend : EndsTerm [] := by simp [EndsTerm]
  have hwhole := hread .start (.complete f) [] [] hend rfl
  simp only [List.append_nil] at hwhole
  calc Native.formula? text = read? ms .start [] := by simp [Native.formula?, hmarks, marks?, read?]
    _ = read? [] (.complete f) [] := hwhole
    _ = some f := read?_nil f

theorem toList_intercalate_cons (between text : String) (texts : List String) :
    (String.intercalate between (text :: texts)).toList =
      text.toList ++ texts.flatMap fun t => between.toList ++ t.toList := by
  induction texts generalizing text with
  | nil => simp
  | cons t texts ih => simp [String.intercalate_cons_cons, ih]

/-- Further operands of a group, each after the operator. -/
theorem reads_operands (op : Operator) {texts : List String} {fs : List Formula}
    (h : List.Forall₂ Reads texts fs) :
    ∃ ms, GivesMarks (texts.flatMap fun t => op.between.toList ++ t.toList) ms ∧
      (ms = [] ∨ ∃ tail, ms = plain ' ' :: tail) ∧
      ∀ (f : Formula) (outer : List Frame) (rest : List Mark), EndsTerm rest →
        read? (ms ++ rest) (.complete f) outer =
          read? rest (.complete (fs.foldl (.join op) f)) outer := by
  induction h with
  | nil => exact ⟨[], .nil, Or.inl rfl, fun f outer rest _ => rfl⟩
  | @cons text g texts fs hhead _ ih =>
    obtain ⟨ms, hms, hread⟩ := hhead
    obtain ⟨ns, hns, hblank, hothers⟩ := ih
    have hstart : ∃ tail, op.marks = plain ' ' :: tail := by cases op <;> exact ⟨_, rfl⟩
    obtain ⟨tail, htail⟩ := hstart
    refine ⟨op.marks ++ ms ++ ns, ?_, Or.inr ⟨tail ++ ms ++ ns, by simp [htail]⟩, ?_⟩
    · rw [List.flatMap_cons]
      exact (op.between_marks.append hms).append hns
    · intro f outer rest hrest
      have hend : EndsTerm (ns ++ rest) := by
        rcases hblank with rfl | ⟨tail, rfl⟩
        · exact hrest
        · exact endsTerm_blank _
      calc read? (op.marks ++ ms ++ ns ++ rest) (.complete f) outer
          = read? (op.marks ++ (ms ++ (ns ++ rest))) (.complete f) outer := by
            simp only [List.append_assoc]
        _ = read? (ms ++ (ns ++ rest)) (.pending f op) outer := read?_operator op f _ outer
        _ = read? (ns ++ rest) (.complete (.join op f g)) outer :=
            hread _ _ outer _ hend rfl
        _ = read? rest (.complete (fs.foldl (.join op) (.join op f g))) outer :=
            hothers _ outer rest hrest

/-- Operands in parentheses, one operator between them, are read as their formulas joined. -/
theorem reads_group (op : Operator) {texts : List String} {fs : List Formula}
    (h : List.Forall₂ Reads texts fs) :
    Reads ("(" ++ String.intercalate op.between texts ++ ")") (.joinAll op fs) := by
  have hopening : GivesMarks "(".toList [plain '('] := .single (by decide)
  have hclosing : GivesMarks ")".toList [plain ')'] := .single (by decide)
  cases h with
  | nil =>
    refine ⟨[plain '('] ++ [plain ')'], ?_, fun frame after outer rest _ hafter => ?_⟩
    · simpa using hopening.append hclosing
    · exact (read?_opening _ frame outer).trans (read?_closing rfl hafter rest outer)
  | @cons text g texts fs hhead hothers =>
    obtain ⟨ms, hms, hread⟩ := hhead
    obtain ⟨ns, hns, hblank, hoperands⟩ := reads_operands op hothers
    refine ⟨[plain '('] ++ (ms ++ ns) ++ [plain ')'], ?_, fun frame after outer rest _ hafter => ?_⟩
    · have hall := (hopening.append (hms.append hns)).append hclosing
      simpa only [String.toList_append, toList_intercalate_cons] using hall
    · have hend : EndsTerm (ns ++ plain ')' :: rest) := by
        rcases hblank with rfl | ⟨tail, rfl⟩
        · exact endsTerm_closing rest
        · exact endsTerm_blank _
      calc read? ([plain '('] ++ (ms ++ ns) ++ [plain ')'] ++ rest) frame outer
          = read? (plain '(' :: (ms ++ (ns ++ plain ')' :: rest))) frame outer := by simp
        _ = read? (ms ++ (ns ++ plain ')' :: rest)) .start (frame :: outer) :=
            read?_opening _ frame outer
        _ = read? (ns ++ plain ')' :: rest) (.complete g) (frame :: outer) :=
            hread _ _ _ _ hend rfl
        _ = read? (plain ')' :: rest) (.complete (fs.foldl (.join op) g)) (frame :: outer) :=
            hoperands g _ _ (endsTerm_closing rest)
        _ = read? rest after outer := read?_closing rfl hafter rest outer

def Value.ofTerm (term : String) : Value :=
  if Text.hasBlank term.toList then .phrase term else .word term

/-- A term, escaped and as a phrase if it has white space, is read as the term. -/
theorem quoteIfBlank_marks (term : String) :
    ∃ vs, GivesMarks (quoteIfBlank term).toList vs ∧
      ∀ rest, EndsTerm rest → value? (vs ++ rest) = some (.ofTerm term, rest) := by
  obtain ⟨vs, hvs, hvalue⟩ := escape_marks term
  have hquote : GivesMarks "\"".toList [plain '"'] := .single (by decide)
  unfold quoteIfBlank Value.ofTerm
  split
  · refine ⟨[plain '"'] ++ vs ++ [plain '"'], ?_, fun rest _ => ?_⟩
    · simpa only [String.toList_append] using (hquote.append hvs).append hquote
    · simpa using value?_phrase hvalue rest
  · next hblank =>
    exact ⟨vs, hvs, fun rest hrest => value?_word hvalue (by simpa using hblank) hrest⟩

/-- A field and a term, both escaped, are read as the field and the term. -/
theorem reads_clause {field : String} (hne : field ≠ "")
    (hfield : Text.hasBlank field.toList = false) (term : String) :
    Reads (escape field ++ ":" ++ quoteIfBlank term) (.term (some field) (.ofTerm term)) := by
  obtain ⟨fs, hfs, hspells⟩ := escape_marks field
  obtain ⟨vs, hvs, hvalue⟩ := quoteIfBlank_marks term
  have hcolon : GivesMarks ":".toList [plain ':'] := .single (by decide)
  refine ⟨fs ++ [plain ':'] ++ vs, ?_, fun frame after outer rest hrest hafter => ?_⟩
  · simpa only [String.toList_append] using (hfs.append hcolon).append hvs
  · have hread := read?_term hspells hne hfield (hvalue rest hrest) hafter outer
    simpa using hread

/-- A field and two bounds, all escaped, are read as a range. -/
theorem reads_range {field lower upper : String} (hne : field ≠ "")
    (hfield : Text.hasBlank field.toList = false) (hlower : lower ≠ "")
    (hlblank : Text.hasBlank lower.toList = false) (hupper : upper ≠ "")
    (hublank : Text.hasBlank upper.toList = false) :
    Reads (escape field ++ ":[" ++ escape lower ++ " TO " ++ escape upper ++ "]")
      (.term (some field) (.range lower upper)) := by
  obtain ⟨fs, hfs, hspells⟩ := escape_marks field
  obtain ⟨ls, hls, hl⟩ := escape_marks lower
  obtain ⟨us, hus, hu⟩ := escape_marks upper
  have hopening : GivesMarks ":[".toList (":[".toList.map plain) := .ofPlain (by decide)
  have hbetween : GivesMarks " TO ".toList (" TO ".toList.map plain) := .ofPlain (by decide)
  have hclosing : GivesMarks "]".toList [plain ']'] := .single (by decide)
  refine ⟨fs ++ ":[".toList.map plain ++ ls ++ " TO ".toList.map plain ++ us ++ [plain ']'], ?_,
    fun frame after outer rest _ hafter => ?_⟩
  · have hall := ((((hfs.append hopening).append hls).append hbetween).append hus).append hclosing
    simpa only [String.toList_append] using hall
  · have hvalue := value?_range hl hlower hlblank hu hupper hublank rest
    have hread := read?_term hspells hne hfield hvalue hafter outer
    simpa using hread

/-- A word without white space in a field. -/
theorem reads_word {field word : String} (hne : field ≠ "")
    (hfield : Text.hasBlank field.toList = false) (hword : Text.hasBlank word.toList = false) :
    Reads (escape field ++ ":" ++ escape word) (.term (some field) (.word word)) := by
  have hclause := reads_clause hne hfield word
  simpa only [quoteIfBlank, Value.ofTerm, hword, Bool.false_eq_true, if_false] using hclause

end SearchRetrieve.Native
