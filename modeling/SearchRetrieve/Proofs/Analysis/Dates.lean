import SearchRetrieve.Analysis.Date
import SearchRetrieve.Proofs.Text.Digits
import SearchRetrieve.Proofs.Text.Slices
import Mathlib.Tactic.IntervalCases

/-!
# Documented dates

The documented dates are `yyyy-MM-dd`, `yyyy-MM` and `yyyy`, with just as many digits, and their
terms are those digits. A line of the right number of bytes may also have a sign before the year or
white space before a number, and then it is read all the same. Of the other lines only documented
dates are read.
-/
namespace SearchRetrieve.Date

open Text (IsNumber digitsValue isDigit)

def firstLine (value : String) : List Char :=
  Text.trimChars ((value.toList.splitOn '\n').headD [])

/-- The documented forms of a line, with the digits of the year, the month and the day. -/
inductive Written : List Char → List Char → List Char → List Char → Prop
  | day (y m d : List Char) : Written (y ++ '-' :: (m ++ '-' :: d)) y m d
  | month (y m : List Char) : Written (y ++ '-' :: m) y m ['0', '1']
  | year (y : List Char) : Written y y ['0', '1'] ['0', '1']

def InCalendar (d : Date) : Prop :=
  ∃ day : Std.Time.PlainDate,
    day.year.toInt = d.year ∧ day.month.val = d.month ∧ day.day.val = d.day

/-- The line is a documented form of a date, and the term is its digits. -/
def Documented (line : List Char) (date : Date) (term : String) : Prop :=
  ∃ y m d, Written line y m d ∧ IsNumber 4 y ∧ IsNumber 2 m ∧ IsNumber 2 d ∧
    date = ⟨digitsValue y, digitsValue m, digitsValue d⟩ ∧ date.InCalendar ∧
    term = String.ofList (y ++ m ++ d)

/-- A line with no white space in it and no sign in front. -/
def IsPlain (line : List Char) : Prop :=
  Text.hasBlank line = false ∧ ∀ c ∈ line.head?, c ≠ '+' ∧ c ≠ '-'

def HasFourDigits (d : Date) : Prop := 0 ≤ d.year ∧ d.year ≤ 9999

def Before (d e : Date) : Prop :=
  d.year < e.year ∨
    d.year = e.year ∧ (d.month < e.month ∨ d.month = e.month ∧ d.day < e.day)

variable {cs digits rest line y m d : List Char} {most n width : Nat} {date later : Date}
  {value t : String}

theorem isLeapYear_eq (year : Std.Time.Year.Offset) : isLeapYear year.toInt = year.isLeap := by
  have htmod (a b : Int) : a.tmod b = 0 ↔ a % b = 0 := by
    rw [← Int.dvd_iff_tmod_eq_zero, ← Int.dvd_iff_emod_eq_zero]
  simp only [isLeapYear, Std.Time.Year.Offset.isLeap, ne_eq, htmod, Bool.decide_and, Bool.decide_or,
    decide_not]
  rfl

theorem daysIn_eq (year : Std.Time.Year.Offset) (month : Std.Time.Month.Ordinal) :
    (daysIn year.toInt month.val.toNat : Int) =
      (Std.Time.Month.Ordinal.days year.isLeap month).val := by
  obtain ⟨month, hlow, hhigh⟩ := month
  simp only [daysIn, isLeapYear_eq]
  cases year.isLeap <;> interval_cases month <;> rfl

theorem isReal_iff (d : Date) : d.isReal = true ↔ d.InCalendar := by
  simp only [isReal, Bool.and_eq_true, decide_eq_true_iff]
  constructor
  · rintro ⟨⟨⟨hmonth, hmonth'⟩, hday⟩, hdays⟩
    have hmonth : 1 ≤ (d.month : Int) ∧ (d.month : Int) ≤ 12 := by omega
    let month : Std.Time.Month.Ordinal := ⟨d.month, hmonth⟩
    let year : Std.Time.Year.Offset := d.year
    have hlast := daysIn_eq year month
    have hmost := (Std.Time.Month.Ordinal.days year.isLeap month).property.2
    change (daysIn d.year d.month : Int) = _ at hlast
    exact ⟨⟨year, month, ⟨d.day, by omega, by omega⟩, by
      change (d.day : Int) ≤ _
      omega⟩, rfl, rfl, rfl⟩
  · rintro ⟨day, hyear, hmonth, hday⟩
    have hlast := daysIn_eq day.year day.month
    have hvalid : day.day.val ≤ (Std.Time.Month.Ordinal.days day.year.isLeap day.month).val :=
      day.valid
    rw [hyear, hmonth, Int.toNat_natCast] at hlast
    have hrange := day.month.property
    have hrange' := day.day.property
    omega

theorem readNumber_append (hdigits : IsNumber most digits) (hmost : 0 < most) (rest : List Char) :
    readNumber most (digits ++ rest) = some (digitsValue digits, rest) := by
  have htake : ((digits ++ rest).takeWhile isDigit).take most = digits := by
    rw [List.takeWhile_append_of_pos hdigits.2, ← hdigits.1, List.take_left]
  unfold readNumber
  rw [htake]
  split
  · exact absurd hdigits.1 (by simp; omega)
  · rw [List.drop_left]

theorem exists_of_readNumber (h : readNumber most cs = some (n, rest)) :
    ∃ digits, cs = digits ++ rest ∧ digits.length ≤ most ∧ (∀ c ∈ digits, isDigit c = true) ∧
      n = digitsValue digits := by
  unfold readNumber at h
  split at h
  · exact absurd h nofun
  · simp only [Option.some.injEq, Prod.mk.injEq] at h
    obtain ⟨rfl, rfl⟩ := h
    have hstart : (cs.takeWhile isDigit).take most <+: cs :=
      (List.take_prefix _ _).trans (List.takeWhile_prefix _)
    refine ⟨_, ?_, List.length_take_le _ _, fun c hc => ?_, rfl⟩
    · exact (List.prefix_iff_eq_append.1 hstart).symm
    · exact List.mem_takeWhile_imp (List.mem_of_mem_take hc)

theorem trimStartChars_of_plain (h : Text.hasBlank cs = false) : Text.trimStartChars cs = cs := by
  rw [Text.trimStartChars, List.dropWhile_eq_self_iff]
  intro hlength
  simpa using List.any_eq_false.1 h _ (List.getElem_mem hlength)

theorem trimStartChars_append (hdigits : IsNumber most digits) (hmost : 0 < most) :
    Text.trimStartChars (digits ++ rest) = digits ++ rest := by
  obtain ⟨c, digits, rfl, hc⟩ := hdigits.exists_first hmost
  simp [Text.trimStartChars, Text.not_isBlank_of_isDigit hc]

theorem readPart_append (hdigits : IsNumber 2 digits) (rest : List Char) :
    readPart ('-' :: (digits ++ rest)) = some (digitsValue digits, rest) := by
  rw [readPart, trimStartChars_append hdigits Nat.two_pos, readNumber_append hdigits Nat.two_pos]

theorem exists_of_readPart (hcs : Text.hasBlank cs = false) (h : readPart cs = some (n, rest)) :
    ∃ digits, cs = '-' :: (digits ++ rest) ∧ digits.length ≤ 2 ∧
      (∀ c ∈ digits, isDigit c = true) ∧ n = digitsValue digits := by
  unfold readPart at h
  split at h
  · next after =>
    rw [Text.hasBlank, List.any_cons, Bool.or_eq_false_iff] at hcs
    rw [trimStartChars_of_plain hcs.2] at h
    obtain ⟨digits, rfl, hdigits⟩ := exists_of_readNumber h
    exact ⟨digits, rfl, hdigits⟩
  · exact absurd h nofun

theorem readYear_of_head (h : ∀ c ∈ cs.head?, c ≠ '+' ∧ c ≠ '-') :
    readYear cs = (readNumber 4 cs).map fun p => ((p.1 : Int), p.2) := by
  unfold readYear
  split <;> simp_all

theorem isReal_of_read (h : read cs = some date) : date.isReal = true := by
  simp only [read, Option.bind_eq_bind, Option.bind_eq_some_iff] at h
  obtain ⟨_, _, _, _, _, _, h⟩ := h
  split at h
  · next hreal =>
    cases h
    exact (Bool.and_eq_true_iff.1 hreal).2
  · exact absurd h nofun

theorem read_written (hy : IsNumber 4 y) (hm : IsNumber 2 m) (hd : IsNumber 2 d)
    (hreal : isReal ⟨digitsValue y, digitsValue m, digitsValue d⟩ = true) :
    read (y ++ '-' :: (m ++ '-' :: d)) = some ⟨digitsValue y, digitsValue m, digitsValue d⟩ := by
  have hyear : readYear (y ++ '-' :: (m ++ '-' :: d)) =
      some ((digitsValue y : Int), '-' :: (m ++ '-' :: d)) := by
    rw [readYear_of_head, readNumber_append hy (by decide)]
    · rfl
    · obtain ⟨c, y, rfl, hc⟩ := hy.exists_first (by decide)
      rintro _ ⟨⟩
      exact Text.ne_sign_of_isDigit hc
  have hday : readPart ('-' :: d) = some (digitsValue d, []) := by
    rw [← readPart_append hd [], List.append_nil]
  rw [read, trimStartChars_append hy (by decide), hyear]
  simp only [Option.bind_eq_bind, Option.bind_some, readPart_append hm, hday]
  simp [hreal]

/-- In a plain text the numbers of a date are separated by the dashes alone. -/
theorem exists_of_read (hplain : IsPlain cs) (h : read cs = some date) :
    ∃ y m d, cs = y ++ '-' :: (m ++ '-' :: d) ∧ y.length ≤ 4 ∧ m.length ≤ 2 ∧ d.length ≤ 2 ∧
      (∀ c ∈ y ++ m ++ d, isDigit c = true) ∧
      date = ⟨digitsValue y, digitsValue m, digitsValue d⟩ := by
  obtain ⟨hblank, hhead⟩ := hplain
  simp only [read, Option.bind_eq_bind, Option.bind_eq_some_iff] at h
  obtain ⟨⟨year, afterYear⟩, hyear, ⟨month, afterMonth⟩, hmonth, ⟨day, afterDay⟩, hday, h⟩ := h
  rw [trimStartChars_of_plain hblank, readYear_of_head hhead, Option.map_eq_some_iff] at hyear
  obtain ⟨⟨number, _⟩, hyear, ⟨⟩⟩ := hyear
  obtain ⟨y, rfl, hylength, hydigits, rfl⟩ := exists_of_readNumber hyear
  simp only [Text.hasBlank, List.any_append, Bool.or_eq_false_iff] at hblank
  obtain ⟨m, rfl, hmlength, hmdigits, rfl⟩ := exists_of_readPart hblank.2 hmonth
  simp only [List.any_cons, List.any_append, Bool.or_eq_false_iff] at hblank
  obtain ⟨d, rfl, hdlength, hddigits, rfl⟩ := exists_of_readPart hblank.2.2.2 hday
  split at h
  · next hend =>
    cases h
    obtain rfl : afterDay = [] := List.isEmpty_iff.1 (Bool.and_eq_true_iff.1 hend).1
    refine ⟨y, m, d, by simp, hylength, hmlength, hdlength, ?_, rfl⟩
    simp only [List.mem_append]
    rintro c ((hc | hc) | hc)
    exacts [hydigits c hc, hmdigits c hc, hddigits c hc]
  · exact absurd h nofun

theorem byteCount_append (cs ds : List Char) :
    byteCount (cs ++ ds) = byteCount cs + byteCount ds :=
  Text.utf8Length_append cs ds

theorem byteCount_digits (h : ∀ c ∈ digits, isDigit c = true) :
    byteCount digits = digits.length := by
  induction digits with
  | nil => rfl
  | cons c digits ih =>
    rw [← List.singleton_append, byteCount_append, ih fun d hd => h d (List.mem_cons_of_mem c hd),
      List.length_append]
    exact congrArg (· + digits.length)
      ((Nat.zero_add _).trans (Text.utf8Size_of_isDigit (h c List.mem_cons_self)))

theorem byteCount_dash (cs : List Char) : byteCount ('-' :: cs) = 1 + byteCount cs := by
  rw [← List.singleton_append, byteCount_append]
  rfl

/-- What is put after a line that is read: a first day, or a first month and its first day. -/
def endings : List (List Char) := [[], ['-', '0', '1'], ['-', '0', '1', '-', '0', '1']]

/-- A date is read from a line as it is or with its end in place. -/
theorem exists_of_ofValue? (h : ofValue? value = some date) :
    ∃ rest ∈ endings, byteCount (firstLine value ++ rest) = 10 ∧ firstLine value ≠ [] ∧
      read (firstLine value ++ rest) = some date := by
  have hne {cs : List Char} {n : Nat} (h : byteCount cs = n + 1) : cs ≠ [] := by
    rintro rfl
    exact absurd h nofun
  have hline : Text.trimChars ((value.toList.splitOn '\n').headD []) = firstLine value := rfl
  simp only [ofValue?, hline] at h
  split at h
  · next hcount =>
    exact ⟨[], by simp [endings], by simpa using hcount, hne hcount, by simpa using h⟩
  · next hcount =>
    exact ⟨_, by simp [endings], by rw [byteCount_append, hcount]; rfl, hne hcount, h⟩
  · next hcount =>
    split at h
    · exact ⟨_, by simp [endings], by rw [byteCount_append, hcount]; rfl, hne hcount, h⟩
    · exact absurd h nofun
  · exact absurd h nofun

theorem digitsValue_padded (width n : Nat) : digitsValue (padded width n) = n := by
  rw [padded, Text.digitsValue_eq, Nat.ofDigitChars_append, Nat.ofDigitChars_replicate_zero,
    Nat.mul_zero, Nat.toString_eq_repr, Nat.toList_repr, Nat.ofDigitChars_ten_toDigits]

theorem isNumber_padded (hwidth : 0 < width) (h : n < 10 ^ width) :
    IsNumber width (padded width n) := by
  have hlength : (Nat.toDigits 10 n).length ≤ width :=
    (Nat.length_toDigits_le_iff (by decide) hwidth).2 h
  rw [padded, Nat.toString_eq_repr, Nat.toList_repr]
  refine ⟨by simp; omega, fun c hc => ?_⟩
  rcases List.mem_append.1 hc with hc | hc
  · rw [List.eq_of_mem_replicate hc]
    rfl
  · exact Nat.isDigit_of_mem_toDigits (by decide) (by decide) hc

theorem padded_digitsValue (hwidth : 0 < width) (h : IsNumber width digits) :
    padded width (digitsValue digits) = digits :=
  Text.eq_of_digitsValue_eq (isNumber_padded hwidth (Text.digitsValue_lt h)) h
    (digitsValue_padded width _)

theorem toList_term (hyear : HasFourDigits date) :
    date.term.toList = padded 4 date.year.toNat ++ padded 2 date.month ++ padded 2 date.day := by
  unfold HasFourDigits at hyear
  rw [term, String.toList_ofList, yearText, if_pos hyear]

theorem lt_of_isReal (h : date.isReal = true) : date.month < 100 ∧ date.day < 100 := by
  obtain ⟨day, -, hmonth, hday⟩ := (isReal_iff date).1 h
  have hrange := day.month.property
  have hrange' := day.day.property
  omega

theorem isNumber_parts (hreal : date.isReal = true) (hyear : HasFourDigits date) :
    IsNumber 4 (padded 4 date.year.toNat) ∧ IsNumber 2 (padded 2 date.month) ∧
      IsNumber 2 (padded 2 date.day) := by
  obtain ⟨hmonth, hday⟩ := lt_of_isReal hreal
  have hlast := hyear.2
  exact ⟨isNumber_padded (by decide) (by omega), isNumber_padded (by decide) hmonth,
    isNumber_padded (by decide) hday⟩

theorem isNumber_term (hreal : date.isReal = true) (hyear : HasFourDigits date) :
    IsNumber 8 date.term.toList := by
  obtain ⟨hy, hm, hd⟩ := isNumber_parts hreal hyear
  rw [toList_term hyear]
  exact (hy.append hm).append hd

theorem digitsValue_term (hreal : date.isReal = true) (hyear : HasFourDigits date) :
    digitsValue date.term.toList = date.year.toNat * 10000 + date.month * 100 + date.day := by
  obtain ⟨-, hm, hd⟩ := isNumber_parts hreal hyear
  rw [toList_term hyear, Text.digitsValue_append, Text.digitsValue_append, hm.1, hd.1,
    digitsValue_padded, digitsValue_padded, digitsValue_padded]
  omega

/-- Any other year begins with its sign. -/
theorem exists_sign (h : ¬ HasFourDigits date) :
    ∃ rest, date.term.toList = (if date.year < 0 then '-' else '+') :: rest := by
  unfold HasFourDigits at h
  rw [term, String.toList_ofList, yearText, if_neg h]
  exact ⟨_, rfl⟩

theorem isNumber_term_iff (hreal : date.isReal = true) :
    IsNumber 8 date.term.toList ↔ HasFourDigits date := by
  refine ⟨fun hnumber => ?_, isNumber_term hreal⟩
  by_contra hyear
  obtain ⟨rest, hterm⟩ := exists_sign hyear
  have hsign := hnumber.2 _ (hterm ▸ List.mem_cons_self)
  split at hsign <;> exact absurd hsign (by decide)

theorem term_lt_iff (hreal : date.isReal = true) (hreal' : later.isReal = true)
    (hyear : HasFourDigits date) (hyear' : HasFourDigits later) :
    date.term < later.term ↔ date.Before later := by
  rw [String.lt_iff_toList_lt, Text.lt_iff_digitsValue_lt (isNumber_term hreal hyear)
    (isNumber_term hreal' hyear'), digitsValue_term hreal hyear, digitsValue_term hreal' hyear',
    Before]
  obtain ⟨hmonth, hday⟩ := lt_of_isReal hreal
  obtain ⟨hmonth', hday'⟩ := lt_of_isReal hreal'
  obtain ⟨hfirst, -⟩ := hyear
  obtain ⟨hfirst', -⟩ := hyear'
  omega

/-- A plus sign comes before all digits. -/
theorem term_lt_of_year (hreal : later.isReal = true) (hyear : HasFourDigits later)
    (hlate : 9999 < date.year) : date.term < later.term := by
  have hsign : ¬ HasFourDigits date := fun h => absurd h.2 (by omega)
  obtain ⟨rest, hterm⟩ := exists_sign hsign
  rw [if_neg (by omega)] at hterm
  obtain ⟨c, digits, hterm', hc⟩ := (isNumber_term hreal hyear).exists_first (by decide)
  rw [String.lt_iff_toList_lt, hterm, hterm']
  refine List.cons_lt_cons_iff.2 (.inl ?_)
  rw [Char.lt_def, UInt32.lt_iff_toNat_lt]
  exact Nat.lt_of_lt_of_le (by decide) (Text.isDigit_iff.1 hc).1

theorem isDigit_of_written (h : Written line y m d) (hy : IsNumber 4 y) (hm : IsNumber 2 m)
    (hd : IsNumber 2 d) : ∀ c ∈ line, isDigit c = true ∨ c = '-' := by
  cases h <;> grind [IsNumber]

theorem isPlain_of_documented (h : Documented line date t) : IsPlain line := by
  obtain ⟨y, m, d, hwritten, hy, hm, hd, -⟩ := h
  constructor
  · rw [Text.hasBlank, List.any_eq_false]
    intro c hc
    rcases isDigit_of_written hwritten hy hm hd c hc with hc | rfl
    · simp [Text.not_isBlank_of_isDigit hc]
    · decide
  · obtain ⟨c, y, rfl, hc⟩ := hy.exists_first (by decide)
    have hhead : line.head? = some c := by cases hwritten <;> rfl
    rw [hhead]
    rintro _ ⟨⟩
    exact Text.ne_sign_of_isDigit hc

theorem hasFourDigits_of_digits (hy : IsNumber 4 y) (month day : Nat) :
    HasFourDigits ⟨digitsValue y, month, day⟩ := by
  have hlt := Text.digitsValue_lt hy
  constructor <;> simp only <;> omega

theorem term_of_digits (hy : IsNumber 4 y) (hm : IsNumber 2 m) (hd : IsNumber 2 d) :
    term ⟨digitsValue y, digitsValue m, digitsValue d⟩ = String.ofList (y ++ m ++ d) := by
  have hyear := hasFourDigits_of_digits hy (digitsValue m) (digitsValue d)
  rw [← String.toList_inj, toList_term hyear, String.toList_ofList, Int.toNat_natCast,
    padded_digitsValue (by decide) hy, padded_digitsValue (by decide) hm,
    padded_digitsValue (by decide) hd]

theorem hasFourDigits_of_documented (h : Documented line date t) : HasFourDigits date := by
  obtain ⟨y, m, d, -, hy, -, -, rfl, -⟩ := h
  exact hasFourDigits_of_digits hy _ _

theorem ofValue?_of_documented (h : Documented (firstLine value) date t) :
    ofValue? value = some date ∧ t = date.term := by
  obtain ⟨y, m, d, hwritten, hy, hm, hd, rfl, hcalendar, rfl⟩ := h
  refine ⟨?_, (term_of_digits hy hm hd).symm⟩
  have hread := read_written hy hm hd ((isReal_iff _).2 hcalendar)
  have hycount := (byteCount_digits hy.2).trans hy.1
  have hmcount := (byteCount_digits hm.2).trans hm.1
  have hdcount := (byteCount_digits hd.2).trans hd.1
  simp only [ofValue?]
  generalize hline : Text.trimChars ((value.toList.splitOn '\n').headD []) = line
  rw [firstLine, hline] at hwritten
  cases hwritten with
  | day =>
    have hcount : byteCount (y ++ '-' :: (m ++ '-' :: d)) = 10 := by
      simp only [byteCount_append, byteCount_dash, hycount, hmcount, hdcount]
    rw [hcount]
    exact hread
  | month =>
    have hcount : byteCount (y ++ '-' :: m) = 7 := by
      simp only [byteCount_append, byteCount_dash, hycount, hmcount]
    rw [hcount]
    simpa using hread
  | year =>
    rw [hycount]
    simpa [List.all_eq_true.2 hy.2] using hread

/-- The end that was put in place is the last of the numbers. -/
theorem written_of_append (hrest : rest ∈ endings)
    (h : line ++ rest = y ++ '-' :: (m ++ '-' :: d)) (hm : m.length = 2) (hd : d.length = 2) :
    Written line y m d := by
  simp only [endings, List.mem_cons, List.not_mem_nil, or_false] at hrest
  rcases hrest with rfl | rfl | rfl
  · rw [List.append_nil] at h
    exact h ▸ .day y m d
  · have hsplit : line ++ ['-', '0', '1'] = (y ++ '-' :: m) ++ '-' :: d := by simpa using h
    obtain ⟨rfl, hend⟩ := List.append_inj' hsplit (by simp [hd])
    cases hend
    exact .month y m
  · obtain ⟨rfl, hend⟩ := List.append_inj' h (by simp [hm, hd])
    have hsplit : ['0', '1'] ++ ['-', '0', '1'] = m ++ '-' :: d := List.tail_eq_of_cons_eq hend
    obtain ⟨rfl, hend⟩ := List.append_inj hsplit (by simp [hm])
    cases hend
    exact .year line

theorem documented_of_ofValue? (hplain : IsPlain (firstLine value))
    (h : ofValue? value = some date) : Documented (firstLine value) date date.term := by
  obtain ⟨rest, hrest, hcount, hne, hread⟩ := exists_of_ofValue? h
  have hplain : IsPlain (firstLine value ++ rest) := by
    have hblank : ∀ rest ∈ endings, Text.hasBlank rest = false := by decide
    obtain ⟨hline, hhead⟩ := hplain
    constructor
    · rw [Text.hasBlank, List.any_append, Bool.or_eq_false_iff]
      exact ⟨hline, hblank rest hrest⟩
    · rwa [List.head?_append_of_ne_nil _ hne]
  obtain ⟨y, m, d, hcs, hylength, hmlength, hdlength, hdigits, rfl⟩ := exists_of_read hplain hread
  have hy : ∀ c ∈ y, isDigit c = true := fun c hc => hdigits c (by simp [hc])
  have hm : ∀ c ∈ m, isDigit c = true := fun c hc => hdigits c (by simp [hc])
  have hd : ∀ c ∈ d, isDigit c = true := fun c hc => hdigits c (by simp [hc])
  rw [hcs, byteCount_append, byteCount_dash, byteCount_append, byteCount_dash, byteCount_digits hy,
    byteCount_digits hm, byteCount_digits hd] at hcount
  have hy : IsNumber 4 y := ⟨by omega, hy⟩
  have hm : IsNumber 2 m := ⟨by omega, hm⟩
  have hd : IsNumber 2 d := ⟨by omega, hd⟩
  exact ⟨y, m, d, written_of_append hrest hcs hm.1 hd.1, hy, hm, hd, rfl,
    (isReal_iff _).1 (isReal_of_read hread), term_of_digits hy hm hd⟩

/-- The terms of a value are the documented ones exactly if it gives no term or its first line is
plain. A documented date always has its term. The term of a date is in eight digits exactly if its
year has four, as that of a plain line does; such terms are in the order of time, and a term with a
longer year comes before them, out of order. -/
theorem terms_documented_iff (value : String) :
    ((∀ term, normalize? value = some term ↔ ∃ date, Documented (firstLine value) date term) ↔
      normalize? value = none ∨ IsPlain (firstLine value)) ∧
    (∀ date term, Documented (firstLine value) date term →
      ofValue? value = some date ∧ normalize? value = some term) ∧
    ∀ date, ofValue? value = some date →
      date.InCalendar ∧ normalize? value = some date.term ∧
      (IsNumber 8 date.term.toList ↔ HasFourDigits date) ∧
      (IsPlain (firstLine value) → HasFourDigits date) ∧
      ∀ other later, ofValue? other = some later → HasFourDigits later →
        (HasFourDigits date → (date.term < later.term ↔ date.Before later)) ∧
        (9999 < date.year → date.term < later.term ∧ later.Before date) := by
  have hdocumented {date term} (h : Documented (firstLine value) date term) :
      ofValue? value = some date ∧ normalize? value = some term := by
    obtain ⟨hdate, hterm⟩ := ofValue?_of_documented h
    exact ⟨hdate, by rw [normalize?, hdate, hterm]; rfl⟩
  have hreal {value date} (h : ofValue? value = some date) : date.isReal = true := by
    obtain ⟨_, _, _, _, hread⟩ := exists_of_ofValue? h
    exact isReal_of_read hread
  refine ⟨⟨fun h => ?_, fun h term => ⟨fun hterm => ?_, fun ⟨_, hdate⟩ => (hdocumented hdate).2⟩⟩,
    fun _ _ => hdocumented, fun date hdate => ?_⟩
  · cases hterm : normalize? value with
    | none => exact .inl rfl
    | some term =>
      obtain ⟨_, hdate⟩ := (h term).1 hterm
      exact .inr (isPlain_of_documented hdate)
  · obtain ⟨date, hdate, rfl⟩ := Option.map_eq_some_iff.1 hterm
    rcases h with hnone | hplain
    · exact absurd (hterm.symm.trans hnone) nofun
    · exact ⟨date, documented_of_ofValue? hplain hdate⟩
  · refine ⟨(isReal_iff date).1 (hreal hdate), by rw [normalize?, hdate]; rfl,
      isNumber_term_iff (hreal hdate),
      fun hplain => hasFourDigits_of_documented (documented_of_ofValue? hplain hdate),
      fun other later hlater hfour => ⟨fun hfirst => ?_, fun hlong => ?_⟩⟩
    · exact term_lt_iff (hreal hdate) (hreal hlater) hfirst hfour
    · have hlast := hfour.2
      exact ⟨term_lt_of_year (hreal hlater) hfour hlong, .inl (by omega)⟩

/-- July 2004 is documented and comes after 1999; the first day of the year 12345 comes before. -/
theorem terms_documented_iff_month :
    let july : Date := ⟨2004, 7, 1⟩
    let late : Date := ⟨12345, 1, 1⟩
    normalize? "2004-07" = some "20040701" ∧ HasFourDigits july ∧
      (july.term < "19990101" ↔ july.Before ⟨1999, 1, 1⟩) ∧
      late.term < "19990101" ∧ Before ⟨1999, 1, 1⟩ late := by
  intro july late
  have hjuly : ofValue? "2004-07" = some july := by decide +kernel
  have hlate : ofValue? "+12345-1-1" = some late := by decide +kernel
  have hyear : ofValue? "1999" = some ⟨1999, 1, 1⟩ := by decide +kernel
  have hfour : HasFourDigits ⟨1999, 1, 1⟩ := ⟨by decide, by decide⟩
  have hterm : term ⟨1999, 1, 1⟩ = "19990101" := by decide +kernel
  have hwritten : Documented (firstLine "2004-07") july "20040701" := by
    have hline : firstLine "2004-07" = ['2', '0', '0', '4'] ++ '-' :: ['0', '7'] := by
      decide +kernel
    rw [hline]
    exact ⟨['2', '0', '0', '4'], ['0', '7'], ['0', '1'], .month _ _, by decide, by decide,
      by decide, rfl, (isReal_iff july).1 (by decide), by decide +kernel⟩
  obtain ⟨-, hdocumented, hdates⟩ := terms_documented_iff "2004-07"
  obtain ⟨-, -, -, hplain, horder⟩ := hdates july hjuly
  have hfirst : HasFourDigits july := hplain (isPlain_of_documented hwritten)
  obtain ⟨-, -, -, -, hlong⟩ := (terms_documented_iff "+12345-1-1").2.2 late hlate
  rw [← hterm]
  exact ⟨(hdocumented july _ hwritten).2, hfirst, (horder "1999" _ hyear hfour).1 hfirst,
    (hlong "1999" _ hyear hfour).2 (by decide)⟩

/-- A signed year and a number with white space before it are read although neither is documented,
and the term of the signed year is not in eight digits and comes before that of an earlier date. -/
theorem signed_year_is_read :
    normalize? "+12345-1-1" = some "+123450101" ∧
      (¬ ∃ date, Documented (firstLine "+12345-1-1") date "+123450101") ∧
      normalize? "2004- 7-15" = some "20040715" ∧
      (¬ ∃ date, Documented (firstLine "2004- 7-15") date "20040715") ∧
      ¬ IsNumber 8 "+123450101".toList ∧
      ofValue? "+12345-1-1" = some ⟨12345, 1, 1⟩ ∧ ofValue? "1999" = some ⟨1999, 1, 1⟩ ∧
      normalize? "1999" = some "19990101" ∧ Before ⟨1999, 1, 1⟩ ⟨12345, 1, 1⟩ ∧
      "+123450101" < "19990101" := by
  have hhead : (firstLine "+12345-1-1").head? = some '+' := by decide +kernel
  have hsigned : ¬ IsPlain (firstLine "+12345-1-1") := fun h => (h.2 '+' hhead).1 rfl
  have hblank : ¬ IsPlain (firstLine "2004- 7-15") := fun h => absurd h.1 (by decide +kernel)
  refine ⟨by decide +kernel, fun ⟨_, h⟩ => hsigned (isPlain_of_documented h), by decide +kernel,
    fun ⟨_, h⟩ => hblank (isPlain_of_documented h), by decide,
    by decide +kernel, by decide +kernel, by decide +kernel, .inl (by decide), by decide⟩

end SearchRetrieve.Date
