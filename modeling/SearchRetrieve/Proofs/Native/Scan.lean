import SearchRetrieve.Proofs.Native.Meaning

/-!
# Scanning native queries

A scan goes over a native query once and keeps the parentheses, brackets, phrases and escapes that
are open. Escaped text leaves no trace in it, wherever it stands.
-/
namespace SearchRetrieve.Native

structure Scan where
  /-- The closing characters that are waited for, the innermost first. -/
  closers : List Char
  inPhrase : Bool
  /-- After a backslash that makes the next character literal. -/
  escaped : Bool
  deriving DecidableEq, Repr

namespace Scan

def outside : Scan := ⟨[], false, false⟩

/-- The scan after one more character, unless this closes what is not open. -/
def step? (s : Scan) (c : Char) : Option Scan :=
  if s.escaped then some { s with escaped := false }
  else if c = '\\' then some { s with escaped := true }
  else if c = '"' then some { s with inPhrase := !s.inPhrase }
  else if s.inPhrase then some s
  else if c = '(' then some { s with closers := ')' :: s.closers }
  else if c = '[' then some { s with closers := ']' :: s.closers }
  else if c = ')' ∨ c = ']' then
    if s.closers.head? = some c then some { s with closers := s.closers.tail } else none
  else some s

def read? (s : Scan) (cs : List Char) : Option Scan := cs.foldlM step? s

variable {s s' : Scan} {c : Char} {cs : List Char}

@[simp] theorem read?_nil (s : Scan) : s.read? [] = some s := rfl

@[simp] theorem read?_cons (s : Scan) (c : Char) (cs : List Char) :
    s.read? (c :: cs) = (s.step? c).bind (·.read? cs) := rfl

theorem read?_append (s : Scan) (cs ds : List Char) :
    s.read? (cs ++ ds) = (s.read? cs).bind (·.read? ds) :=
  List.foldlM_append

@[simp] theorem read?_single (s : Scan) (c : Char) : s.read? [c] = s.step? c := by
  simp

/-- Text in parentheses is read as the text is, with one more character to wait for. -/
theorem read?_parentheses (closers : List Char) (cs : List Char) :
    read? ⟨closers, false, false⟩ ('(' :: (cs ++ [')'])) =
      (read? ⟨')' :: closers, false, false⟩ cs).bind (·.step? ')') := by
  have hopening : step? ⟨closers, false, false⟩ '(' = some ⟨')' :: closers, false, false⟩ := rfl
  rw [read?_cons, hopening, Option.bind_some, read?_append]
  simp only [read?_single]

def above (s : Scan) (below : List Char) : Scan := { s with closers := s.closers ++ below }

theorem step?_above (h : s.step? c = some s') (below : List Char) :
    (s.above below).step? c = some (s'.above below) := by
  have hclosing : s.closers.head? = some c →
      (s.closers ++ below).head? = some c ∧
        (s.closers ++ below).tail = s.closers.tail ++ below := by
    cases s.closers <;> simp
  grind [step?, above]

/-- What a text does to a scan it does inside other groups as well. -/
theorem read?_above (h : s.read? cs = some s') (below : List Char) :
    (s.above below).read? cs = some (s'.above below) := by
  induction cs generalizing s with
  | nil =>
    cases h
    rfl
  | cons c cs ih =>
    obtain ⟨s₁, hstep, hrest⟩ := Option.bind_eq_some_iff.1 h
    rw [read?_cons, step?_above hstep]
    exact ih hrest

end Scan

/-- In the text everything that opens is closed, and nothing else is. -/
def Closed (text : String) : Prop := Scan.outside.read? text.toList = some .outside

instance (text : String) : Decidable (Closed text) := inferInstanceAs (Decidable (_ = _))

/-- The text leaves every scan outside of phrases as it is. -/
def Neutral (cs : List Char) : Prop :=
  ∀ closers, Scan.read? ⟨closers, false, false⟩ cs = some ⟨closers, false, false⟩

variable {cs ds : List Char}

theorem neutral_iff_closed {text : String} : Neutral text.toList ↔ Closed text := by
  constructor
  · exact fun h => h []
  · exact fun h closers => Scan.read?_above h closers

def marking : List Char := ['\\', '"', '(', ')', '[', ']']

theorem Scan.step?_of_not_marking {c : Char} (hc : c ∉ marking) (closers : List Char)
    (inPhrase : Bool) :
    step? ⟨closers, inPhrase, false⟩ c = some ⟨closers, inPhrase, false⟩ := by
  simp only [marking, List.mem_cons, List.not_mem_nil, or_false, not_or] at hc
  simp [step?, hc]

namespace Neutral

theorem nil : Neutral [] := fun _ => rfl

theorem append (hcs : Neutral cs) (hds : Neutral ds) : Neutral (cs ++ ds) := by
  intro closers
  rw [Scan.read?_append, hcs]
  exact hds closers

theorem ofPlain (h : ∀ c ∈ cs, c ∉ marking) : Neutral cs := by
  intro closers
  induction cs with
  | nil => rfl
  | cons c cs ih =>
    rw [Scan.read?_cons, Scan.step?_of_not_marking (h c (by simp))]
    exact ih fun d hd => h d (by simp [hd])

theorem parentheses (h : Neutral cs) : Neutral ('(' :: (cs ++ [')'])) := by
  intro closers
  rw [Scan.read?_parentheses, h]
  rfl

theorem brackets (h : Neutral cs) : Neutral ('[' :: (cs ++ [']'])) := by
  intro closers
  have hopening : Scan.step? ⟨closers, false, false⟩ '[' =
      some ⟨']' :: closers, false, false⟩ := rfl
  rw [Scan.read?_cons, hopening, Option.bind_some, Scan.read?_append, h]
  rfl

theorem intercalate {between : String} {texts : List String} (hbetween : Neutral between.toList)
    (h : ∀ text ∈ texts, Neutral text.toList) :
    Neutral (String.intercalate between texts).toList := by
  cases texts with
  | nil => exact nil
  | cons text texts =>
    rw [toList_intercalate_cons]
    apply (h text (by simp)).append
    have hothers : ∀ other ∈ texts, Neutral other.toList :=
      fun other hother => h other (by simp [hother])
    clear h
    induction texts with
    | nil => exact nil
    | cons other texts ih =>
      rw [List.flatMap_cons]
      exact (hbetween.append (hothers other (by simp))).append
        (ih fun t ht => hothers t (by simp [ht]))

end Neutral

theorem not_marking_of_not_isReserved {c : Char} (h : isReserved c = false) : c ∉ marking := by
  have hreserved : ∀ d ∈ marking, isReserved d = true := by simp [marking, isReserved, reserved]
  intro hc
  simp [hreserved c hc] at h

theorem Scan.read?_escapeChars (closers : List Char) (inPhrase : Bool) (cs : List Char) :
    Scan.read? ⟨closers, inPhrase, false⟩ (escapeChars cs) = some ⟨closers, inPhrase, false⟩ := by
  induction cs with
  | nil => rfl
  | cons c cs ih =>
    cases hc : isReserved c with
    | true =>
      have hpair : Scan.read? ⟨closers, inPhrase, false⟩ ['\\', c] =
          some ⟨closers, inPhrase, false⟩ := rfl
      have hsplit : escapeChars (c :: cs) = ['\\', c] ++ escapeChars cs := by
        simp [escapeChars, hc]
      rw [hsplit, Scan.read?_append, hpair]
      exact ih
    | false =>
      have hsplit : escapeChars (c :: cs) = c :: escapeChars cs := by simp [escapeChars, hc]
      rw [hsplit, Scan.read?_cons,
        Scan.step?_of_not_marking (not_marking_of_not_isReserved hc)]
      exact ih

/-- An escaped value opens and closes nothing, in a phrase or outside. -/
theorem Scan.read?_escape (closers : List Char) (inPhrase : Bool) (value : String) :
    Scan.read? ⟨closers, inPhrase, false⟩ (escape value).toList =
      some ⟨closers, inPhrase, false⟩ := by
  rcases escape_cases value with htext | ⟨c, cs, -, -, htext⟩
  · rw [htext]
    exact Scan.read?_escapeChars closers inPhrase _
  · have hsplit : '\\' :: c :: escapeChars cs = ['\\', c] ++ escapeChars cs := rfl
    rw [htext, hsplit, Scan.read?_append]
    exact Scan.read?_escapeChars closers inPhrase cs

theorem neutral_escape (value : String) : Neutral (escape value).toList :=
  fun closers => Scan.read?_escape closers false value

theorem neutral_quoteIfBlank (value : String) : Neutral (quoteIfBlank value).toList := by
  unfold quoteIfBlank
  split
  · intro closers
    have hquote : "\"".toList = ['"'] := rfl
    rw [String.toList_append, String.toList_append, Scan.read?_append, Scan.read?_append, hquote]
    have hphrase := Scan.read?_escape closers true value
    simp [Scan.step?, hphrase]
  · exact neutral_escape value

end SearchRetrieve.Native
