import SearchRetrieve.Proofs.Native.Reading

/-!
# Escaping undone

Whether a backslash escapes depends on the backslashes before it. In escaped text the escapes are
those that escaping has put there: without them the value is back, and no reserved character has
its own meaning. So different values never have the same text, as phrases or not.
-/
namespace SearchRetrieve.Native

/-- Does the text end with a backslash that makes the next character literal? -/
def isEscaping (cs : List Char) : Bool :=
  cs.foldl (fun escaping c => !escaping && c == '\\') false

/-- The text without the backslashes that escape, each followed by the character that it makes
literal. -/
def unescaped : List Char → List Char
  | [] => []
  | ['\\'] => []
  | '\\' :: c :: rest => c :: unescaped rest
  | c :: rest => c :: unescaped rest

/-- Every character with a meaning of its own is a backslash that escapes or comes after one, and
no such backslash is the last character. -/
structure Guarded (cs : List Char) : Prop where
  reserved : ∀ before c after, cs = before ++ c :: after →
    c ∈ "\\+-!():^[]\"\x7b\x7d~|&/".toList →
    isEscaping (before ++ [c]) = true ∨ isEscaping before = true
  complete : isEscaping cs = false

/-- The text is in quotes, and every quote between these two is literal. -/
def IsPhrase (cs : List Char) : Prop :=
  ∃ body, cs = '"' :: (body ++ ['"']) ∧ isEscaping body = false ∧
    ∀ before after, body = before ++ '"' :: after → isEscaping before = true

variable {c : Char} {cs before after : List Char} {v : String}

theorem isReserved_iff_mem : isReserved c = true ↔ c ∈ "\\+-!():^[]\"\x7b\x7d~|&/".toList :=
  List.contains_iff_mem

theorem isEscaping_concat (cs : List Char) (c : Char) :
    isEscaping (cs ++ [c]) = (!isEscaping cs && c == '\\') := by
  simp [isEscaping]

theorem isEscaping_literal (c : Char) (cs : List Char) :
    isEscaping ('\\' :: c :: cs) = isEscaping cs := by
  simp [isEscaping]

theorem isEscaping_plain (hc : c ≠ '\\') (cs : List Char) :
    isEscaping (c :: cs) = isEscaping cs := by
  have hother : (c == '\\') = false := beq_eq_false_iff_ne.2 hc
  simp [isEscaping, hother]

theorem unescaped_plain (hc : c ≠ '\\') (cs : List Char) :
    unescaped (c :: cs) = c :: unescaped cs := by
  rw [unescaped] <;> simp_all

namespace Guarded

theorem nil : Guarded [] where
  reserved before c after hsplit := by simp at hsplit
  complete := rfl

theorem literal (c : Char) (h : Guarded cs) : Guarded ('\\' :: c :: cs) where
  reserved before d after hsplit hd := by
    cases before with
    | nil =>
      obtain ⟨rfl, -⟩ := List.cons.inj hsplit
      exact Or.inl rfl
    | cons b before =>
      obtain ⟨rfl, hrest⟩ := List.cons.inj hsplit
      cases before with
      | nil => exact Or.inr rfl
      | cons b before =>
        obtain ⟨rfl, hlater⟩ := List.cons.inj hrest
        simpa only [List.cons_append, isEscaping_literal] using h.reserved before d after hlater hd
  complete := (isEscaping_literal c cs).trans h.complete

theorem plain (hc : isReserved c = false) (h : Guarded cs) : Guarded (c :: cs) where
  reserved before d after hsplit hd := by
    cases before with
    | nil =>
      obtain ⟨rfl, -⟩ := List.cons.inj hsplit
      rw [← isReserved_iff_mem, hc] at hd
      cases hd
    | cons b before =>
      obtain ⟨rfl, hlater⟩ := List.cons.inj hsplit
      simpa only [List.cons_append, isEscaping_plain (ne_backslash hc)] using
        h.reserved before d after hlater hd
  complete := (isEscaping_plain (ne_backslash hc) cs).trans h.complete

theorem quote (h : Guarded cs) (hsplit : cs = before ++ '"' :: after) :
    isEscaping before = true := by
  rcases h.reserved before '"' after hsplit (by decide) with hquote | hbefore
  · simp [isEscaping_concat] at hquote
  · exact hbefore

end Guarded

theorem unescaped_escapeChars (cs : List Char) : unescaped (escapeChars cs) = cs := by
  induction cs with
  | nil => rfl
  | cons c cs ih =>
    cases hc : isReserved c with
    | true => simp [escapeChars, hc, unescaped, ih]
    | false => simp [escapeChars, hc, unescaped_plain (ne_backslash hc), ih]

theorem unescaped_escape (v : String) : unescaped (escape v).toList = v.toList := by
  rcases escape_cases v with htext | ⟨c, cs, hv, -, htext⟩
  · rw [htext, unescaped_escapeChars]
  · rw [htext, hv, unescaped, unescaped_escapeChars]

theorem escapeChars_guarded (cs : List Char) : Guarded (escapeChars cs) := by
  induction cs with
  | nil => exact .nil
  | cons c cs ih =>
    cases hc : isReserved c with
    | true => simpa [escapeChars, hc] using ih.literal c
    | false => simpa [escapeChars, hc] using ih.plain hc

theorem escape_guarded (v : String) : Guarded (escape v).toList := by
  rcases escape_cases v with htext | ⟨c, cs, -, -, htext⟩
  · rw [htext]
    exact escapeChars_guarded _
  · rw [htext]
    exact (escapeChars_guarded cs).literal c

theorem hasBlank_escapeChars (cs : List Char) :
    Text.hasBlank (escapeChars cs) = Text.hasBlank cs := by
  have hbackslash : Text.isBlank '\\' = false := by decide
  induction cs with
  | nil => rfl
  | cons c cs ih =>
    simp only [Text.hasBlank] at ih
    cases hc : isReserved c <;> simp [escapeChars, hc, Text.hasBlank, hbackslash, ih]

theorem hasBlank_escape (v : String) :
    Text.hasBlank (escape v).toList = Text.hasBlank v.toList := by
  have hbackslash : Text.isBlank '\\' = false := by decide
  rcases escape_cases v with htext | ⟨c, cs, hv, hc, htext⟩
  · rw [htext, hasBlank_escapeChars]
  · have hchars := hasBlank_escapeChars (c :: cs)
    rw [htext, hv, ← hchars]
    simp [escapeChars, hc, Text.hasBlank, hbackslash]

theorem escape_injective : Function.Injective escape := by
  intro v w h
  apply String.toList_injective
  rw [← unescaped_escape v, h, unescaped_escape w]

/-- An operator word has no escapes, so the only value that could have it for its text is the word
itself, and that one is escaped. -/
theorem escape_ne_operator (v : String) : escape v ∉ ["AND", "OR", "NOT"] := by
  have hwords : ∀ word ∈ ["AND", "OR", "NOT"],
      unescaped word.toList = word.toList ∧ escape word ≠ word := by decide +kernel
  intro hmem
  obtain ⟨hword, hescape⟩ := hwords _ hmem
  rw [unescaped_escape, String.toList_inj] at hword
  rw [← hword] at hescape
  exact hescape hword.symm

theorem quoteIfBlank_of_hasBlank (h : Text.hasBlank v.toList = true) :
    (quoteIfBlank v).toList = '"' :: ((escape v).toList ++ ['"']) := by
  simp [quoteIfBlank, h]

theorem quoteIfBlank_of_not_hasBlank (h : Text.hasBlank v.toList = false) :
    quoteIfBlank v = escape v := by
  simp [quoteIfBlank, h]

theorem isPhrase_quoteIfBlank (h : Text.hasBlank v.toList = true) :
    IsPhrase (quoteIfBlank v).toList :=
  ⟨(escape v).toList, quoteIfBlank_of_hasBlank h, (escape_guarded v).complete,
    fun _ _ => (escape_guarded v).quote⟩

/-- Escaped text begins with no quote, so it is no phrase. -/
theorem escape_ne_quote (v : String) (cs : List Char) : (escape v).toList ≠ '"' :: cs := by
  intro h
  have hfirst : isEscaping [] = true := (escape_guarded v).quote h
  cases hfirst

theorem quoteIfBlank_injective : Function.Injective quoteIfBlank := by
  intro v w h
  cases hv : Text.hasBlank v.toList <;> cases hw : Text.hasBlank w.toList
  · rw [quoteIfBlank_of_not_hasBlank hv, quoteIfBlank_of_not_hasBlank hw] at h
    exact escape_injective h
  · have hquote := quoteIfBlank_of_hasBlank hw
    rw [← h, quoteIfBlank_of_not_hasBlank hv] at hquote
    exact (escape_ne_quote v _ hquote).elim
  · have hquote := quoteIfBlank_of_hasBlank hv
    rw [h, quoteIfBlank_of_not_hasBlank hw] at hquote
    exact (escape_ne_quote w _ hquote).elim
  · have hbodies := congrArg String.toList h
    rw [quoteIfBlank_of_hasBlank hv, quoteIfBlank_of_hasBlank hw] at hbodies
    have hescape := List.append_cancel_right (List.cons.inj hbodies).2
    exact escape_injective (String.toList_injective hescape)

/-- Escaping can be undone, leaves no reserved character with its own meaning and makes no operator
word. A value with white space becomes one phrase, any other value a text without white space. -/
theorem escape_reversible :
    (∀ v : String,
      unescaped (escape v).toList = v.toList ∧ Guarded (escape v).toList ∧
      escape v ∉ ["AND", "OR", "NOT"] ∧
      if Text.hasBlank v.toList then IsPhrase (quoteIfBlank v).toList
      else Text.hasBlank (quoteIfBlank v).toList = false) ∧
    Function.Injective escape ∧ Function.Injective quoteIfBlank := by
  refine ⟨fun v => ⟨unescaped_escape v, escape_guarded v, escape_ne_operator v, ?_⟩,
    escape_injective, quoteIfBlank_injective⟩
  split
  · next h => exact isPhrase_quoteIfBlank h
  · next h =>
    have hblank : Text.hasBlank v.toList = false := by simpa using h
    rw [quoteIfBlank_of_not_hasBlank hblank, hasBlank_escape, hblank]

end SearchRetrieve.Native
