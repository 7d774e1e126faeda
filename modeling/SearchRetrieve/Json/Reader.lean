import SearchRetrieve.Json.Basic
import SearchRetrieve.Text.Split
import SearchRetrieve.Text.Digits

/-!
# Reading JSON

The grammar is the strict one: no comments, no trailing commas, no leading zeros, and no control
characters inside strings.
-/
namespace SearchRetrieve.Json

def isJsonSpace (c : Char) : Bool := c == ' ' || c == '\n' || c == '\t' || c == '\r'

def skipSpace (cs : List Char) : List Char := cs.dropWhile isJsonSpace

theorem skipSpace_length (cs : List Char) : (skipSpace cs).length ≤ cs.length :=
  (List.dropWhile_sublist _).length_le

def unit? (a b c d : Char) : Option Nat := do
  let digits ← [a, b, c, d].mapM Text.hexDigit?
  return digits.foldl (fun n digit => n * 16 + digit) 0

def shortEscape? (c : Char) : Option Char :=
  match c with
  | '"' => some '"'
  | '\\' => some '\\'
  | '/' => some '/'
  | 'b' => some '\x08'
  | 'f' => some '\x0c'
  | 'n' => some '\n'
  | 'r' => some '\r'
  | 't' => some '\t'
  | _ => none

/-- The code units of a string up to its closing quote: a character, or a unit of a pair. -/
def readUnits : List Char → Option (List (Char ⊕ Nat) × List Char)
  | [] => none
  | '"' :: rest => some ([], rest)
  | '\\' :: 'u' :: a :: b :: c :: d :: rest => do
    let n ← unit? a b c d
    let (later, rest) ← readUnits rest
    return ((if 0xD800 ≤ n ∧ n < 0xE000 then .inr n else .inl (Char.ofNat n)) :: later, rest)
  | '\\' :: e :: rest => do
    let c ← shortEscape? e
    let (later, rest) ← readUnits rest
    return (.inl c :: later, rest)
  | c :: rest =>
    if c.toNat < 0x20 then none
    else do
      let (later, rest) ← readUnits rest
      return (.inl c :: later, rest)

/-- The text of code units, if every surrogate has its partner. -/
def pairUnits : List (Char ⊕ Nat) → Option (List Char)
  | [] => some []
  | .inl c :: rest => (pairUnits rest).map (c :: ·)
  | .inr high :: .inr low :: rest =>
    if high < 0xDC00 ∧ 0xDC00 ≤ low then
      (pairUnits rest).map (Char.ofNat (0x10000 + (high - 0xD800) * 0x400 + (low - 0xDC00)) :: ·)
    else none
  | .inr _ :: _ => none

theorem readUnits_length {cs rest : List Char} {us : List (Char ⊕ Nat)}
    (h : readUnits cs = some (us, rest)) : rest.length < cs.length := by
  fun_induction readUnits cs generalizing us rest with
  | case1 => simp at h
  | case2 r => simp_all
  | case3 a b c d r ih =>
    simp only [bind, Option.bind_eq_some_iff] at h
    obtain ⟨n, -, p, hp, h⟩ := h
    simp only [pure, Option.some.injEq, Prod.mk.injEq] at h
    have := ih hp
    simp only [List.length_cons, ← h.2]
    omega
  | case4 e r _ ih =>
    simp only [bind, Option.bind_eq_some_iff] at h
    obtain ⟨n, -, p, hp, h⟩ := h
    simp only [pure, Option.some.injEq, Prod.mk.injEq] at h
    have := ih hp
    simp only [List.length_cons, ← h.2]
    omega
  | case5 => simp at h
  | case6 c r _ _ _ _ ih =>
    simp only [bind, Option.bind_eq_some_iff] at h
    obtain ⟨p, hp, h⟩ := h
    simp only [pure, Option.some.injEq, Prod.mk.injEq] at h
    have := ih hp
    simp only [List.length_cons, ← h.2]
    omega

/-- A string after its opening quote, `none` inside where it is no text. -/
def readString (cs : List Char) : Option (Parsed Char (Option String) cs.length) :=
  match h : readUnits cs with
  | some (us, rest) => some ⟨(pairUnits us).map String.ofList, rest, readUnits_length h⟩
  | none => none

def readExponent (cs : List Char) : Option (Int × List Char) :=
  let (negative, cs) :=
    match cs with
    | '-' :: rest => (true, rest)
    | '+' :: rest => (false, rest)
    | cs => (false, cs)
  let digits := cs.takeWhile Text.isDigit
  if digits.isEmpty then none
  else
    let n : Int := Text.digitsValue digits
    some (if negative then -n else n, cs.dropWhile Text.isDigit)

def readFraction (negative : Bool) (intDigits : List Char) (cs : List Char) :
    Option (Number × List Char) := do
  let (fraction, afterFraction) ←
    match cs with
    | '.' :: rest =>
      let digits := rest.takeWhile Text.isDigit
      if digits.isEmpty then none else some (some digits, rest.dropWhile Text.isDigit)
    | cs => some (none, cs)
  let (exponent, rest) ←
    match afterFraction with
    | 'e' :: rest | 'E' :: rest => (readExponent rest).map fun p => (some p.1, p.2)
    | cs => some (none, cs)
  let places := fraction.getD []
  return (⟨negative, Text.digitsValue (intDigits ++ places), exponent.getD 0 - places.length,
    fraction.isNone && exponent.isNone⟩, rest)

def readNumber (cs : List Char) : Option (Number × List Char) :=
  let (negative, cs) :=
    match cs with
    | '-' :: rest => (true, rest)
    | cs => (false, cs)
  match cs with
  | '0' :: rest =>
    if rest.head?.any Text.isDigit then none else readFraction negative ['0'] rest
  | c :: rest =>
    if Text.isDigit c then
      readFraction negative (c :: rest.takeWhile Text.isDigit) (rest.dropWhile Text.isDigit)
    else none
  | [] => none

/-- Keeps a result whose rest is shorter than the text it was read from. -/
def checked {α : Type} (n : Nat) (r : Option (α × List Char)) : Option (Parsed Char α n) :=
  match r with
  | some (a, rest) => if h : rest.length < n then some ⟨a, rest, h⟩ else none
  | none => none

/-- The object of some members, one of which may have a name that is no text. -/
def ofMembers (members : List (Option String × Json)) : Json :=
  match members.mapM (fun m : Option String × Json => m.1.map fun name => (name, m.2)) with
  | some named => .object named
  | none => .unreadable

mutual

def readValue (cs : List Char) : Option (Parsed Char Json cs.length) :=
  match cs with
  | '"' :: rest => do
    let s ← readString rest
    return (s.map fun t => (t.map Json.text).getD .unreadable).weaken (by simp)
  | '[' :: rest => do
    let items ← readItems true rest
    return (items.map Json.list).weaken (by simp)
  | '\x7b' :: rest => do
    let members ← readMembers true rest
    return (members.map ofMembers).weaken (by simp)
  | cs =>
    match cs.head? with
    | some 't' => checked _ ((Text.after? "true".toList cs).map (.bool true, ·))
    | some 'f' => checked _ ((Text.after? "false".toList cs).map (.bool false, ·))
    | some 'n' => checked _ ((Text.after? "null".toList cs).map (.null, ·))
    | _ => checked _ ((readNumber cs).map fun p => (.number p.1, p.2))
termination_by (cs.length, 0)

/-- The items of a list up to its closing bracket, which may come at once if `first`. -/
def readItems (first : Bool) (cs : List Char) : Option (Parsed Char (List Json) cs.length) :=
  have hs := skipSpace_length cs
  match hc : skipSpace cs with
  | [] => none
  | c :: rest =>
    if c = ']' then
      if first then some ⟨[], rest, by simp only [hc, List.length_cons] at hs; omega⟩ else none
    else do
      let item ← readValue (c :: rest)
      have hi := item.shorter
      have ht := skipSpace_length item.rest
      match hr : skipSpace item.rest with
      | ',' :: rest =>
        let later ← readItems false rest
        return (later.map (item.value :: ·)).weaken (by
          simp only [hc, hr, List.length_cons] at hs hi ht
          omega)
      | ']' :: rest =>
        return ⟨[item.value], rest, by
          simp only [hc, hr, List.length_cons] at hs hi ht
          omega⟩
      | _ => none
termination_by (cs.length, 1)
decreasing_by
  · simp only [hc] at hs
    rcases Nat.lt_or_eq_of_le hs with h | h
    · exact Prod.Lex.left _ _ h
    · rw [← h]
      exact Prod.Lex.right _ (by decide)
  · refine Prod.Lex.left _ _ ?_
    simp only [hc, hr, List.length_cons] at hs hi ht ⊢
    omega

/-- The members of an object up to its closing brace, which may come at once if `first`. -/
def readMembers (first : Bool) (cs : List Char) :
    Option (Parsed Char (List (Option String × Json)) cs.length) :=
  have hs := skipSpace_length cs
  match hc : skipSpace cs with
  | '\x7d' :: rest =>
    if first then some ⟨[], rest, by simp [hc] at hs; omega⟩ else none
  | '"' :: rest => do
    let name ← readString rest
    have hn := name.shorter
    have ht := skipSpace_length name.rest
    match hr : skipSpace name.rest with
    | ':' :: rest =>
      let value ← readValue (skipSpace rest)
      have hv := value.shorter
      have hw := skipSpace_length rest
      have hx := skipSpace_length value.rest
      match hy : skipSpace value.rest with
      | ',' :: rest =>
        let later ← readMembers false rest
        return (later.map ((name.value, value.value) :: ·)).weaken (by
          simp [hc, hr, hy] at hs hn ht hx
          omega)
      | '\x7d' :: rest =>
        return ⟨[(name.value, value.value)], rest, by
          simp [hc, hr, hy] at hs hn ht hx
          omega⟩
      | _ => none
    | _ => none
  | _ => none
termination_by (cs.length, 1)
decreasing_by
  · refine Prod.Lex.left _ _ ?_
    have := skipSpace_length rest
    simp [hc, hr] at hs hn ht ⊢
    omega
  · refine Prod.Lex.left _ _ ?_
    simp [hc, hr, hy] at hs hn ht hx ⊢
    omega

end

def ofText? (s : String) : Option Json := do
  let found ← readValue (skipSpace s.toList)
  if (skipSpace found.rest).isEmpty then return found.value else none

end SearchRetrieve.Json
