import SearchRetrieve.Text.Blank

/-!
# Tokens of a query

A query text is cut into words, quoted texts, comparators, slashes and parentheses. White space
separates and is skipped. The only text that cannot be cut is one that ends inside a quotation.
-/
namespace SearchRetrieve

inductive Comparator where
  | equal
  | exactly
  | less
  | greater
  | atMost
  | atLeast
  | different
  deriving DecidableEq, Repr

def Comparator.symbol : Comparator → String
  | equal => "="
  | exactly => "=="
  | less => "<"
  | greater => ">"
  | atMost => "<="
  | atLeast => ">="
  | different => "<>"

inductive Token where
  | word (text : String)
  | quoted (text : String)
  | comparator (c : Comparator)
  | slash
  | leftParen
  | rightParen
  deriving DecidableEq, Repr

namespace Token

def isDelimiter (c : Char) : Bool :=
  c == '(' || c == ')' || c == '=' || c == '<' || c == '>' || c == '/' || c == '"'

def isWordChar (c : Char) : Bool := !Text.isBlank c && !isDelimiter c

/-- The longest comparator after its first character `c`, if `c` begins one, and the rest. -/
def comparator? (c : Char) (rest : List Char) : Option (Comparator × List Char) :=
  match c, rest with
  | '=', '=' :: rest => some (.exactly, rest)
  | '=', rest => some (.equal, rest)
  | '<', '=' :: rest => some (.atMost, rest)
  | '<', '>' :: rest => some (.different, rest)
  | '<', rest => some (.less, rest)
  | '>', '=' :: rest => some (.atLeast, rest)
  | '>', rest => some (.greater, rest)
  | _, _ => none

/-- The text up to the closing quote and what follows it. A backslash before a quote or a
backslash is dropped; any other backslash stays for the native query. -/
def quotation? : List Char → Option (List Char × List Char)
  | [] => none
  | '"' :: rest => some ([], rest)
  | '\\' :: '"' :: rest => (quotation? rest).map fun r => ('"' :: r.1, r.2)
  | '\\' :: '\\' :: rest => (quotation? rest).map fun r => ('\\' :: r.1, r.2)
  | c :: rest => (quotation? rest).map fun r => (c :: r.1, r.2)

/-- What begins a text: a token and the rest, nothing but white space, or a quotation that is
never closed. -/
inductive Step where
  | token (t : Token) (rest : List Char)
  | finished
  | unterminated
  deriving DecidableEq, Repr

def startingWith (c : Char) (rest : List Char) : Step :=
  match c with
  | '(' => .token .leftParen rest
  | ')' => .token .rightParen rest
  | '/' => .token .slash rest
  | '"' =>
    match quotation? rest with
    | some (text, rest) => .token (.quoted (String.ofList text)) rest
    | none => .unterminated
  | c =>
    match comparator? c rest with
    | some (symbol, rest) => .token (.comparator symbol) rest
    | none =>
      .token (.word (String.ofList (c :: rest.takeWhile isWordChar))) (rest.dropWhile isWordChar)

def next (cs : List Char) : Step :=
  match Text.trimStartChars cs with
  | [] => .finished
  | c :: rest => startingWith c rest

theorem comparator?_length {c : Char} {rest rest' : List Char} {s : Comparator}
    (h : comparator? c rest = some (s, rest')) : rest'.length ≤ rest.length := by
  unfold comparator? at h
  split at h <;> simp_all

theorem quotation?_length {cs text rest : List Char} (h : quotation? cs = some (text, rest)) :
    rest.length < cs.length := by
  fun_induction quotation? cs generalizing text rest with
  | case1 => simp at h
  | case2 r => simp_all
  | case3 r ih | case4 r ih =>
    simp only [Option.map_eq_some_iff, Prod.exists, Prod.mk.injEq] at h
    obtain ⟨a, b, hab, _, rfl⟩ := h
    have := ih hab
    simp only [List.length_cons]
    omega
  | case5 c r _ _ _ ih =>
    simp only [Option.map_eq_some_iff, Prod.exists, Prod.mk.injEq] at h
    obtain ⟨a, b, hab, _, rfl⟩ := h
    have := ih hab
    simp only [List.length_cons]
    omega

theorem startingWith_length {c : Char} {rest rest' : List Char} {t : Token}
    (h : startingWith c rest = .token t rest') : rest'.length ≤ rest.length := by
  unfold startingWith at h
  split at h
  · simp_all
  · simp_all
  · simp_all
  · split at h
    · next hq =>
      simp only [Step.token.injEq] at h
      obtain ⟨_, rfl⟩ := h
      exact Nat.le_of_lt (quotation?_length hq)
    · simp at h
  · split at h
    · next hc =>
      simp only [Step.token.injEq] at h
      obtain ⟨_, rfl⟩ := h
      exact comparator?_length hc
    · simp only [Step.token.injEq] at h
      obtain ⟨_, rfl⟩ := h
      exact (List.dropWhile_sublist _).length_le

/-- Every token takes at least one character. -/
theorem next_length {cs rest : List Char} {t : Token} (h : next cs = .token t rest) :
    rest.length < cs.length := by
  unfold next at h
  split at h
  · simp at h
  · next c r hs =>
    have hle : (c :: r).length ≤ cs.length :=
      hs ▸ (List.dropWhile_sublist Text.isBlank).length_le
    have := startingWith_length h
    simp only [List.length_cons] at hle
    omega

/-- The tokens of a text. Where `complete` is false the text ends inside a quotation that begins
after the last token. -/
structure Sequence where
  tokens : List Token
  complete : Bool
  deriving DecidableEq, Repr

def sequence (cs : List Char) : Sequence :=
  match _h : next cs with
  | .finished => ⟨[], true⟩
  | .unterminated => ⟨[], false⟩
  | .token t rest =>
    let later := sequence rest
    ⟨t :: later.tokens, later.complete⟩
termination_by cs.length
decreasing_by exact next_length _h

end Token

end SearchRetrieve
