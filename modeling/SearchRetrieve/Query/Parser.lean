import SearchRetrieve.Text.Split
import SearchRetrieve.Query.Basic
import SearchRetrieve.Query.Token
import SearchRetrieve.Text.Unprintable

/-!
# Reading a query

The grammar is

    query     := clause (BOOLEAN modifiers clause)*
    clause    := '(' query ')' | WORD relation modifiers term | term
    relation  := COMPARATOR | WORD
    modifiers := ('/' WORD (COMPARATOR term)?)*
    term      := WORD | QUOTED

Booleans group to the left and bind equally. One token is looked at ahead, so a quotation without
an end is reported as soon as the token before it is taken.
-/
namespace SearchRetrieve

/-- Why a text is no query; `got` is the token that stands in the way, `none` at the end. -/
inductive QueryError where
  | empty
  | unterminatedQuotation
  | trailing (got : Option Token)
  | expectedClause (got : Option Token)
  | expectedTerm (got : Option Token)
  | expectedModifierName (got : Option Token)
  | expectedClosing (got : Option Token)
  | unknownRelation (relation index : String)
  deriving DecidableEq, Repr

def Token.description : Token → String
  | word text => "Word(" ++ Text.quoted text ++ ")"
  | quoted text => "Quoted(" ++ Text.quoted text ++ ")"
  | comparator c => "Comparator(" ++ Text.quoted c.symbol ++ ")"
  | slash => "Slash"
  | leftParen => "LeftParen"
  | rightParen => "RightParen"

def QueryError.describe : Option Token → String
  | some token => token.description
  | none => "Eof"

def QueryError.message : QueryError → String
  | empty => "Empty query"
  | unterminatedQuotation => "Unterminated quoted string"
  | trailing got => "Unexpected token after query: " ++ describe got
  | expectedClause got => "Expected a search clause, got " ++ describe got
  | expectedTerm got => "Expected a search term, got " ++ describe got
  | expectedModifierName got => "Expected a modifier name, got " ++ describe got
  | expectedClosing got => "Expected RightParen, got " ++ describe got
  | unknownRelation relation index =>
    "Unknown relation '" ++ relation ++ "' after index '" ++ index ++ "'"

namespace Query

/-- Looks at the first of the remaining tokens, which cannot be seen when they end inside a
quotation. -/
def look (complete : Bool) (rest : List Token) : Except QueryError Unit :=
  if rest.isEmpty && !complete then .error .unterminatedQuotation else .ok ()

def parseTerm (complete : Bool) (ts : List Token) :
    Except QueryError (Parsed Token String ts.length) :=
  match ts with
  | .word text :: rest => do
    look complete rest
    return ⟨text, rest, by simp⟩
  | .quoted text :: rest => do
    look complete rest
    return ⟨text, rest, by simp⟩
  | ts => .error (.expectedTerm ts.head?)

def parseComparison (complete : Bool) (name : String) (ts : List Token) :
    Except QueryError (Parsed Token Modifier (ts.length + 1)) :=
  match ts with
  | .comparator c :: rest => do
    look complete rest
    let value ← parseTerm complete rest
    return (value.map fun v => ⟨name, some c.symbol, some v⟩).weaken (by simp; omega)
  | ts => return ⟨⟨name, none, none⟩, ts, by simp⟩

def parseModifier (complete : Bool) (ts : List Token) :
    Except QueryError (Parsed Token Modifier ts.length) :=
  match ts with
  | .word name :: rest => do
    look complete rest
    parseComparison complete name rest
  | ts => .error (.expectedModifierName ts.head?)

def parseModifiers (complete : Bool) (ts : List Token) :
    Except QueryError (Parsed Token (List Modifier) (ts.length + 1)) :=
  match ts with
  | .slash :: rest => do
    look complete rest
    let first ← parseModifier complete rest
    let others ← parseModifiers complete first.rest
    return (others.map (first.value :: ·)).weaken (by have := first.shorter; simp; omega)
  | ts => return ⟨[], ts, by simp⟩
termination_by ts.length
decreasing_by have := first.shorter; simp; omega

def parseRelationTail (complete : Bool) (index base : String) (ts : List Token) :
    Except QueryError (Parsed Token Query ts.length) := do
  let modifiers ← parseModifiers complete ts
  let term ← parseTerm complete modifiers.rest
  return (term.map (.clause index ⟨base, modifiers.value⟩)).weaken
    (by have := modifiers.shorter; omega)

def parseAfterWord (complete : Bool) (word : String) (ts : List Token) :
    Except QueryError (Parsed Token Query (ts.length + 1)) :=
  match ts with
  | .comparator c :: rest => do
    look complete rest
    let found ← parseRelationTail complete word c.symbol rest
    return found.weaken (by simp; omega)
  | .word following :: rest =>
    if (BoolOp.ofWord? following).isSome then
      return ⟨.bare word, .word following :: rest, by simp⟩
    else if isRelationWord following then do
      look complete rest
      let found ← parseRelationTail complete word following rest
      return found.weaken (by simp; omega)
    else .error (.unknownRelation following word)
  | ts => return ⟨.bare word, ts, by simp⟩

mutual

def parseClause (complete : Bool) (ts : List Token) :
    Except QueryError (Parsed Token Query ts.length) :=
  match ts with
  | .leftParen :: rest => do
    look complete rest
    let inner ← parseQuery complete rest
    match h : inner.rest with
    | .rightParen :: after => do
      look complete after
      return ⟨inner.value, after, by
        have := inner.shorter
        simp [h] at this ⊢
        omega⟩
    | other => .error (.expectedClosing other.head?)
  | .quoted term :: rest => do
    look complete rest
    return ⟨.bare term, rest, by simp⟩
  | .word word :: rest => do
    look complete rest
    parseAfterWord complete word rest
  | ts => .error (.expectedClause ts.head?)
termination_by (ts.length, 0)

def parseQuery (complete : Bool) (ts : List Token) :
    Except QueryError (Parsed Token Query ts.length) := do
  let first ← parseClause complete ts
  let whole ← parseOperands complete first.value first.rest
  return whole.weaken first.shorter
termination_by (ts.length, 1)
decreasing_by
  · exact Prod.Lex.right _ (by decide)
  · exact Prod.Lex.left _ _ first.shorter

/-- The operators and clauses after the query `left`, joined to it one by one. -/
def parseOperands (complete : Bool) (left : Query) (ts : List Token) :
    Except QueryError (Parsed Token Query (ts.length + 1)) :=
  match ts with
  | .word word :: rest =>
    match BoolOp.ofWord? word with
    | some op => do
      look complete rest
      let modifiers ← parseModifiers complete rest
      let right ← parseClause complete modifiers.rest
      let whole ← parseOperands complete (.boolean op modifiers.value left right.value) right.rest
      return whole.weaken (by
        have := modifiers.shorter
        have := right.shorter
        simp
        omega)
    | none => return ⟨left, .word word :: rest, by simp⟩
  | ts => return ⟨left, ts, by simp⟩
termination_by (ts.length, 2)
decreasing_by
  · exact Prod.Lex.left _ _ (by have := modifiers.shorter; simp; omega)
  · exact Prod.Lex.left _ _ (by
      have := modifiers.shorter
      have := right.shorter
      simp
      omega)

end

/-- The query that a token sequence spells from its first token to its last. -/
def ofSequence (s : Token.Sequence) : Except QueryError Query := do
  look s.complete s.tokens
  if s.tokens.isEmpty then .error .empty
  else
    let whole ← parseQuery s.complete s.tokens
    if whole.rest.isEmpty then return whole.value
    else .error (.trailing whole.rest.head?)

def parse (text : String) : Except QueryError Query := ofSequence (Token.sequence text.toList)

end Query

end SearchRetrieve
