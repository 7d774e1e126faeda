import SearchRetrieve.Text.Split
import SearchRetrieve.Xml.Tag

/-!
# Pieces of a document

A document is a sequence of tags, runs of text, comments and processing instructions. Each piece
keeps its markup.
-/
namespace SearchRetrieve.Xml

inductive Piece where
  | opening (tag : Tag) (markup : String)
  | closing (name : RawName) (markup : String)
  /-- A run of plain text or a CDATA section. -/
  | text (content markup : String)
  | comment (markup : String)
  | instruction (markup : String)
  deriving DecidableEq, Repr

namespace Piece

/-- What is inside a tag, and the text after it; a quoted value may have any character. -/
def tagSpan (quote : Option Char) : List Char → Option (List Char × List Char)
  | [] => none
  | c :: rest =>
    if quote.isNone && c == '>' then some ([], rest)
    else
      let quote :=
        match quote with
        | some q => if c = q then none else some q
        | none => if c = '"' ∨ c = '\'' then some c else none
      (tagSpan quote rest).map fun p => (c :: p.1, p.2)

def comment? (body : List Char) : Option Piece :=
  if Text.hasWord "--".toList body || body.getLast? == some '-' then none
  else some (.comment ("<!--" ++ String.ofList body ++ "-->"))

def cdata (body : List Char) : Piece :=
  .text (cdataText body) ("<![CDATA[" ++ String.ofList body ++ "]]>")

/-- The text `xml` and a blank begin a declaration, which is no instruction. -/
def instruction? (body : List Char) : Option Piece :=
  if "xml ".toList.isPrefixOf body || !beginsName body then none
  else some (.instruction ("<?" ++ String.ofList body ++ "?>"))

def closing? (body : List Char) : Option Piece :=
  (closedName? body).map (.closing · ("</" ++ String.ofList body ++ ">"))

def opening? (body : List Char) : Option Piece :=
  (Tag.ofChars? body).map (.opening · ("<" ++ String.ofList body ++ ">"))

def plain? (body : List Char) : Option Piece :=
  if Text.hasWord "]]>".toList body then none
  else (plainText? body).map (.text · (String.ofList body))

def ofSplit (make : List Char → Option Piece) (split : Option (List Char × List Char)) :
    Option (Piece × List Char) :=
  split >>= fun p => (make p.1).map (·, p.2)

def next? (cs : List Char) : Option (Piece × List Char) :=
  match cs with
  | '<' :: '!' :: '-' :: '-' :: rest => ofSplit comment? (Text.around? "-->".toList rest)
  | '<' :: '!' :: rest =>
    Text.after? "[CDATA[".toList rest >>= fun rest =>
      ofSplit (some ∘ cdata) (Text.around? "]]>".toList rest)
  | '<' :: '?' :: rest => ofSplit instruction? (Text.around? "?>".toList rest)
  | '<' :: '/' :: rest => ofSplit closing? (tagSpan none rest)
  | '<' :: rest => ofSplit opening? (tagSpan none rest)
  | c :: rest =>
    ofSplit plain? (some (c :: rest.takeWhile (· != '<'), rest.dropWhile (· != '<')))
  | [] => none

theorem tagSpan_length {quote : Option Char} {cs body rest : List Char}
    (h : tagSpan quote cs = some (body, rest)) : rest.length < cs.length := by
  induction cs generalizing quote body with
  | nil => simp [tagSpan] at h
  | cons c cs ih =>
    unfold tagSpan at h
    split at h
    · simp_all
    · obtain ⟨⟨before, after⟩, hp, h⟩ := Option.map_eq_some_iff.1 h
      simp only [Prod.mk.injEq] at h
      obtain ⟨-, rfl⟩ := h
      have := ih hp
      simp only [List.length_cons]
      omega

theorem ofSplit_length {make : List Char → Option Piece} {split : Option (List Char × List Char)}
    {piece : Piece} {rest : List Char} {n : Nat} (h : ofSplit make split = some (piece, rest))
    (hs : ∀ body after, split = some (body, after) → after.length < n) : rest.length < n := by
  obtain ⟨p, hp, h⟩ := Option.bind_eq_some_iff.1 h
  obtain ⟨q, -, h⟩ := Option.map_eq_some_iff.1 h
  simp only [Prod.mk.injEq] at h
  exact h.2 ▸ hs p.1 p.2 hp

theorem next?_length {cs rest : List Char} {piece : Piece} (h : next? cs = some (piece, rest)) :
    rest.length < cs.length := by
  unfold next? at h
  split at h
  · refine ofSplit_length h fun body after hs => ?_
    have := Text.around?_length hs
    simp only [List.length_cons]
    omega
  · obtain ⟨later, ha, h⟩ := Option.bind_eq_some_iff.1 h
    refine ofSplit_length h fun body after hs => ?_
    have := Text.after?_length ha
    have := Text.around?_length hs
    simp only [List.length_cons]
    omega
  · refine ofSplit_length h fun body after hs => ?_
    have := Text.around?_length hs
    simp only [List.length_cons]
    omega
  · refine ofSplit_length h fun body after hs => ?_
    have := tagSpan_length hs
    simp only [List.length_cons]
    omega
  · refine ofSplit_length h fun body after hs => ?_
    have := tagSpan_length hs
    simp only [List.length_cons]
    omega
  · refine ofSplit_length h fun body after hs => ?_
    simp only [Option.some.injEq, Prod.mk.injEq] at hs
    rw [← hs.2, List.length_cons]
    exact Nat.lt_succ_of_le (List.dropWhile_sublist _).length_le
  · simp at h

def ofChars? (cs : List Char) : Option (List Piece) :=
  if cs.isEmpty then some []
  else
    match _h : next? cs with
    | some (piece, rest) => (ofChars? rest).map (piece :: ·)
    | none => none
termination_by cs.length
decreasing_by exact next?_length _h

end Piece

end SearchRetrieve.Xml
