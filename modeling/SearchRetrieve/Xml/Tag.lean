import SearchRetrieve.Text.Blank
import SearchRetrieve.Xml.Characters

/-!
# Tags

What stands between the angle brackets of a tag: a name, which may have a namespace prefix, and
attributes with white space in front of each.
-/
namespace SearchRetrieve.Xml

/-- A name as it is written; `spacePrefix` is the part before the colon, empty without one. -/
structure RawName where
  spacePrefix : String
  localName : String
  deriving DecidableEq, Repr

/-- An attribute as it is written, its value without quotes. -/
structure RawAttribute where
  name : RawName
  value : List Char
  deriving DecidableEq, Repr

/-- What the tag of an element says, with attribute values resolved. -/
structure Tag where
  name : RawName
  attributes : List (RawName × String)
  /-- Does the element end with this tag? -/
  isEmpty : Bool
  deriving DecidableEq, Repr

def RawName.ofChars? (cs : List Char) : Option RawName :=
  match cs.splitOn ':' with
  | [localName] => if beginsName localName then some ⟨"", String.ofList localName⟩ else none
  | [spacePrefix, localName] =>
    if (spacePrefix.isEmpty || beginsName spacePrefix) && beginsName localName then
      some ⟨String.ofList spacePrefix, String.ofList localName⟩
    else none
  | _ => none

def readName (cs : List Char) : Option (RawName × List Char) :=
  (RawName.ofChars? (cs.takeWhile isNameChar)).map fun name => (name, cs.dropWhile isNameChar)

/-- A value between quotes of one kind, without a less-than sign, and the text after it. -/
def readValue (cs : List Char) : Option (List Char × List Char) :=
  match cs with
  | quote :: rest =>
    if quote = '"' ∨ quote = '\'' then
      let inside (c : Char) : Bool := c != quote && c != '<'
      match rest.dropWhile inside with
      | c :: after => if c = quote then some (rest.takeWhile inside, after) else none
      | [] => none
    else none
  | [] => none

def readAttribute (cs : List Char) : Option (RawAttribute × List Char) := do
  let (name, rest) ← readName cs
  match skipSpace rest with
  | '=' :: rest =>
    let (value, rest) ← readValue (skipSpace rest)
    return (⟨name, value⟩, rest)
  | _ => none

theorem readValue_length {cs value rest : List Char} (h : readValue cs = some (value, rest)) :
    rest.length < cs.length := by
  unfold readValue at h
  split at h
  · next quote later =>
    split at h
    · dsimp only at h
      split at h
      · next c after hd =>
        have hl : (c :: after).length ≤ later.length := hd ▸ (List.dropWhile_sublist _).length_le
        split at h <;> simp_all
        omega
      · simp at h
    · simp at h
  · simp at h

theorem readName_length {cs rest : List Char} {name : RawName}
    (h : readName cs = some (name, rest)) : rest.length ≤ cs.length := by
  obtain ⟨n, -, hn⟩ := Option.map_eq_some_iff.1 h
  simp only [Prod.mk.injEq] at hn
  rw [← hn.2]
  exact (List.dropWhile_sublist _).length_le

theorem readAttribute_length {cs rest : List Char} {a : RawAttribute}
    (h : readAttribute cs = some (a, rest)) : rest.length < cs.length := by
  simp only [readAttribute, bind, Option.bind_eq_some_iff] at h
  obtain ⟨⟨name, afterName⟩, hn, h⟩ := h
  have hl := readName_length hn
  have hs := skipSpace_length afterName
  dsimp only at h
  split at h
  · next afterEquals he =>
    simp only [Option.bind_eq_some_iff, pure, Option.some.injEq, Prod.mk.injEq] at h
    obtain ⟨⟨value, afterValue⟩, hv, -, rfl⟩ := h
    have hv := readValue_length hv
    have ht := skipSpace_length afterEquals
    simp only [he, List.length_cons] at hs
    change afterValue.length < cs.length
    omega
  · simp at h

/-- The attributes up to the end of a tag, with white space in front of each. -/
def readAttributes (cs : List Char) : Option (List RawAttribute) :=
  match cs with
  | [] => some []
  | c :: rest =>
    if isSpace c then
      if (skipSpace rest).isEmpty then some []
      else
        match _ha : readAttribute (skipSpace rest) with
        | some (a, after) => (readAttributes after).map (a :: ·)
        | none => none
    else none
termination_by cs.length
decreasing_by
  have := readAttribute_length _ha
  have := skipSpace_length rest
  simp only [List.length_cons]
  omega

def RawAttribute.resolved? (a : RawAttribute) : Option (RawName × String) :=
  (attributeValue? a.value).map (a.name, ·)

def Tag.ofChars? (cs : List Char) : Option Tag := do
  let isEmpty := cs.getLast? == some '/'
  let (name, rest) ← readName (if isEmpty then cs.dropLast else cs)
  let attributes ← readAttributes rest
  return ⟨name, ← attributes.mapM RawAttribute.resolved?, isEmpty⟩

def closedName? (cs : List Char) : Option RawName := do
  let (name, rest) ← readName cs
  if (skipSpace rest).isEmpty then return name else none

def afterAttribute? (word : String) (cs : List Char) : Option (List Char) :=
  if word.toList.isPrefixOf cs then (readAttribute cs).map (·.2) else none

/-- The text after white space, which must be there unless the declaration ends. -/
def afterSpace? (cs : List Char) : Option (List Char) :=
  if cs.head?.any isSpace || cs.isEmpty || "?>".toList.isPrefixOf cs then some (skipSpace cs)
  else none

/-- The document after an XML declaration, of which `cs` is what follows its first word: a
version, then perhaps an encoding, then perhaps whether the document stands alone. -/
def afterDeclaration? (cs : List Char) : Option (List Char) := do
  let cs ← afterAttribute? "version" (skipSpace cs)
  let cs ← afterSpace? cs
  let cs ←
    if "encoding".toList.isPrefixOf cs then afterAttribute? "encoding" cs >>= afterSpace?
    else some cs
  let cs ←
    if "standalone".toList.isPrefixOf cs then afterAttribute? "standalone" cs else some cs
  match skipSpace cs with
  | '?' :: '>' :: rest => some rest
  | _ => none

end SearchRetrieve.Xml
