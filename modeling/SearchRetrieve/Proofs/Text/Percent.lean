import SearchRetrieve.Text.Digits

/-!
# Reading percent encodings

A percent sign and two hexadecimal digits stand for a byte, any other character for the bytes of
its UTF-8 form. What these bytes spell is the text that was encoded. An encoding is made of
unreserved characters and percent signs.
-/
namespace SearchRetrieve.Text

theorem mem_percentByte {b : UInt8} {c : Char} (h : c ∈ percentByte b) :
    isUnreserved c = true ∨ c = '%' := by
  have hdigit : ∀ n < 16, isUnreserved (upperHexDigit n) = true := by decide
  have hb : b.toNat < 256 := b.toNat_lt
  simp only [percentByte, List.mem_cons, List.not_mem_nil, or_false] at h
  rcases h with rfl | rfl | rfl
  · exact Or.inr rfl
  · exact Or.inl (hdigit _ (by omega))
  · exact Or.inl (hdigit _ (by omega))

theorem mem_percentEncoded {s : String} {c : Char} (h : c ∈ (percentEncoded s).toList) :
    isUnreserved c = true ∨ c = '%' := by
  simp only [percentEncoded, percentChars, String.toList_ofList, List.mem_flatMap] at h
  obtain ⟨d, -, hc⟩ := h
  unfold percentChar at hc
  split at hc
  · next hd =>
    rw [List.mem_singleton.1 hc]
    exact Or.inl hd
  · obtain ⟨b, -, hb⟩ := List.mem_flatMap.1 hc
    exact mem_percentByte hb

theorem percentChars_of_unreserved {cs : List Char} (h : ∀ c ∈ cs, isUnreserved c = true) :
    percentChars cs = cs := by
  induction cs with
  | nil => rfl
  | cons c cs ih =>
    have hc := h c (by simp)
    have hcs := ih fun d hd => h d (by simp [hd])
    unfold percentChars at hcs ⊢
    simp [percentChar, hc, hcs]

/-- A number in a URL is written as it is. -/
theorem percentEncoded_toString (n : Nat) : percentEncoded (toString n) = toString n := by
  have hdigits : ∀ c ∈ (toString n).toList, isUnreserved c = true := by
    intro c hc
    have hdigit : c.isDigit = true :=
      Nat.isDigit_of_mem_toDigits (b := 10) (n := n) (by decide) (by decide) (by simpa using hc)
    simp [isUnreserved, Char.isAlphanum, hdigit]
  rw [percentEncoded, percentChars_of_unreserved hdigits, String.ofList_toList]

def percentBytes? : List Char → Option (List UInt8)
  | [] => some []
  | '%' :: high :: low :: rest => do
    let h ← hexDigit? high
    let l ← hexDigit? low
    let bytes ← percentBytes? rest
    return UInt8.ofNat (16 * h + l) :: bytes
  | c :: rest => if c = '%' then none else (percentBytes? rest).map (String.utf8EncodeChar c ++ ·)

/-- The text whose UTF-8 form a percent encoding spells. -/
def percentDecoded? (cs : List Char) : Option String :=
  (percentBytes? cs).bind fun bytes => String.fromUTF8? bytes.toByteArray

theorem hexDigit?_upperHexDigit : ∀ n < 16, hexDigit? (upperHexDigit n) = some n := by decide

theorem percentBytes?_percentByte (b : UInt8) (rest : List Char) :
    percentBytes? (percentByte b ++ rest) = (percentBytes? rest).map (b :: ·) := by
  have hb : b.toNat < 256 := b.toNat_lt
  have hhigh := hexDigit?_upperHexDigit (b.toNat / 16) (by omega)
  have hlow := hexDigit?_upperHexDigit (b.toNat % 16) (by omega)
  have hbyte : UInt8.ofNat (16 * (b.toNat / 16) + b.toNat % 16) = b := by
    rw [Nat.div_add_mod]
    exact UInt8.ofNat_toNat
  simp only [percentByte, List.cons_append, List.nil_append, percentBytes?, hhigh, hlow,
    Option.bind_eq_bind, Option.bind_some, hbyte]
  cases percentBytes? rest <;> rfl

theorem percentBytes?_percentBytes (bytes : List UInt8) (rest : List Char) :
    percentBytes? (bytes.flatMap percentByte ++ rest) = (percentBytes? rest).map (bytes ++ ·) := by
  induction bytes with
  | nil => simp
  | cons b bytes ih =>
    rw [List.flatMap_cons, List.append_assoc, percentBytes?_percentByte, ih, Option.map_map]
    rfl

theorem percentBytes?_percentChar (c : Char) (rest : List Char) :
    percentBytes? (percentChar isUnreserved c ++ rest) =
      (percentBytes? rest).map (String.utf8EncodeChar c ++ ·) := by
  unfold percentChar
  split
  · next hc =>
    have hpercent : c ≠ '%' := by
      rintro rfl
      exact absurd hc (by decide)
    rw [List.singleton_append, percentBytes?, if_neg hpercent]
    rintro _ _ _ rfl
    exact absurd rfl hpercent
  · exact percentBytes?_percentBytes _ _

theorem percentBytes?_percentChars (cs rest : List Char) :
    percentBytes? (percentChars cs ++ rest) =
      (percentBytes? rest).map (cs.flatMap String.utf8EncodeChar ++ ·) := by
  induction cs with
  | nil => simp [percentChars]
  | cons c cs ih =>
    unfold percentChars at ih ⊢
    rw [List.flatMap_cons, List.append_assoc, percentBytes?_percentChar, ih, Option.map_map]
    simp [Function.comp_def]

theorem fromUTF8?_toByteArray (s : String) : String.fromUTF8? s.toByteArray = some s := by
  rw [String.fromUTF8?, dif_pos s.isValidUTF8]
  rfl

/-- Every text can be read back from its encoding. -/
theorem percentDecoded?_percentEncoded (s : String) :
    percentDecoded? (percentEncoded s).toList = some s := by
  have hbytes := percentBytes?_percentChars s.toList []
  rw [List.append_nil] at hbytes
  have hutf8 : (s.toList.flatMap String.utf8EncodeChar).toByteArray = s.toByteArray :=
    String.utf8Encode_toList
  simp [percentDecoded?, percentEncoded, hbytes, percentBytes?, hutf8, fromUTF8?_toByteArray]

end SearchRetrieve.Text
