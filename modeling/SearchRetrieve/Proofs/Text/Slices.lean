import Mathlib.Data.String.Basic
import SearchRetrieve.Text.WordBreak

/-!
# Slices of a text

The bytes of a text between two places are a text again if both places are between characters.
-/
namespace SearchRetrieve.Text

def slice (text : String) (start stop : Nat) : String :=
  String.Pos.Raw.extract text ⟨start⟩ ⟨stop⟩

/-- There is a place between two characters of a text, or at one of its ends, before which it has
this number of bytes. -/
def IsBoundary (text : String) (place : Nat) : Prop := String.Pos.Raw.IsValid text ⟨place⟩

theorem utf8Length_eq (cs : List Char) : utf8Length cs = String.utf8Len cs := by
  have hfold (n : Nat) : cs.foldl (fun n c => n + c.utf8Size) n = n + String.utf8Len cs := by
    induction cs generalizing n with
    | nil => rfl
    | cons c cs ih =>
      rw [List.foldl_cons, ih, String.utf8Len_cons]
      omega
  simp [utf8Length, hfold]

section Parts

variable {text : String} {before word after : List Char}
  (h : text.toList = before ++ word ++ after)

include h

theorem slice_of_append :
    slice text (utf8Length before) (utf8Length before + utf8Length word) = String.ofList word := by
  rw [← String.ofList_toList (s := text), h]
  simp only [slice, utf8Length_eq]
  exact String.extract_of_valid before word after

theorem isBoundary_start : IsBoundary text (utf8Length before) := by
  refine String.Pos.Raw.isValid_iff_exists_append.2
    ⟨String.ofList before, String.ofList (word ++ after), ?_, ?_⟩
  · rw [← String.ofList_append, ← List.append_assoc, ← h, String.ofList_toList]
  · rw [String.rawEndPos_ofList, utf8Length_eq]

theorem isBoundary_stop : IsBoundary text (utf8Length before + utf8Length word) := by
  have hparts : text.toList = (before ++ word) ++ after ++ [] := by simpa using h
  rw [← utf8Length_append]
  exact isBoundary_start hparts

end Parts

theorem le_of_isBoundary {text : String} {place : Nat} (h : IsBoundary text place) :
    place ≤ text.utf8ByteSize :=
  h.le_utf8ByteSize

theorem utf8Length_pos {word : List Char} (h : word ≠ []) : 0 < utf8Length word := by
  rw [utf8Length_eq, Nat.pos_iff_ne_zero]
  simpa using h

end SearchRetrieve.Text
