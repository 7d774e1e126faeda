/-!
# Reading from the front

A reader takes something from the front of a list and returns the rest. The bound on the rest is
what makes readers that call each other end. A text is cut where a word stands in it.
-/
namespace SearchRetrieve

/-- A value read from the front of a list, and the items after it, fewer than `bound`. -/
structure Parsed (ι α : Type) (bound : Nat) where
  value : α
  rest : List ι
  shorter : rest.length < bound

namespace Parsed

variable {ι α β : Type} {m n : Nat}

def weaken (h : m ≤ n) (p : Parsed ι α m) : Parsed ι α n :=
  ⟨p.value, p.rest, Nat.lt_of_lt_of_le p.shorter h⟩

def map (f : α → β) (p : Parsed ι α n) : Parsed ι β n := ⟨f p.value, p.rest, p.shorter⟩

end Parsed

namespace Text

def after? : List Char → List Char → Option (List Char)
  | [], cs => some cs
  | w :: ws, c :: cs => if w = c then after? ws cs else none
  | _ :: _, [] => none

/-- The text before the first occurrence of a word, and the text after it. -/
def around? (word : List Char) : List Char → Option (List Char × List Char)
  | [] => (after? word []).map ([], ·)
  | c :: rest =>
    match after? word (c :: rest) with
    | some after => some ([], after)
    | none => (around? word rest).map fun p => (c :: p.1, p.2)

def hasWord (word cs : List Char) : Bool := (around? word cs).isSome

theorem after?_length {word cs rest : List Char} (h : after? word cs = some rest) :
    rest.length + word.length = cs.length := by
  fun_induction after? word cs with
  | case1 => simp_all
  | case2 ws c cs ih => simp [← ih h, Nat.add_assoc]
  | case3 => simp at h
  | case4 => simp at h

theorem around?_length {word cs before rest : List Char}
    (h : around? word cs = some (before, rest)) : rest.length + word.length ≤ cs.length := by
  fun_induction around? word cs generalizing before with
  | case1 =>
    obtain ⟨r, hr, h⟩ := Option.map_eq_some_iff.1 h
    simp only [Prod.mk.injEq] at h
    exact h.2 ▸ Nat.le_of_eq (after?_length hr)
  | case2 c r after ha =>
    simp only [Option.some.injEq, Prod.mk.injEq] at h
    exact h.2 ▸ Nat.le_of_eq (after?_length ha)
  | case3 c r _ ih =>
    obtain ⟨⟨earlier, after⟩, hp, h⟩ := Option.map_eq_some_iff.1 h
    simp only [Prod.mk.injEq] at h
    obtain ⟨-, rfl⟩ := h
    have := ih hp
    simp only [List.length_cons]
    omega

end Text

end SearchRetrieve
