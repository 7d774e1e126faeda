import SearchRetrieve.Analysis.Tokenizer
import SearchRetrieve.Proofs.Text.Slices

/-!
# Terms and their words

A term stands for a word of the text, which is the slice between its offsets. Whether a word gives
a term, and which one, is decided for each word by itself. So settings that let fewer words pass
give the same terms in the same places, some of them left out.
-/
namespace SearchRetrieve

namespace Linguistics

variable {l : Linguistics} {s : TokenizerSettings} {text : String} {o : Occurrence}

def wordsOf (l : Linguistics) (text : String) : List String :=
  (l.words text.toList).map fun word => String.ofList word.2

theorem slice_of_mem {start number : Nat} {letters : List Char}
    (h : ((start, letters), number) ∈ (l.words text.toList).zipIdx) :
    Text.slice text start (start + Text.utf8Length letters) = String.ofList letters := by
  obtain ⟨-, before, after, hparts, rfl⟩ := l.mem_words (List.fst_mem_of_mem_zipIdx h)
  exact Text.slice_of_append hparts

/-- The occurrence is of a word of the text. Its term is that word: in lower case, without accents
and stemmed by the rules of the language, each if the settings ask for it. -/
structure StandsIn (l : Linguistics) (s : TokenizerSettings) (text : String) (o : Occurrence) :
    Prop where
  start_lt : o.start < o.stop
  stop_le : o.stop ≤ text.utf8ByteSize
  start_boundary : Text.IsBoundary text o.start
  stop_boundary : Text.IsBoundary text o.stop
  term_eq :
    let word := Text.slice text o.start o.stop
    let cased := if s.lowercase then Text.lower word else word
    let folded := if s.foldAccents then Text.foldAccents cased else cased
    o.term =
      if s.stem then l.stem ((Language.ofName? s.language).getD .english) folded else folded

theorem occurrence?_eq_some {start number : Nat} {letters : List Char} :
    l.occurrence? s ((start, letters), number) = some o ↔
      l.keeps s (s.normalize (String.ofList letters)) = true ∧
        o = ⟨l.termOf s (s.normalize (String.ofList letters)), number % UInt32.size, start,
          start + Text.utf8Length letters⟩ := by
  unfold occurrence?
  dsimp only
  split
  · next hkeeps => simp [hkeeps, eq_comm]
  · next hkeeps => simp [hkeeps]

theorem standsIn_of_mem (h : o ∈ l.occurrences s text) : l.StandsIn s text o := by
  obtain ⟨⟨⟨start, letters⟩, number⟩, hword, ho⟩ := List.mem_filterMap.1 h
  obtain ⟨-, rfl⟩ := occurrence?_eq_some.1 ho
  have hslice := slice_of_mem hword
  obtain ⟨hne, before, after, hparts, rfl⟩ := l.mem_words (List.fst_mem_of_mem_zipIdx hword)
  have hstop := Text.isBoundary_stop hparts
  exact {
    start_lt := Nat.lt_add_of_pos_right (Text.utf8Length_pos hne)
    stop_le := Text.le_of_isBoundary hstop
    start_boundary := Text.isBoundary_start hparts
    stop_boundary := hstop
    term_eq := by
      rw [hslice]
      rfl }

/-- The terms of a text come in the order of its words, and their slices do not overlap. -/
theorem occurrences_pairwise (hwords : (l.words text.toList).length ≤ UInt32.size) :
    (l.occurrences s text).Pairwise fun a b => a.position < b.position ∧ a.stop ≤ b.start := by
  refine List.pairwise_filterMap.2 (List.pairwise_iff_getElem.2 ?_)
  intro i j hi hj hlt a ha b hb
  rw [List.length_zipIdx] at hi hj
  rw [List.getElem_zipIdx, Nat.zero_add] at ha hb
  obtain ⟨-, rfl⟩ := occurrence?_eq_some.1 ha
  obtain ⟨-, rfl⟩ := occurrence?_eq_some.1 hb
  refine ⟨?_, List.pairwise_iff_getElem.1 (l.words_pairwise _) i j hi hj hlt⟩
  rwa [Nat.mod_eq_of_lt (by omega), Nat.mod_eq_of_lt (by omega)]

/-- The terms stand for the words that the settings keep. -/
theorem map_slice_occurrences (l : Linguistics) (s : TokenizerSettings) (text : String) :
    (l.occurrences s text).map (fun o => Text.slice text o.start o.stop) =
      (l.wordsOf text).filter fun word => l.keeps s (s.normalize word) := by
  have hwords : l.wordsOf text =
      (l.words text.toList).zipIdx.map fun x => String.ofList x.1.2 := by
    conv_lhs => rw [wordsOf, ← List.zipIdx_map_fst 0 (l.words text.toList), List.map_map]
    rfl
  rw [hwords, occurrences, List.map_filterMap, ← List.filterMap_eq_filter, List.filterMap_map]
  apply List.filterMap_congr
  rintro ⟨⟨start, letters⟩, number⟩ hx
  simp only [occurrence?, Option.guard, Function.comp_apply]
  split
  · simp [slice_of_mem hx]
  · rfl

end Linguistics

namespace TokenizerSettings

variable {l : Linguistics} {s t : TokenizerSettings} {text : String}

/-- The second settings make the same terms of words, and let no word pass that the first ones
leave out. -/
structure Stricter (s t : TokenizerSettings) : Prop where
  lowercase_eq : t.lowercase = s.lowercase
  foldAccents_eq : t.foldAccents = s.foldAccents
  stem_eq : t.stem = s.stem
  language_eq : t.language = s.language
  minLength_le : s.minLength ≤ t.minLength
  maxLength_le : t.maxLength ≤ s.maxLength
  removeStopWords_of : s.removeStopWords = true → t.removeStopWords = true

namespace Stricter

variable (h : s.Stricter t)

include h

theorem normalize_eq (word : String) : t.normalize word = s.normalize word := by
  simp only [normalize, h.lowercase_eq, h.foldAccents_eq]

theorem languageUsed_eq : t.languageUsed = s.languageUsed := by
  rw [languageUsed, languageUsed, h.language_eq]

theorem termOf_eq (word : String) : l.termOf t word = l.termOf s word := by
  rw [Linguistics.termOf, Linguistics.termOf, h.stem_eq, h.languageUsed_eq]

theorem keeps_of_keeps {word : String} (hkeeps : l.keeps t word = true) :
    l.keeps s word = true := by
  simp only [Linguistics.keeps, Linguistics.isStopWord, Bool.and_eq_true, decide_eq_true_eq,
    Bool.not_eq_true', Bool.and_eq_false_iff, h.languageUsed_eq] at hkeeps ⊢
  obtain ⟨⟨hmin, hmax⟩, hstop⟩ := hkeeps
  refine ⟨⟨Nat.le_trans h.minLength_le hmin, Nat.le_trans hmax h.maxLength_le⟩, ?_⟩
  refine hstop.imp_left fun hoff => ?_
  cases hon : s.removeStopWords with
  | false => rfl
  | true => simp [h.removeStopWords_of hon] at hoff

/-- Whether a word gives a term does not depend on the words before it. -/
theorem occurrence?_eq {start number : Nat} {letters : List Char}
    (hx : ((start, letters), number) ∈ (l.words text.toList).zipIdx) :
    l.occurrence? t ((start, letters), number) =
      (l.occurrence? s ((start, letters), number)).filter fun o =>
        l.keeps t (s.normalize (Text.slice text o.start o.stop)) := by
  simp only [Linguistics.occurrence?, h.normalize_eq, h.termOf_eq]
  cases ht : l.keeps t (s.normalize (String.ofList letters)) with
  | true => simp [h.keeps_of_keeps ht, Option.filter, Linguistics.slice_of_mem hx, ht]
  | false =>
    cases l.keeps s (s.normalize (String.ofList letters)) <;>
      simp [Option.filter, Linguistics.slice_of_mem hx, ht]

end Stricter

/-- Of two settings the stricter one gives the terms of the other one, each as it is and in its
place, without those whose words it leaves out itself: words whose normalised forms are too short
or too long for it, or stop words of its own. -/
theorem stricter_deletes (l : Linguistics) (h : s.Stricter t) (text : String) :
    (l.occurrences t text).Sublist (l.occurrences s text) ∧
      l.occurrences t text = (l.occurrences s text).filter fun o =>
        let word := s.normalize (Text.slice text o.start o.stop)
        t.minLength ≤ word.length && word.length ≤ t.maxLength &&
          !(t.removeStopWords && (l.stopWords t.languageUsed).contains word) := by
  have hfilter : l.occurrences t text = (l.occurrences s text).filter fun o =>
      l.keeps t (s.normalize (Text.slice text o.start o.stop)) := by
    rw [Linguistics.occurrences, Linguistics.occurrences, List.filter_filterMap]
    apply List.filterMap_congr
    rintro ⟨⟨start, letters⟩, number⟩ hx
    exact h.occurrence?_eq hx
  refine ⟨?_, hfilter⟩
  rw [hfilter]
  exact List.filter_sublist

/-- Settings that keep all German words, and others that leave out a stop word, a word that is too
short, and one that is too long though its stem is not. The last word keeps its number and place. -/
theorem stricter_deletes_short :
    let l : Linguistics :=
      { Linguistics.standard with stopWords := fun _ => Std.HashSet.ofList ["die"] }
    let s : TokenizerSettings := { standard with stem := true, language := "de" }
    let t : TokenizerSettings :=
      { s with minLength := 3, maxLength := 5, removeStopWords := true }
    s.Stricter t ∧
      l.occurrences s "Die Häuser am Dom" =
        [⟨"die", 0, 0, 3⟩, ⟨"haus", 1, 4, 11⟩, ⟨"am", 2, 12, 14⟩, ⟨"dom", 3, 15, 18⟩] ∧
      l.occurrences t "Die Häuser am Dom" = [⟨"dom", 3, 15, 18⟩] := by
  intro l s t
  have hstricter : s.Stricter t :=
    ⟨rfl, rfl, rfl, rfl, by decide, by decide, by decide⟩
  have hall : l.occurrences s "Die Häuser am Dom" =
      [⟨"die", 0, 0, 3⟩, ⟨"haus", 1, 4, 11⟩, ⟨"am", 2, 12, 14⟩, ⟨"dom", 3, 15, 18⟩] := by
    decide +kernel
  have hstop (word : String) : (l.stopWords t.languageUsed).contains word = (word == "die") := by
    simp [l, @eq_comm _ word]
  obtain ⟨-, hfilter⟩ := stricter_deletes l hstricter "Die Häuser am Dom"
  refine ⟨hstricter, hall, ?_⟩
  rw [hfilter, hall]
  simp only [hstop]
  decide +kernel

end TokenizerSettings

end SearchRetrieve
