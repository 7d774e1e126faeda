import SearchRetrieve.Xml.Reader

/-!
# Markup of a document

The markup of a node is a part of the document that the node was read from, as it stands there.
-/
namespace SearchRetrieve

namespace Text

variable {word cs before rest : List Char}

theorem after?_eq_some (h : after? word cs = some rest) : cs = word ++ rest := by
  fun_induction after? word cs with
  | case1 => simpa using h
  | case2 ws c cs ih => simp [← ih h]
  | case3 => simp at h
  | case4 => simp at h

theorem around?_eq_some (h : around? word cs = some (before, rest)) :
    cs = before ++ word ++ rest := by
  fun_induction around? word cs generalizing before with
  | case1 =>
    obtain ⟨after, hafter, h⟩ := Option.map_eq_some_iff.1 h
    cases h
    simpa using after?_eq_some hafter
  | case2 c cs after hafter =>
    cases h
    simpa using after?_eq_some hafter
  | case3 c cs _ ih =>
    obtain ⟨⟨earlier, after⟩, hp, h⟩ := Option.map_eq_some_iff.1 h
    cases h
    simp [ih hp]

end Text

namespace Xml

namespace Piece

variable {cs body rest : List Char} {piece : Piece}

/-- The characters that a piece was read from. -/
def written : Piece → List Char
  | opening _ markup => markup.toList
  | closing _ markup => markup.toList
  | text _ markup => markup.toList
  | comment markup => markup.toList
  | instruction markup => markup.toList

theorem tagSpan_eq_some {quote : Option Char} (h : tagSpan quote cs = some (body, rest)) :
    cs = body ++ '>' :: rest := by
  induction cs generalizing quote body with
  | nil => simp [tagSpan] at h
  | cons c cs ih =>
    unfold tagSpan at h
    split at h
    · next hend =>
      simp only [Bool.and_eq_true, beq_iff_eq] at hend
      cases h
      simp [hend.2]
    · obtain ⟨⟨earlier, after⟩, hp, h⟩ := Option.map_eq_some_iff.1 h
      cases h
      simp [← ih hp]

/-- What has been split off is made into a piece with that markup. -/
theorem ofSplit_eq_some {make : List Char → Option Piece} {split : Option (List Char × List Char)}
    (h : ofSplit make split = some (piece, rest)) :
    ∃ body, split = some (body, rest) ∧ make body = some piece := by
  obtain ⟨⟨body, after⟩, hp, h⟩ := Option.bind_eq_some_iff.1 h
  obtain ⟨made, hmade, h⟩ := Option.map_eq_some_iff.1 h
  cases h
  exact ⟨body, hp, hmade⟩

theorem comment?_written (h : comment? body = some piece) :
    piece.written = "<!--".toList ++ body ++ "-->".toList := by
  unfold comment? at h
  split at h
  · simp at h
  · cases h
    simp [written]

theorem instruction?_written (h : instruction? body = some piece) :
    piece.written = "<?".toList ++ body ++ "?>".toList := by
  unfold instruction? at h
  split at h
  · simp at h
  · cases h
    simp [written]

theorem closing?_written (h : closing? body = some piece) :
    piece.written = "</".toList ++ body ++ ">".toList := by
  obtain ⟨_, -, rfl⟩ := Option.map_eq_some_iff.1 h
  simp [written]

theorem opening?_written (h : opening? body = some piece) :
    piece.written = "<".toList ++ body ++ ">".toList := by
  obtain ⟨_, -, rfl⟩ := Option.map_eq_some_iff.1 h
  simp [written]

theorem plain?_written (h : plain? body = some piece) : piece.written = body := by
  unfold plain? at h
  split at h
  · simp at h
  · obtain ⟨_, -, rfl⟩ := Option.map_eq_some_iff.1 h
    simp [written]

theorem next?_written (h : next? cs = some (piece, rest)) : cs = piece.written ++ rest := by
  unfold next? at h
  split at h
  · obtain ⟨body, hsplit, hmake⟩ := ofSplit_eq_some h
    simp [Text.around?_eq_some hsplit, comment?_written hmake]
  · obtain ⟨later, hafter, h⟩ := Option.bind_eq_some_iff.1 h
    obtain ⟨body, hsplit, hmake⟩ := ofSplit_eq_some h
    cases hmake
    simp [Text.after?_eq_some hafter, Text.around?_eq_some hsplit, cdata, written]
  · obtain ⟨body, hsplit, hmake⟩ := ofSplit_eq_some h
    simp [Text.around?_eq_some hsplit, instruction?_written hmake]
  · obtain ⟨body, hsplit, hmake⟩ := ofSplit_eq_some h
    simp [tagSpan_eq_some hsplit, closing?_written hmake]
  · obtain ⟨body, hsplit, hmake⟩ := ofSplit_eq_some h
    simp [tagSpan_eq_some hsplit, opening?_written hmake]
  · obtain ⟨body, hsplit, hmake⟩ := ofSplit_eq_some h
    cases hsplit
    simp [plain?_written hmake]
  · simp at h

theorem ofChars?_written {pieces : List Piece} (h : ofChars? cs = some pieces) :
    cs = pieces.flatMap written := by
  fun_induction ofChars? cs generalizing pieces with
  | case1 cs hempty =>
    cases h
    simpa using hempty
  | case2 cs _ piece rest hnext ih =>
    obtain ⟨later, hlater, rfl⟩ := Option.map_eq_some_iff.1 h
    rw [next?_written hnext, List.flatMap_cons, ← ih hlater]
  | case3 => simp at h

end Piece

namespace Node

variable {m n : Node}

theorem markupOf_append (ms ns : List Node) : markupOf (ms ++ ns) = markupOf ms ++ markupOf ns := by
  induction ms with
  | nil => simp [markupOf]
  | cons m ms ih => simp [markupOf, ih, String.append_assoc]

mutual

theorem markup_within : ∀ m : Node, ∀ n ∈ m.descendants, n.markup.toList <:+: m.markup.toList
  | .element name attributes children opening closing, n, hn => by
    simp only [descendants, List.mem_cons] at hn
    obtain rfl | hn := hn
    · exact List.infix_rfl
    · obtain ⟨before, after, heq⟩ := markupOf_within children n hn
      refine ⟨opening.toList ++ before, after ++ closing.toList, ?_⟩
      simp [markup, ← heq]
  | .text _ _ _, n, hn => by simp_all [descendants]
  | .comment _, n, hn => by simp_all [descendants]
  | .instruction _, n, hn => by simp_all [descendants]

theorem markupOf_within :
    ∀ ms : List Node, ∀ n ∈ descendantsOf ms, n.markup.toList <:+: (markupOf ms).toList
  | [], n, hn => by simp [descendantsOf] at hn
  | m :: rest, n, hn => by
    simp only [descendantsOf, List.mem_append] at hn
    rw [markupOf, String.toList_append]
    obtain hn | hn := hn
    · exact (markup_within m n hn).trans (List.prefix_append _ _).isInfix
    · exact (markupOf_within rest n hn).trans (List.suffix_append _ _).isInfix

end

end Node

namespace Draft

variable {d d' : Draft} {cs : List Char} {n : Node}

/-- What has been written of the elements that are open, the innermost first. -/
def openMarkup : List OpenElement → List Char
  | [] => []
  | e :: outer =>
    openMarkup outer ++ e.opening.toList ++ (Node.markupOf e.children.reverse).toList

/-- A draft of a text: it ends with what is open, and all before that has the element at the top,
if it has ended. -/
def IsOf (d : Draft) (cs : List Char) : Prop :=
  ∃ before, cs = before ++ openMarkup d.enclosing ∧
    ∀ root, d.root = some root → root.markup.toList <:+: before

theorem openMarkup_cons_child (e : OpenElement) (outer : List OpenElement) :
    openMarkup ({ e with children := n :: e.children } :: outer) =
      openMarkup (e :: outer) ++ n.markup.toList := by
  simp [openMarkup, Node.markupOf_append, Node.markupOf]

/-- Behind the element at the top, and in front of it, there can be anything. -/
theorem IsOf.append_outside (h : d.IsOf cs) (htop : d.enclosing = []) (added : List Char) :
    d.IsOf (cs ++ added) := by
  obtain ⟨before, rfl, hroot⟩ := h
  refine ⟨before ++ added, by simp [htop, openMarkup], fun root hr => ?_⟩
  exact (hroot root hr).trans (List.prefix_append _ _).isInfix

theorem isOf_withNode (h : d.IsOf cs) : (d.withNode n).IsOf (cs ++ n.markup.toList) := by
  obtain ⟨enclosing, root⟩ := d
  cases enclosing with
  | nil => exact h.append_outside rfl _
  | cons e outer =>
    obtain ⟨before, rfl, hroot⟩ := h
    refine ⟨before, ?_, hroot⟩
    rw [List.append_assoc, ← openMarkup_cons_child]
    rfl

theorem isOf_withElement? (hd : d.withElement? n = some d') (h : d.IsOf cs) :
    d'.IsOf (cs ++ n.markup.toList) := by
  unfold withElement? at hd
  split at hd
  · next htop =>
    split at hd
    · cases hd
      refine ⟨cs ++ n.markup.toList, by simp [htop, openMarkup], fun root hr => ?_⟩
      cases hr
      exact (List.suffix_append _ _).isInfix
    · simp at hd
  · cases hd
    exact isOf_withNode h

theorem isOf_withText? {content markup : String} (hd : d.withText? content markup = some d')
    (h : d.IsOf cs) : d'.IsOf (cs ++ markup.toList) := by
  unfold withText? at hd
  split at hd
  · next htop =>
    split at hd
    · cases hd
      exact h.append_outside htop _
    · simp at hd
  · next e outer hopen =>
    obtain ⟨before, rfl, hroot⟩ := h
    cases hd
    refine ⟨before, ?_, hroot⟩
    rw [hopen, List.append_assoc]
    congr 1
    dsimp only
    split
    · next hchildren =>
      simp [openMarkup, hchildren, Node.markupOf_append, Node.markupOf, Node.markup]
    · simp [openMarkup, Node.markupOf_append, Node.markupOf, Node.markup]

theorem isOf_withTag? {tag : Tag} {markup : String} (hd : d.withTag? tag markup = some d')
    (h : d.IsOf cs) : d'.IsOf (cs ++ markup.toList) := by
  unfold withTag? at hd
  obtain ⟨scope, -, hd⟩ := Option.bind_eq_some_iff.1 hd
  obtain ⟨name, -, hd⟩ := Option.bind_eq_some_iff.1 hd
  obtain ⟨attributes, -, hd⟩ := Option.bind_eq_some_iff.1 hd
  split at hd
  · simpa [Node.markup, Node.markupOf] using isOf_withElement? hd h
  · obtain ⟨before, rfl, hroot⟩ := h
    cases hd
    exact ⟨before, by simp [openMarkup, Node.markupOf], hroot⟩

/-- An element that ends goes from the open ones into what is complete. -/
theorem isOf_close? {name : RawName} {markup : String} (hd : d.close? name markup = some d')
    (h : d.IsOf cs) : d'.IsOf (cs ++ markup.toList) := by
  unfold close? at hd
  split at hd
  · simp at hd
  · next e outer hopen =>
    split at hd
    · obtain ⟨before, rfl, hroot⟩ := h
      have houter : Draft.IsOf { d with enclosing := outer } (before ++ openMarkup outer) :=
        ⟨before, rfl, hroot⟩
      simpa [hopen, openMarkup, Node.markup] using isOf_withElement? hd houter
    · simp at hd

theorem isOf_add? {piece : Piece} (hd : d.add? piece = some d') (h : d.IsOf cs) :
    d'.IsOf (cs ++ piece.written) := by
  cases piece with
  | opening tag markup => exact isOf_withTag? hd h
  | closing name markup => exact isOf_close? hd h
  | text content markup => exact isOf_withText? hd h
  | comment markup =>
    cases hd
    exact isOf_withNode h
  | instruction markup =>
    cases hd
    exact isOf_withNode h

theorem isOf_foldlM {pieces : List Piece} (hd : pieces.foldlM add? d = some d')
    (h : d.IsOf cs) : d'.IsOf (cs ++ pieces.flatMap Piece.written) := by
  induction pieces generalizing d cs with
  | nil =>
    cases hd
    simpa using h
  | cons piece pieces ih =>
    rw [List.foldlM_cons] at hd
    obtain ⟨between, hfirst, hrest⟩ := Option.bind_eq_some_iff.1 hd
    rw [List.flatMap_cons, ← List.append_assoc]
    exact ih hrest (isOf_add? hfirst h)

end Draft

theorem skipSpace_suffix (cs : List Char) : skipSpace cs <:+ cs := List.dropWhile_suffix _

theorem readName_suffix {cs rest : List Char} {name : RawName}
    (h : readName cs = some (name, rest)) : rest <:+ cs := by
  obtain ⟨_, -, h⟩ := Option.map_eq_some_iff.1 h
  cases h
  exact List.dropWhile_suffix _

theorem readValue_suffix {cs value rest : List Char} (h : readValue cs = some (value, rest)) :
    rest <:+ cs := by
  unfold readValue at h
  split at h
  · next quote later =>
    split at h
    · dsimp only at h
      split at h
      · next c after hafter =>
        split at h
        · cases h
          have hdropped := List.dropWhile_suffix (fun d => d != quote && d != '<') (l := later)
          rw [hafter] at hdropped
          exact ((List.suffix_cons _ _).trans hdropped).trans (List.suffix_cons _ _)
        · simp at h
      · simp at h
    · simp at h
  · simp at h

theorem readAttribute_suffix {cs rest : List Char} {a : RawAttribute}
    (h : readAttribute cs = some (a, rest)) : rest <:+ cs := by
  unfold readAttribute at h
  obtain ⟨⟨name, afterName⟩, hname, h⟩ := Option.bind_eq_some_iff.1 h
  dsimp only at h
  split at h
  · next afterEquals hequals =>
    obtain ⟨⟨value, afterValue⟩, hvalue, h⟩ := Option.bind_eq_some_iff.1 h
    cases h
    have hspace := skipSpace_suffix afterName
    rw [hequals] at hspace
    exact (((readValue_suffix hvalue).trans (skipSpace_suffix _)).trans
      ((List.suffix_cons _ _).trans hspace)).trans (readName_suffix hname)
  · simp at h

theorem afterAttribute?_suffix {word : String} {cs rest : List Char}
    (h : afterAttribute? word cs = some rest) : rest <:+ cs := by
  unfold afterAttribute? at h
  split at h
  · obtain ⟨⟨a, after⟩, ha, rfl⟩ := Option.map_eq_some_iff.1 h
    exact readAttribute_suffix ha
  · simp at h

theorem afterSpace?_suffix {cs rest : List Char} (h : afterSpace? cs = some rest) :
    rest <:+ cs := by
  unfold afterSpace? at h
  split at h
  · cases h
    exact skipSpace_suffix cs
  · simp at h

/-- A part that may be left out is read, if it is there, and then what follows it. -/
theorem exists_suffix_of_ite {cs rest : List Char} {p : Prop} [Decidable p]
    {part : Option (List Char)} {next : List Char → Option (List Char)}
    (h : (if p then part >>= next else some cs >>= next) = some rest)
    (hpart : ∀ later, part = some later → later <:+ cs) :
    ∃ later, later <:+ cs ∧ next later = some rest := by
  split at h
  · obtain ⟨later, hlater, h⟩ := Option.bind_eq_some_iff.1 h
    exact ⟨later, hpart later hlater, h⟩
  · exact ⟨cs, List.suffix_rfl, h⟩

theorem afterDeclaration?_suffix {cs rest : List Char} (h : afterDeclaration? cs = some rest) :
    rest <:+ cs := by
  unfold afterDeclaration? at h
  obtain ⟨afterVersion, hversion, h⟩ := Option.bind_eq_some_iff.1 h
  obtain ⟨afterBlank, hblank, h⟩ := Option.bind_eq_some_iff.1 h
  obtain ⟨afterEncoding, hencoding, h⟩ := exists_suffix_of_ite h fun later hlater => by
    obtain ⟨after, hafter, hspace⟩ := Option.bind_eq_some_iff.1 hlater
    exact (afterSpace?_suffix hspace).trans (afterAttribute?_suffix hafter)
  obtain ⟨afterStandalone, hstandalone, h⟩ :=
    exists_suffix_of_ite h fun _ hlater => afterAttribute?_suffix hlater
  have hend : rest <:+ afterStandalone := by
    dsimp only at h
    split at h
    · next hspace =>
      cases h
      have hskipped := skipSpace_suffix afterStandalone
      rw [hspace] at hskipped
      exact ((List.suffix_cons _ _).trans (List.suffix_cons _ _)).trans hskipped
    · simp at h
  exact (((hend.trans hstandalone).trans hencoding).trans (afterSpace?_suffix hblank)).trans
    ((afterAttribute?_suffix hversion).trans (skipSpace_suffix cs))

theorem body?_suffix {cs body : List Char} (h : body? cs = some body) : body <:+ cs := by
  unfold body? at h
  have hmark : (if cs.head? = some '\uFEFF' then cs.tail else cs) <:+ cs := by
    split
    · exact List.tail_suffix cs
    · exact List.suffix_rfl
  dsimp only at h
  split at h
  · next after hafter =>
    refine (afterDeclaration?_suffix h).trans (List.IsSuffix.trans ?_ hmark)
    exact ⟨_, (Text.after?_eq_some hafter).symm⟩
  · cases h
    exact hmark

/-- Each node of a document is a part of the text, unchanged. -/
theorem ofText?_markup {text : String} {root n : Node} (h : ofText? text = some root)
    (hn : n ∈ root.descendants) : n.markup.toList <:+: text.toList := by
  unfold ofText? at h
  dsimp only at h
  split at h
  · simp at h
  · obtain ⟨pieces, hpieces, h⟩ := Option.bind_eq_some_iff.1 h
    obtain ⟨d, hd, hroot⟩ := Option.bind_eq_some_iff.1 h
    obtain ⟨body, hbody, hpieces⟩ := Option.bind_eq_some_iff.1 hpieces
    have hempty : Draft.empty.IsOf [] := ⟨[], rfl, fun _ hr => by simp [Draft.empty] at hr⟩
    obtain ⟨before, hbefore, hwritten⟩ := Draft.isOf_foldlM hd hempty
    rw [List.nil_append, ← Piece.ofChars?_written hpieces] at hbefore
    unfold Draft.root? at hroot
    split at hroot
    · have hbody' : before <:+: body := hbefore ▸ (List.prefix_append _ _).isInfix
      exact (((Node.markup_within root n hn).trans (hwritten root hroot)).trans hbody').trans
        (body?_suffix hbody).isInfix
    · simp at hroot

end Xml

end SearchRetrieve
