import SearchRetrieve.Proofs.Schema.Assignments

/-!
# Settings written down

Settings can be written as properties: a line for each suffix in use, a line of fields and a line
for each synonym, in any order, with blank lines and comments between them. Whatever way they are
written in, they are what is read.
-/
namespace SearchRetrieve.Properties

variable {name : String} {ns : List String} {gap cs text value line : List Char}

/-- A name that can be told apart in a list, where a comma can be behind it. -/
structure IsName (name : String) : Prop where
  ne_empty : name ≠ ""
  not_blank : Text.hasBlank name.toList = false
  no_comma : name.toList.getLast? ≠ some ','

instance (name : String) : Decidable (IsName name) :=
  decidable_of_iff (name ≠ "" ∧ Text.hasBlank name.toList = false ∧
    name.toList.getLast? ≠ some ',')
    ⟨fun ⟨hne, hblank, hcomma⟩ => ⟨hne, hblank, hcomma⟩,
      fun ⟨hne, hblank, hcomma⟩ => ⟨hne, hblank, hcomma⟩⟩

/-- What stands between two names: white space, perhaps with a comma in front. -/
inductive IsBreak : List Char → Prop
  | blank {b : Char} {gap : List Char} (hgap : IsGap (b :: gap)) : IsBreak (b :: gap)
  | comma {b : Char} {gap : List Char} (hgap : IsGap (b :: gap)) : IsBreak (',' :: b :: gap)

inductive WritesNames : List String → List Char → Prop
  | nil : WritesNames [] []
  | single (name : String) : WritesNames [name] name.toList
  | cons {name second : String} {rest : List String} {between text : List Char}
      (hbetween : IsBreak between) (hrest : WritesNames (second :: rest) text) :
      WritesNames (name :: second :: rest) (name.toList ++ between ++ text)

theorem withoutComma_of_ne (h : cs.getLast? ≠ some ',') : withoutComma cs = cs := by
  unfold withoutComma
  split
  · next rest hreverse => exact absurd (by simp [List.getLast?_eq_head?_reverse, hreverse]) h
  · rfl

theorem withoutComma_append (cs : List Char) : withoutComma (cs ++ [',']) = cs := by
  simp [withoutComma]

theorem names_append_blank (cs : List Char) {b : Char} (hb : Text.isBlank b = true)
    (rest : List Char) : names (String.ofList (cs ++ b :: rest)) =
      names (String.ofList cs) ++ names (String.ofList rest) := by
  simp [names, Text.wordsChars_append_cons cs hb rest]

theorem names_append_left (h : IsGap gap) (cs : List Char) :
    names (String.ofList (gap ++ cs)) = names (String.ofList cs) := by
  rw [names, String.toList_ofList, Text.wordsChars_append_left h, names, String.toList_ofList]

theorem names_append_right (h : IsGap gap) (cs : List Char) :
    names (String.ofList (cs ++ gap)) = names (String.ofList cs) := by
  cases gap with
  | nil => rw [List.append_nil]
  | cons b gap =>
    obtain ⟨hb, hgap⟩ := List.forall_mem_cons.1 h
    have hnone := names_append_left hgap []
    rw [List.append_nil] at hnone
    rw [names_append_blank cs hb, hnone]
    exact List.append_nil _

theorem names_trimChars (cs : List Char) :
    names (String.ofList (Text.trimChars cs)) = names (String.ofList cs) := by
  have hstart : IsGap (cs.takeWhile Text.isBlank) := fun b => List.mem_takeWhile_imp
  have hend : IsGap ((cs.dropWhile Text.isBlank).rtakeWhile Text.isBlank) :=
    fun b => List.mem_rtakeWhile_imp
  calc names (String.ofList (Text.trimChars cs))
      = names (String.ofList (cs.dropWhile Text.isBlank)) := by
        rw [Text.trimChars_eq, ← names_append_right hend, List.rdropWhile_append_rtakeWhile]
    _ = names (String.ofList cs) := by
        rw [← names_append_left hstart, List.takeWhile_append_dropWhile]

theorem IsName.names_eq (h : IsName name) : names name = [name] := by
  have hne : name.toList ≠ [] := by simpa using h.ne_empty
  simp [names, Text.wordsChars_of_not_blank hne h.not_blank, withoutComma_of_ne h.no_comma, hne]

theorem IsName.names_comma (h : IsName name) :
    names (String.ofList (name.toList ++ [','])) = [name] := by
  have hne : name.toList ≠ [] := by simpa using h.ne_empty
  have hblank : Text.hasBlank (name.toList ++ [',']) = false := by
    simpa [Text.hasBlank, show Text.isBlank ',' = false by decide] using h.not_blank
  simp [names, Text.wordsChars_of_not_blank (by simp) hblank, withoutComma_append, hne]

theorem WritesNames.names_eq (h : WritesNames ns text) (hns : ∀ name ∈ ns, IsName name) :
    names (String.ofList text) = ns := by
  induction h with
  | nil => rfl
  | single name =>
    rw [String.ofList_toList]
    exact (hns name (List.mem_singleton_self name)).names_eq
  | @cons name second rest between text hbetween hrest ih =>
    obtain ⟨hname, hlater⟩ := List.forall_mem_cons.1 hns
    have hfollowing {b : Char} {gap : List Char} (hgap : IsGap (b :: gap)) (front : List Char) :
        names (String.ofList (front ++ (b :: gap) ++ text)) =
          names (String.ofList front) ++ second :: rest := by
      obtain ⟨hb, hgap⟩ := List.forall_mem_cons.1 hgap
      rw [List.append_assoc, List.cons_append, names_append_blank front hb,
        names_append_left hgap, ih hlater]
    cases hbetween with
    | blank hgap =>
      rw [hfollowing hgap, String.ofList_toList, hname.names_eq]
      rfl
    | @comma b gap hgap =>
      have hsplit : name.toList ++ ',' :: b :: gap = name.toList ++ [','] ++ (b :: gap) := by simp
      rw [hsplit, hfollowing hgap, hname.names_comma]
      rfl

inductive Subject where
  | suffix (v : Variant)
  | fields
  | synonym (name : String)
  deriving DecidableEq

def Subject.key : Subject → String
  | suffix v => suffixKey v
  | fields => "fields"
  | synonym name => synonymKeyOf name

theorem Subject.aliasOf?_key (s : Subject) :
    aliasOf? s.key = match s with
      | synonym name => some name
      | _ => none := by
  cases s with
  | suffix v => cases v <;> decide
  | fields => decide
  | synonym name => exact aliasOf?_eq_some.2 rfl

theorem Subject.key_injective : Function.Injective Subject.key := by
  intro s t h
  have halias := congrArg aliasOf? h
  rw [aliasOf?_key, aliasOf?_key] at halias
  cases s with
  | synonym name =>
    cases t with
    | synonym other => rw [Option.some.inj halias]
    | suffix w => cases halias
    | fields => cases halias
  | suffix v =>
    cases t with
    | synonym other => cases halias
    | suffix w => revert h; cases v <;> cases w <;> decide
    | fields => revert h; cases v <;> decide
  | fields =>
    cases t with
    | synonym other => cases halias
    | suffix w => revert h; cases w <;> decide
    | fields => rfl

def IsAlias (name : String) : Prop :=
  ∀ c ∈ name.toList, Text.isBlank c = false ∧ ¬ IsSeparator c

instance (name : String) : Decidable (IsAlias name) := List.decidableBAll _ _

inductive Entry where
  | suffix (v : Variant) (text : String)
  | fields (names : List String)
  | synonym (name : String) (targets : List String)
  deriving DecidableEq

namespace Entry

def subject : Entry → Subject
  | suffix v _ => .suffix v
  | fields _ => .fields
  | synonym name _ => .synonym name

def Legible : Entry → Prop
  | suffix _ text => Text.IsTrimmed text ∧ '\n' ∉ text.toList
  | fields names => ∀ name ∈ names, IsName name
  | synonym name targets => IsAlias name ∧ ∀ target ∈ targets, IsName target

/-- The texts that the value of an entry can be written as. -/
def WritesValue : Entry → List Char → Prop
  | suffix _ text, value => value = text.toList
  | fields names, value => WritesNames names value
  | synonym _ targets, value => WritesNames targets value

/-- The value that is read, where white space at its ends is gone. -/
def Reads : Entry → String → Prop
  | suffix _ text, value => value = text
  | fields ns, value => Properties.names value = ns
  | synonym _ targets, value => Properties.names value = targets

/-- A line of a key and a value: a separator stands between them, and white space around each of
them says nothing. -/
inductive WritesLine (e : Entry) : List Char → Prop
  | mk {value gap₁ gap₂ gap₃ gap₄ : List Char} {sep : Char} (hvalue : e.WritesValue value)
      (hsep : IsSeparator sep)
      (hgaps : IsGap gap₁ ∧ IsGap gap₂ ∧ IsGap gap₃ ∧ IsGap gap₄) :
      WritesLine e (gap₁ ++ e.subject.key.toList ++ gap₂ ++ sep :: (gap₃ ++ value ++ gap₄))

end Entry

theorem IsGap.not_isSeparator (h : IsGap gap) : ∀ c ∈ gap, ¬ IsSeparator c := by
  intro c hc hsep
  simpa [hsep.not_isBlank] using h c hc

/-- Keys are without white space and separators, as long as the aliases in them are. -/
theorem Entry.Legible.isAlias_key {e : Entry} (h : e.Legible) : IsAlias e.subject.key := by
  cases e with
  | suffix v text =>
    have hkey : IsAlias (suffixKey v) := by cases v <;> decide
    exact hkey
  | fields ns =>
    have hkey : IsAlias "fields" := by decide
    exact hkey
  | synonym name targets =>
    have hfront : IsAlias "indexSynonym." := by decide
    intro c hc
    rcases List.mem_append.1 (String.toList_append ▸ hc) with hc | hc
    · exact hfront c hc
    · exact h.1 c hc

/-- No key begins like a comment. -/
theorem Subject.exists_key_eq (s : Subject) :
    ∃ c rest, s.key.toList = c :: rest ∧ c ≠ '#' ∧ c ≠ '!' := by
  cases s with
  | suffix v => cases v <;> exact ⟨_, _, rfl, by decide⟩
  | fields => exact ⟨_, _, rfl, by decide⟩
  | synonym name => exact ⟨_, _, toList_synonymKeyOf name, by decide⟩

theorem trimChars_of_isAlias (h : IsAlias name) : Text.trimChars name.toList = name.toList := by
  apply Text.trimChars_of_not_blank
  simpa [Text.hasBlank] using fun c hc => (h c hc).1

theorem trimChars_gaps {before after : List Char} (hbefore : IsGap before) (hafter : IsGap after)
    (cs : List Char) : Text.trimChars (before ++ cs ++ after) = Text.trimChars cs := by
  rw [Text.trimChars_append_right hafter, Text.trimChars_append_left hbefore]

theorem Entry.WritesValue.reads {e : Entry} (h : e.WritesValue value) (he : e.Legible) :
    e.Reads (String.ofList (Text.trimChars value)) := by
  cases e with
  | suffix v text =>
    obtain rfl : value = text.toList := h
    have htrim : Text.trim text = text := Text.trim_eq_self_iff.2 he.1
    exact htrim
  | fields ns => exact (names_trimChars value).trans (WritesNames.names_eq h he)
  | synonym name targets => exact (names_trimChars value).trans (WritesNames.names_eq h he.2)

/-- What is read from the line of an entry. -/
theorem Entry.WritesLine.ofLine? {e : Entry} (h : e.WritesLine line) (he : e.Legible) :
    ∃ value, Properties.ofLine? line = some (e.subject.key, value) ∧ e.Reads value := by
  obtain ⟨hvalue, hsep, h₁, h₂, h₃, h₄⟩ := h
  rename_i value gap₁ gap₂ gap₃ gap₄ sep
  have hbefore : ∀ c ∈ gap₁ ++ e.subject.key.toList ++ gap₂, ¬ IsSeparator c := by
    simp only [List.mem_append]
    rintro c ((hc | hc) | hc)
    · exact h₁.not_isSeparator c hc
    · exact (he.isAlias_key c hc).2
    · exact h₂.not_isSeparator c hc
  have hcomment : ¬ IsComment
      (gap₁ ++ e.subject.key.toList ++ gap₂ ++ sep :: (gap₃ ++ value ++ gap₄)) := by
    obtain ⟨c, rest, hkey, hmarks⟩ := e.subject.exists_key_eq
    have hc : Text.isBlank c = false := (he.isAlias_key c (by simp [hkey])).1
    rintro ⟨d, hd, hmark⟩
    simp only [List.append_assoc, Text.trimStartChars, List.dropWhile_append_of_pos h₁] at hd
    rw [hkey] at hd
    obtain rfl : c = d := by simpa [hc] using hd
    exact hmark.elim hmarks.1 hmarks.2
  refine ⟨_, ?_, hvalue.reads he⟩
  rw [ofLine?_separated hbefore hsep hcomment, trimChars_gaps h₁ h₂, trimChars_gaps h₃ h₄,
    trimChars_of_isAlias he.isAlias_key, String.ofList_toList]

/-- Lines that write some entries, in their order, among lines that are blank or comments. -/
inductive WritesLines : List Entry → List (List Char) → Prop
  | nil : WritesLines [] []
  | idle {es : List Entry} {line : List Char} {lines : List (List Char)}
      (hline : IsGap line ∨ IsComment line) (hlines : WritesLines es lines) :
      WritesLines es (line :: lines)
  | entry {e : Entry} {es : List Entry} {line : List Char} {lines : List (List Char)}
      (hline : e.WritesLine line) (hlines : WritesLines es lines) :
      WritesLines (e :: es) (line :: lines)

/-- All that settings say, but for the anywhere aliases: the suffixes in use, the fields and the
synonyms. -/
def entries (settings : SchemaSettings) : List Entry :=
  (Variant.all.filterMap fun v => (settings.suffixes.get v).map (.suffix v)) ++
    .fields settings.fields :: settings.synonyms.map fun s => .synonym s.1 s.2

/-- The text has one line for each entry of the settings, in whatever order. -/
def Writes (settings : SchemaSettings) (text : String) : Prop :=
  ∃ es, es.Perm (entries settings) ∧ WritesLines es (text.toList.splitOn '\n')

structure Printable (settings : SchemaSettings) : Prop where
  anywhereAliases : settings.anywhereAliases = SchemaSettings.standardAnywhereAliases
  suffixes : ∀ v text, settings.suffixes.get v = some text →
    Text.IsTrimmed text ∧ '\n' ∉ text.toList
  fields : ∀ name ∈ settings.fields, IsName name
  synonyms : ∀ entry ∈ settings.synonyms.entries,
    IsAlias entry.1 ∧ ∀ name ∈ entry.2, IsName name

section Read

variable {settings : SchemaSettings} {e : Entry} {es : List Entry} {lines : List (List Char)}
  {p : Properties}

theorem mem_entries : e ∈ entries settings ↔
    match e with
    | .suffix v text => settings.suffixes.get v = some text
    | .fields ns => ns = settings.fields
    | .synonym name targets => (name, targets) ∈ settings.synonyms.entries := by
  cases e with
  | suffix v text =>
    have hall : v ∈ Variant.all := by cases v <;> decide
    simp [entries, Synonyms.map, hall]
  | fields ns => simp [entries, Synonyms.map]
  | synonym name targets => simp [entries, Synonyms.map]

theorem Printable.legible (h : Printable settings) (he : e ∈ entries settings) : e.Legible := by
  have hmem := mem_entries.1 he
  cases e with
  | suffix v text => exact h.suffixes v text hmem
  | fields ns =>
    obtain rfl : ns = settings.fields := hmem
    exact h.fields
  | synonym name targets => exact h.synonyms (name, targets) hmem

/-- No two entries are about the same. -/
theorem subjects_nodup (settings : SchemaSettings) :
    ((entries settings).map Entry.subject).Nodup := by
  have hsuffixes : ((Variant.all.filterMap fun v =>
      (settings.suffixes.get v).map (Entry.suffix v)).map Entry.subject).Nodup := by
    rw [List.map_filterMap]
    refine List.Nodup.filterMap (fun v w s hv hw => ?_) (by decide)
    simp only [Option.map_map, Option.mem_def, Option.map_eq_some_iff] at hv hw
    obtain ⟨_, -, rfl⟩ := hv
    obtain ⟨_, -, heq⟩ := hw
    exact (Subject.suffix.inj heq).symm
  have hsynonyms : ((settings.synonyms.map fun s => Entry.synonym s.1 s.2).map
      Entry.subject).Nodup := by
    rw [Synonyms.map, List.map_map]
    have hordered := settings.synonyms.ordered
    exact List.pairwise_map.2 (hordered.imp fun hlt heq => hlt.ne (Subject.synonym.inj heq))
  have hfields : Subject.fields ∉ (settings.synonyms.map fun s => Entry.synonym s.1 s.2).map
      Entry.subject := by
    simp [Synonyms.map, Entry.subject]
  rw [entries, List.map_append, List.map_cons]
  refine List.nodup_append'.2 ⟨hsuffixes, List.nodup_cons.2 ⟨hfields, hsynonyms⟩, ?_⟩
  rintro s hs hs'
  simp only [Synonyms.map, List.mem_map, List.mem_filterMap, Option.map_eq_some_iff,
    List.mem_cons] at hs hs'
  obtain ⟨_, ⟨v, -, text, -, rfl⟩, rfl⟩ := hs
  obtain heq | ⟨_, ⟨_, -, rfl⟩, heq⟩ := hs' <;> cases heq

/-- The assignments that are read are those of the entries. -/
theorem WritesLines.reads (h : WritesLines es lines) (hes : ∀ e ∈ es, e.Legible) :
    List.Forall₂ (fun e a => a.1 = e.subject.key ∧ e.Reads a.2) es (lines.filterMap ofLine?) := by
  induction h with
  | nil => exact .nil
  | @idle es line lines hline hlines ih =>
    have hnone : ofLine? line = none := hline.elim ofLine?_of_gap ofLine?_of_comment
    rw [List.filterMap_cons_none hnone]
    exact ih hes
  | @entry e es line lines hline hlines ih =>
    obtain ⟨he, hes⟩ := List.forall_mem_cons.1 hes
    obtain ⟨value, hvalue, hreads⟩ := hline.ofLine? he
    rw [List.filterMap_cons_some hvalue]
    exact .cons ⟨rfl, hreads⟩ (ih hes)

theorem map_fst_of_reads
    (h : List.Forall₂ (fun e a => a.1 = e.subject.key ∧ e.Reads a.2) es p) :
    p.map Prod.fst = (es.map Entry.subject).map Subject.key := by
  induction h with
  | nil => rfl
  | cons hfirst _ ih => simp [hfirst.1, ih]

theorem exists_assignment (h : List.Forall₂ (fun e a => a.1 = e.subject.key ∧ e.Reads a.2) es p)
    (he : e ∈ es) : ∃ value, (e.subject.key, value) ∈ p ∧ e.Reads value := by
  induction h with
  | nil => cases he
  | @cons first a es p hfirst _ ih =>
    rcases List.mem_cons.1 he with rfl | he
    · exact ⟨a.2, hfirst.1 ▸ List.mem_cons_self, hfirst.2⟩
    · obtain ⟨value, hvalue, hreads⟩ := ih he
      exact ⟨value, List.mem_cons_of_mem a hvalue, hreads⟩

/-- What is read from the text of some settings: each entry gives its key a value that says what the
entry says, and no other key has a value. -/
structure IsRead (settings : SchemaSettings) (p : Properties) : Prop where
  value : ∀ e ∈ entries settings, ∃ value, p.get? e.subject.key = some value ∧ e.Reads value
  subject : ∀ s : Subject, p.get? s.key ≠ none → ∃ e ∈ entries settings, e.subject = s

theorem Writes.isRead {text : String} (h : Writes settings text) (hsettings : Printable settings) :
    IsRead settings (ofText text) := by
  obtain ⟨es, hperm, hlines⟩ := h
  have hreads := hlines.reads fun e he => hsettings.legible (hperm.mem_iff.1 he)
  have hkeys : (ofText text).map Prod.fst = (es.map Entry.subject).map Subject.key :=
    map_fst_of_reads hreads
  have hnodup : ((ofText text).map Prod.fst).Nodup := by
    rw [hkeys]
    exact ((hperm.map _).nodup_iff.2 (subjects_nodup settings)).map Subject.key_injective
  constructor
  · intro e he
    obtain ⟨value, hvalue, hvalue'⟩ := exists_assignment hreads (hperm.mem_iff.2 he)
    exact ⟨value, get?_of_mem hnodup hvalue, hvalue'⟩
  · intro s hs
    rw [get?_ne_none_iff, hkeys, List.mem_map_of_injective Subject.key_injective] at hs
    obtain ⟨e, he, rfl⟩ := List.mem_map.1 hs
    exact ⟨e, hperm.mem_iff.1 he, rfl⟩

theorem IsRead.suffixes_get (h : IsRead settings p) (hsettings : Printable settings) (v : Variant) :
    p.suffixes.get v = settings.suffixes.get v := by
  rw [Properties.suffixes_get]
  cases hget : settings.suffixes.get v with
  | some text =>
    obtain ⟨value, hvalue, rfl⟩ := h.value (.suffix v text) (mem_entries.2 hget)
    have htrim : Text.trim value = value :=
      Text.trim_eq_self_iff.2 (hsettings.suffixes v value hget).1
    rw [show p.get? (suffixKey v) = some value from hvalue, Option.map_some, htrim]
  | none =>
    have hnone : p.get? (suffixKey v) = none := by
      by_contra hsome
      obtain ⟨e, he, hsubject⟩ := h.subject (.suffix v) hsome
      cases e with
      | suffix w text =>
        obtain rfl := Subject.suffix.inj hsubject
        have hmem := mem_entries.1 he
        simp [hget] at hmem
      | fields | synonym => cases hsubject
    rw [hnone]
    rfl

theorem IsRead.mem_synonyms (h : IsRead settings p) {entry : String × List String} :
    entry ∈ p.settings.synonyms.entries ↔ entry ∈ settings.synonyms.entries := by
  rw [Properties.mem_synonyms]
  constructor
  · rintro ⟨value, hvalue, hnames⟩
    obtain ⟨e, he, hsubject⟩ := h.subject (.synonym entry.1) (by simp [Subject.key, hvalue])
    cases e with
    | synonym name targets =>
      obtain rfl := Subject.synonym.inj hsubject
      obtain ⟨other, hother, hreads⟩ := h.value _ he
      obtain rfl : other = value := Option.some.inj (hother.symm.trans hvalue)
      obtain rfl : targets = entry.2 := hreads.symm.trans hnames
      exact mem_entries.1 he
    | suffix | fields => cases hsubject
  · exact fun hentry => h.value (.synonym entry.1 entry.2) (mem_entries.2 hentry)

theorem eq_of_get {s t : Suffixes} (h : ∀ v, s.get v = t.get v) : s = t := by
  cases s
  cases t
  simp only [Suffixes.mk.injEq]
  exact ⟨h .exact, h .present, h .sort, h .stemmed, h .facet, h .stored⟩

/-- Settings are told by what their entries say. -/
theorem IsRead.settings_eq (h : IsRead settings p) (hsettings : Printable settings) :
    p.settings = settings := by
  have hsuffixes : p.suffixes = settings.suffixes := eq_of_get (h.suffixes_get hsettings)
  have hsynonyms : p.settings.synonyms = settings.synonyms :=
    Synonyms.eq_of_mem_iff fun _ => h.mem_synonyms
  obtain ⟨value, hvalue, hnames⟩ := h.value (.fields settings.fields) (mem_entries.2 rfl)
  have hfields : p.settings.fields = settings.fields := by
    rw [Properties.settings, show p.get? "fields" = some value from hvalue]
    exact hnames
  have hparts : p.settings = ⟨p.suffixes, p.settings.fields, p.settings.synonyms,
      SchemaSettings.standardAnywhereAliases⟩ := rfl
  rw [hparts, hsuffixes, hfields, hsynonyms, ← hsettings.anywhereAliases]

end Read

def spaced (ns : List String) : String := String.intercalate " " ns

theorem writesNames_spaced (ns : List String) : WritesNames ns (spaced ns).toList := by
  induction ns with
  | nil => exact .nil
  | cons first rest ih =>
    cases rest with
    | nil =>
      have hspaced : spaced [first] = first := String.intercalate_singleton
      rw [hspaced]
      exact .single first
    | cons second rest =>
      have hspaced : (spaced (first :: second :: rest)).toList =
          first.toList ++ [' '] ++ (spaced (second :: rest)).toList := by
        simp only [spaced, String.intercalate_cons_cons, String.toList_append]
        rfl
      have hbreak : IsBreak [' '] := .blank (by decide)
      rw [hspaced]
      exact .cons hbreak ih

namespace Entry

def valueText : Entry → String
  | suffix _ text => text
  | fields names => spaced names
  | synonym _ targets => spaced targets

def printed (e : Entry) : List Char := e.subject.key.toList ++ '=' :: e.valueText.toList

theorem writesLine_printed (e : Entry) : e.WritesLine e.printed := by
  have hvalue : e.WritesValue e.valueText.toList := by
    cases e with
    | suffix v text => rfl
    | fields ns => exact writesNames_spaced ns
    | synonym name targets => exact writesNames_spaced targets
  have hgap : IsGap [] := by decide
  have hline := WritesLine.mk hvalue (.inl rfl) ⟨hgap, hgap, hgap, hgap⟩
  simpa only [List.nil_append, List.append_nil, printed] using hline

theorem Legible.not_mem_printed {e : Entry} (h : e.Legible) : '\n' ∉ e.printed := by
  have hnames {ns : List String} (hns : ∀ name ∈ ns, IsName name) : '\n' ∉ (spaced ns).toList := by
    intro hmem
    rcases Text.mem_intercalate hmem with hmem | ⟨name, hname, hmem⟩
    · exact absurd hmem (by decide)
    · have hblank := (hns name hname).not_blank
      simp only [Text.hasBlank, List.any_eq_false] at hblank
      exact hblank '\n' hmem (by decide)
  have htext : '\n' ∉ e.valueText.toList := by
    cases e with
    | suffix v text => exact h.2
    | fields ns => exact hnames h
    | synonym name targets => exact hnames h.2
  have hkey : '\n' ∉ e.subject.key.toList := fun hmem =>
    absurd (h.isAlias_key '\n' hmem).1 (by decide)
  simp [printed, hkey, htext]

end Entry

theorem writesLines_printed (es : List Entry) : WritesLines es (es.map Entry.printed) := by
  induction es with
  | nil => exact .nil
  | cons e es ih => exact .entry e.writesLine_printed ih

theorem Printable.exists_writes {settings : SchemaSettings} (h : Printable settings) :
    ∃ text, Writes settings text := by
  let lines := (entries settings).map Entry.printed
  have hlines : ∀ line ∈ lines, '\n' ∉ line := by
    intro line hline
    obtain ⟨e, he, rfl⟩ := List.mem_map.1 hline
    exact (h.legible he).not_mem_printed
  have hne : lines ≠ [] := by simp [lines, entries]
  refine ⟨String.ofList (List.intercalate ['\n'] lines), entries settings, .refl _, ?_⟩
  rw [String.toList_ofList, List.splitOn_intercalate '\n' hlines hne]
  exact writesLines_printed _

/-- Settings that properties can say can be written, and they are read from every text that writes
them. Of any properties the settings depend only on the value that each key has in the end, so that
a line can be left out if its key is assigned again further on. -/
theorem settings_of_text :
    (∀ settings : SchemaSettings, Printable settings → (∃ text, Writes settings text) ∧
      ∀ text, Writes settings text → (ofText text).settings = settings) ∧
    (∀ p q : Properties, (∀ key, p.get? key = q.get? key) → p.settings = q.settings) ∧
    ∀ (text shorter : String) (before after : List (List Char)) (line : List Char) (key : String),
      text.toList.splitOn '\n' = before ++ line :: after →
      shorter.toList.splitOn '\n' = before ++ after →
      HasKey line key → (∃ later ∈ after, Assigns later key) →
      (ofText shorter).settings = (ofText text).settings := by
  refine ⟨fun settings hsettings => ⟨hsettings.exists_writes, fun text htext =>
    (htext.isRead hsettings).settings_eq hsettings⟩, fun p q => settings_congr,
    fun text shorter before after line key htext hshorter hkey hlater => ?_⟩
  obtain ⟨later, hafter, hassigns⟩ := hlater
  apply settings_congr
  intro other
  rw [ofText, ofText, htext, hshorter]
  exact (get?_of_reassigned hkey hafter hassigns before other).symm

/-- Lines out of order, with another line end and a comment, and fields that are assigned before. -/
theorem settings_of_text_reordered :
    let settings : SchemaSettings := ⟨⟨some ".x", none, none, none, none, none⟩,
      ["title", "author"], ⟨[("t", ["title"])], by decide⟩,
      SchemaSettings.standardAnywhereAliases⟩
    let text := "indexSynonym.t : title\n! fields = note\n fields=title,  author\r\nexactSuffix:.x"
    (ofText text).settings = settings ∧
      (ofText ("fields : note\n" ++ text)).settings = settings := by
  intro settings text
  obtain ⟨hread, -, hshorter⟩ := settings_of_text
  have hlines : text.toList.splitOn '\n' = ["indexSynonym.t : title".toList,
      "! fields = note".toList, " fields=title,  author\r".toList, "exactSuffix:.x".toList] := by
    decide
  have hlonger : ("fields : note\n" ++ text).toList.splitOn '\n' =
      "fields : note".toList :: text.toList.splitOn '\n' := by
    decide
  have hsettings : Printable settings := by
    refine ⟨rfl, fun v suffix hsuffix => ?_, by decide, by decide⟩
    cases v <;> cases hsuffix
    exact ⟨Text.trim_eq_self_iff.1 (by decide), by decide⟩
  have hwrites : Writes settings text := by
    have hbreak : IsBreak [',', ' ', ' '] := .comma (by decide)
    have hnames : WritesNames ["title", "author"] "title,  author".toList :=
      .cons hbreak (.single "author")
    have hsynonym : (Entry.synonym "t" ["title"]).WritesLine "indexSynonym.t : title".toList :=
      @Entry.WritesLine.mk _ "title".toList [] [' '] [' '] [] ':' (.single "title") (.inr rfl)
        (by decide)
    have hfields : (Entry.fields ["title", "author"]).WritesLine
        " fields=title,  author\r".toList :=
      @Entry.WritesLine.mk _ "title,  author".toList [' '] [] [] ['\r'] '=' hnames (.inl rfl)
        (by decide)
    have hsuffix : (Entry.suffix .exact ".x").WritesLine "exactSuffix:.x".toList :=
      @Entry.WritesLine.mk _ ".x".toList [] [] [] [] ':' rfl (.inr rfl) (by decide)
    have hcomment : IsComment "! fields = note".toList := ⟨'!', by decide, by decide⟩
    refine ⟨[.synonym "t" ["title"], .fields ["title", "author"], .suffix .exact ".x"],
      by decide, ?_⟩
    rw [hlines]
    exact .entry hsynonym (.idle (.inr hcomment) (.entry hfields (.entry hsuffix .nil)))
  have hsame : (ofText text).settings = settings := (hread settings hsettings).2 text hwrites
  have hkey : HasKey "fields : note".toList "fields" :=
    @HasKey.separated "fields ".toList " note".toList ':' (by simp [IsSeparator]) (.inr rfl)
  have hlater : Assigns " fields=title,  author\r".toList "fields" := by
    refine ⟨@HasKey.separated " fields".toList "title,  author\r".toList '='
      (by simp [IsSeparator]) (.inl rfl), ?_, by decide⟩
    rintro ⟨c, hc, hmark⟩
    obtain rfl : 'f' = c := Option.some.inj hc
    exact absurd hmark (by decide)
  refine ⟨hsame, ?_⟩
  rw [← hsame]
  exact (hshorter _ text [] _ _ "fields" hlonger rfl hkey ⟨_, by rw [hlines]; simp, hlater⟩).symm

end SearchRetrieve.Properties
