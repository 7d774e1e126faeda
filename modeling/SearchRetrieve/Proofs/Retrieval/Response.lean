import SearchRetrieve.Proofs.Retrieval.Page
import SearchRetrieve.Proofs.Text.Words
import SearchRetrieve.Proofs.Xml.Markup
import Mathlib.Data.List.Forall2

/-!
# What a response says

What the tree of a response reports, states and holds, told apart from how a page is made of it.
An expired result set counts more than anything else in a response, and then the number of records
has to be there. A page has one slot for each place of a record, in the order of the document.
-/
namespace SearchRetrieve

namespace Response

/-- An element of the response format, in its namespace or in none. -/
def InFormat (localName : String) (n : Xml.Node) : Prop :=
  n.name? = some ⟨none, localName⟩ ∨ n.name? = some ⟨some Page.responseSpace, localName⟩

def IsCalled (localName : String) (n : Xml.Node) : Prop :=
  ∃ space, n.name? = some ⟨space, localName⟩

def IsFirst {α : Type} (P : α → Prop) (xs : List α) (x : α) : Prop :=
  P x ∧ ∃ before after, xs = before ++ x :: after ∧ ∀ y ∈ before, ¬P y

/-- The text of an element, which is its first child if that is a text, and else empty. -/
def textOf : Xml.Node → String
  | .element _ _ (.text content _ _ :: _) _ _ => content
  | _ => ""

/-- A diagnostic whose first URI says that the result set has expired. -/
def ReportsExpiry (diagnostic : Xml.Node) : Prop :=
  ∃ uri, IsFirst (IsCalled "uri") diagnostic.children uri ∧
    Text.trim (textOf uri) = Diagnostic.expiredUri

def Expired (root : Xml.Node) : Prop :=
  ∃ container ∈ root.children, InFormat "diagnostics" container ∧
    ∃ diagnostic ∈ container.children, IsCalled "diagnostic" diagnostic ∧ ReportsExpiry diagnostic

/-- Decimal digits of a number of 64 bits, perhaps with a plus sign. -/
def Spells (cs : List Char) (n : Nat) : Prop :=
  n < UInt64.size ∧ ∃ digits, (cs = digits ∨ cs = '+' :: digits) ∧ digits ≠ [] ∧
    (∀ c ∈ digits, Text.isDigit c = true) ∧ Text.digitsValue digits = n

def States (root : Xml.Node) (n : Nat) : Prop :=
  ∃ total, IsFirst (InFormat "numberOfRecords") root.children total ∧
    Spells (Text.trimChars (textOf total).toList) n

/-- The record that is child `place.2` of child `place.1` of the response. -/
def RecordAt (root : Xml.Node) (place : Nat × Nat) (record : Xml.Node) : Prop :=
  InFormat "record" record ∧ ∃ container, InFormat "records" container ∧
    root.children[place.1]? = some container ∧ container.children[place.2]? = some record

def textsOf (n : Xml.Node) : String := String.join (n.children.filterMap Xml.Node.text?)

/-- A record without data, or whose first data hold no element and no text but white space. -/
def IsVacant (record : Xml.Node) : Prop :=
  (∀ n ∈ record.children, ¬InFormat "recordData" n) ∨
    ∃ data, IsFirst (InFormat "recordData") record.children data ∧
      (∀ n ∈ data.children, n.isElement = false) ∧
      ∀ c ∈ (textsOf data).toList, Text.isBlank c = true

/-- The payload of a record: its first data are the markup of an element, or else a text. -/
def Holds (record : Xml.Node) (payload : String) : Prop :=
  ∃ data, IsFirst (InFormat "recordData") record.children data ∧
    ((∃ element, IsFirst (fun n => n.isElement = true) data.children element ∧
        payload = element.markup) ∨
      (∀ n ∈ data.children, n.isElement = false) ∧
        (∃ c ∈ (textsOf data).toList, Text.isBlank c = false) ∧
        payload = Text.trim (textsOf data))

/-- One slot for each record of the response, in the order of the document. -/
def Aligned (root : Xml.Node) (slots : List (Option String)) : Prop :=
  ∃ places : List (Nat × Nat), places.Pairwise (Prod.Lex (· < ·) (· < ·)) ∧
    (∀ place, place ∈ places ↔ ∃ record, RecordAt root place record) ∧
    List.Forall₂ (fun place slot => ∃ record, RecordAt root place record ∧
      (slot = none ↔ IsVacant record) ∧ ∀ payload, slot = some payload ↔ Holds record payload)
      places slots

variable {localName : String} {root n record data : Xml.Node}

theorem isPart_iff : Page.isPart localName n = true ↔ InFormat localName n := by
  simp [Page.isPart, InFormat]

theorem isNamed_iff : n.isNamed localName = true ↔ IsCalled localName n := by
  unfold Xml.Node.isNamed IsCalled
  cases n.name? with
  | none => simp
  | some name =>
    obtain ⟨space, own⟩ := name
    simp

theorem find?_eq_some_iff {α : Type} {p : α → Bool} {P : α → Prop} (hp : ∀ x, p x = true ↔ P x)
    {xs : List α} {x : α} : xs.find? p = some x ↔ IsFirst P xs x := by
  simp [List.find?_eq_some_iff_append, IsFirst, ← hp]

theorem parts_head? (m : Xml.Node) :
    (Page.parts localName n).head? = some m ↔ IsFirst (InFormat localName) n.children m := by
  rw [Page.parts, List.head?_filter]
  exact find?_eq_some_iff fun _ => isPart_iff

theorem parts_head?_eq_none :
    (Page.parts localName n).head? = none ↔ ∀ m ∈ n.children, ¬InFormat localName m := by
  rw [Page.parts, List.head?_filter, List.find?_eq_none]
  simp only [isPart_iff]

theorem trimmedText_eq (n : Xml.Node) : Page.trimmedText n = Text.trim (textOf n) := by
  unfold Page.trimmedText
  congr 1
  match n with
  | .element _ _ (.text _ _ _ :: _) _ _ => rfl
  | .element _ _ (.element _ _ _ _ _ :: _) _ _ => rfl
  | .element _ _ (.comment _ :: _) _ _ => rfl
  | .element _ _ (.instruction _ :: _) _ _ => rfl
  | .element _ _ [] _ _ => rfl
  | .text _ _ _ => rfl
  | .comment _ => rfl
  | .instruction _ => rfl

theorem reportsExpiry_iff {diagnostic : Xml.Node} :
    (∃ d, Page.diagnosticOf? diagnostic = some d ∧ d.isExpiry = true) ↔
      ReportsExpiry diagnostic := by
  have huri (uri : Xml.Node) : (Page.named "uri" diagnostic).head? = some uri ↔
      IsFirst (IsCalled "uri") diagnostic.children uri := by
    rw [Page.named, List.head?_filter]
    exact find?_eq_some_iff fun _ => isNamed_iff
  unfold Page.diagnosticOf? Page.childText? ReportsExpiry
  simp only [Option.map_eq_some_iff, huri, Diagnostic.isExpiry, beq_iff_eq, trimmedText_eq]
  constructor
  · rintro ⟨_, ⟨_, ⟨uri, hfirst, rfl⟩, rfl⟩, hexpired⟩
    exact ⟨uri, hfirst, Text.trim_trim _ ▸ hexpired⟩
  · rintro ⟨uri, hfirst, hexpired⟩
    exact ⟨_, ⟨_, ⟨uri, hfirst, rfl⟩, rfl⟩, (Text.trim_trim _).trans hexpired⟩

theorem expired_iff : (∃ d ∈ Page.diagnosticsOf root, d.isExpiry = true) ↔ Expired root := by
  simp only [Page.diagnosticsOf, Page.parts, Page.named, List.mem_filterMap, List.mem_flatMap,
    List.mem_filter, isPart_iff, isNamed_iff, Expired, ← reportsExpiry_iff]
  constructor
  · rintro ⟨d, ⟨diagnostic, ⟨container, ⟨hc, hformat⟩, hd, hcalled⟩, hof⟩, hexpiry⟩
    exact ⟨container, hc, hformat, diagnostic, hd, hcalled, d, hof, hexpiry⟩
  · rintro ⟨container, hc, hformat, diagnostic, hd, hcalled, d, hof, hexpiry⟩
    exact ⟨d, ⟨diagnostic, ⟨container, ⟨hc, hformat⟩, hd, hcalled⟩, hof⟩, hexpiry⟩

/-- The URI of a diagnostic has no white space around it, so that it is known from what it
reports. -/
theorem uri_of_isExpiry {d : Diagnostic} (hd : d ∈ Page.diagnosticsOf root)
    (hexpiry : d.isExpiry = true) : d.uri = Diagnostic.expiredUri := by
  obtain ⟨diagnostic, -, hof⟩ := List.mem_filterMap.1 hd
  obtain ⟨_, huri, rfl⟩ := Option.map_eq_some_iff.1 hof
  obtain ⟨_, -, rfl⟩ := Option.map_eq_some_iff.1 huri
  have htrim : Text.trim (Page.trimmedText _) = Diagnostic.expiredUri := beq_iff_eq.1 hexpiry
  rwa [trimmedText_eq, Text.trim_trim, ← trimmedText_eq] at htrim

theorem totalOf_eq_ok {k : Nat} : Page.totalOf root = .ok k ↔ States root k := by
  unfold Page.totalOf Page.partText? States
  simp only [← parts_head?, Spells, ← Text.natBelow?_eq_some]
  cases (Page.parts "numberOfRecords" root).head? with
  | none => simp
  | some total =>
    have htext : (Page.trimmedText total).toList = Text.trimChars (textOf total).toList := by
      rw [trimmedText_eq, Text.trim, String.toList_ofList]
    simp only [Option.map_some, htext, Option.some.injEq, exists_eq_left']
    cases hspelt : Text.natBelow? UInt64.size (Text.trimChars (textOf total).toList) <;>
      simp

def placed (root : Xml.Node) : List ((Nat × Nat) × Xml.Node) :=
  (root.children.zipIdx.filter fun c => Page.isPart "records" c.1).flatMap fun c =>
    (c.1.children.zipIdx.filter fun r => Page.isPart "record" r.1).map fun r =>
      ((c.2, r.2), r.1)

theorem filter_zipIdx_fst {α : Type} (p : α → Bool) (xs : List α) :
    (xs.zipIdx.filter fun x => p x.1).map Prod.fst = xs.filter p := by
  rw [← Function.comp_def p Prod.fst, ← List.filter_map, List.zipIdx_map_fst]

theorem pairwise_filter_zipIdx {α : Type} (p : α → Bool) (xs : List α) :
    (xs.zipIdx.filter fun x => p x.1).Pairwise fun x y => x.2 < y.2 := by
  have hall : (xs.zipIdx.map Prod.snd).Pairwise (· < ·) := by
    rw [List.zipIdx_map_snd]
    exact List.pairwise_lt_range' 1
  exact (List.pairwise_map.1 hall).filter _

theorem mem_placed {place : Nat × Nat} :
    (place, record) ∈ placed root ↔ RecordAt root place record := by
  obtain ⟨i, j⟩ := place
  simp only [placed, RecordAt, List.mem_flatMap, List.mem_map, List.mem_filter, Prod.exists,
    List.mk_mem_zipIdx_iff_getElem?, isPart_iff, Prod.mk.injEq]
  constructor
  · rintro ⟨container, _, ⟨hi, hcontainer⟩, _, _, ⟨hj, hrecord⟩, ⟨rfl, rfl⟩, rfl⟩
    exact ⟨hrecord, container, hcontainer, hi, hj⟩
  · rintro ⟨hrecord, container, hcontainer, hi, hj⟩
    exact ⟨container, i, ⟨hi, hcontainer⟩, record, j, ⟨hj, hrecord⟩, ⟨rfl, rfl⟩, rfl⟩

theorem placed_records :
    (placed root).map Prod.snd = (Page.parts "records" root).flatMap (Page.parts "record") := by
  have hrecords (c : Xml.Node × Nat) :
      ((c.1.children.zipIdx.filter fun r => Page.isPart "record" r.1).map fun r =>
        ((c.2, r.2), r.1)).map Prod.snd = Page.parts "record" c.1 := by
    rw [List.map_map, Page.parts, ← filter_zipIdx_fst _ c.1.children]
    rfl
  simp only [placed, List.map_flatMap, hrecords]
  rw [Page.parts, ← filter_zipIdx_fst _ root.children, List.flatMap_map]

/-- Earlier containers come first, and earlier records of one container. -/
theorem placed_pairwise : ((placed root).map Prod.fst).Pairwise (Prod.Lex (· < ·) (· < ·)) := by
  rw [List.pairwise_map, placed, List.pairwise_flatMap]
  constructor
  · intro c _
    rw [List.pairwise_map]
    refine (pairwise_filter_zipIdx _ _).imp fun hlt => ?_
    exact Prod.Lex.right _ hlt
  · refine (pairwise_filter_zipIdx _ _).imp fun hlt x hx y hy => ?_
    obtain ⟨_, -, rfl⟩ := List.mem_map.1 hx
    obtain ⟨_, -, rfl⟩ := List.mem_map.1 hy
    exact Prod.Lex.left _ _ hlt

theorem trim_eq_empty_iff {s : String} :
    Text.trim s = "" ↔ ∀ c ∈ s.toList, Text.isBlank c = true := by
  rw [Text.trim, ← Text.trimChars_eq_nil_iff, ← String.toList_inj, String.toList_ofList]
  rfl

section Payload

variable (hdata : (Page.parts "recordData" record).head? = some data)
include hdata

theorem isVacant_iff : IsVacant record ↔ data.children.find? Xml.Node.isElement = none ∧
    Text.trim (textsOf data) = "" := by
  simp only [IsVacant, ← parts_head?_eq_none, ← parts_head?, hdata]
  simp [trim_eq_empty_iff]

theorem holds_iff {payload : String} : Holds record payload ↔
    (∃ element, data.children.find? Xml.Node.isElement = some element ∧
        payload = element.markup) ∨
      data.children.find? Xml.Node.isElement = none ∧ Text.trim (textsOf data) ≠ "" ∧
        payload = Text.trim (textsOf data) := by
  have hfirst (d : Xml.Node) : IsFirst (InFormat "recordData") record.children d ↔ data = d := by
    rw [← parts_head?, hdata, Option.some.injEq]
  have helement (element : Xml.Node) :
      IsFirst (fun n => n.isElement = true) data.children element ↔
        data.children.find? Xml.Node.isElement = some element :=
    (find?_eq_some_iff fun _ => Iff.rfl).symm
  simp only [Holds, hfirst, exists_eq_left', helement]
  simp [trim_eq_empty_iff]

theorem payload?_eq : Page.payload? record =
    match data.children.find? Xml.Node.isElement with
    | some element => some element.markup
    | none => if Text.trim (textsOf data) = "" then none else some (Text.trim (textsOf data)) := by
  simp only [Page.payload?, hdata]
  cases data.children.find? Xml.Node.isElement with
  | some element => rfl
  | none =>
    dsimp only
    change _ = if Text.trim (textsOf data) = "" then none else some (Text.trim (textsOf data))
    unfold textsOf
    generalize Text.trim (String.join (data.children.filterMap Xml.Node.text?)) = text
    split
    · rfl
    · next hne => exact (if_neg hne).symm

end Payload

theorem payload?_eq_none : Page.payload? record = none ↔ IsVacant record := by
  cases hdata : (Page.parts "recordData" record).head? with
  | none =>
    have hpayload : Page.payload? record = none := by rw [Page.payload?, hdata]
    exact iff_of_true hpayload (.inl (parts_head?_eq_none.1 hdata))
  | some data =>
    rw [payload?_eq hdata, isVacant_iff hdata]
    cases data.children.find? Xml.Node.isElement <;> simp

theorem payload?_eq_some {payload : String} :
    Page.payload? record = some payload ↔ Holds record payload := by
  cases hdata : (Page.parts "recordData" record).head? with
  | none =>
    have hpayload : Page.payload? record = none := by rw [Page.payload?, hdata]
    refine iff_of_false (by simp [hpayload]) ?_
    rintro ⟨data, ⟨hformat, before, after, hchildren, -⟩, -⟩
    exact parts_head?_eq_none.1 hdata data (by simp [hchildren]) hformat
  | some data =>
    rw [payload?_eq hdata, holds_iff hdata]
    cases data.children.find? Xml.Node.isElement <;> simp [eq_comm (a := payload)]

theorem recordsOf_aligned : Aligned root (Page.recordsOf root) := by
  refine ⟨(placed root).map Prod.fst, placed_pairwise, fun place => ?_, ?_⟩
  · simp only [List.mem_map, Prod.exists, exists_and_right, exists_eq_right, mem_placed]
  · rw [Page.recordsOf, ← placed_records, List.map_map, List.forall₂_map_left_iff,
      List.forall₂_map_right_iff, List.forall₂_same]
    intro p hp
    exact ⟨p.2, mem_placed.1 hp, payload?_eq_none, fun _ => payload?_eq_some⟩

theorem ofRoot_of_not_inFormat (h : ¬InFormat "searchRetrieveResponse" root) :
    ∃ e reason, Page.ofRoot root = .error e ∧ e.fault = .response reason := by
  have hpart : Page.isPart "searchRetrieveResponse" root = false := by
    rwa [← Bool.not_eq_true, isPart_iff]
  refine ⟨.unexpectedRoot ((root.name?.map Xml.Name.localName).getD ""), _, ?_, rfl⟩
  simp [Page.ofRoot, hpart, throw, throwThe, MonadExceptOf.throw, bind, Except.bind]

theorem totalOf_error_fault {e : PageError} (h : Page.totalOf root = .error e) :
    ∃ reason, e.fault = .response reason := by
  unfold Page.totalOf at h
  split at h
  · cases h
    cases (Page.diagnosticsOf root).head?.map Diagnostic.uri <;> exact ⟨_, rfl⟩
  · split at h
    · simp at h
    · cases h
      exact ⟨_, rfl⟩

section InFormat

variable (hformat : InFormat "searchRetrieveResponse" root)
include hformat

theorem ofRoot_of_expired (h : Expired root) :
    Page.ofRoot root = .error (.resultSetExpired Diagnostic.expiredUri) := by
  rw [Page.ofRoot_of_isPart (isPart_iff.2 hformat)]
  cases hfind : (Page.diagnosticsOf root).find? Diagnostic.isExpiry with
  | some expired =>
    have huri := uri_of_isExpiry (List.mem_of_find?_eq_some hfind) (List.find?_some hfind)
    simp only [huri]
  | none =>
    obtain ⟨d, hd, hexpiry⟩ := expired_iff.2 h
    exact absurd hexpiry (List.find?_eq_none.1 hfind d hd)

theorem ofRoot_of_not_expired (h : ¬Expired root) :
    Page.ofRoot root = (Page.totalOf root).map fun total =>
      ⟨total, Page.resultSetIdOf root, Page.recordsOf root, Page.diagnosticsOf root,
        Page.facetsOf root⟩ := by
  have hfind : (Page.diagnosticsOf root).find? Diagnostic.isExpiry = none :=
    List.find?_eq_none.2 fun d hd hexpiry => h (expired_iff.1 ⟨d, hd, hexpiry⟩)
  rw [Page.ofRoot_of_isPart (isPart_iff.2 hformat), hfind]

theorem ofRoot_of_not_states (h : ¬Expired root) (htotal : ∀ n, ¬States root n) :
    ∃ e reason, Page.ofRoot root = .error e ∧ e.fault = .response reason := by
  rw [ofRoot_of_not_expired hformat h]
  cases hof : Page.totalOf root with
  | error e =>
    obtain ⟨reason, hreason⟩ := totalOf_error_fault hof
    exact ⟨e, reason, rfl, hreason⟩
  | ok n => exact absurd (totalOf_eq_ok.1 hof) (htotal n)

theorem ofRoot_of_states (h : ¬Expired root) {total : Nat} (htotal : States root total) :
    ∃ page, Page.ofRoot root = .ok page ∧ page.total = total ∧ Aligned root page.records := by
  rw [ofRoot_of_not_expired hformat h, totalOf_eq_ok.2 htotal]
  exact ⟨_, rfl, rfl, recordsOf_aligned⟩

end InFormat

/-- What the reading of a response gives, whatever its tree. The reasons for no page are ranked: an
element at the top that is none of the format, an expired result set, no number of records. A page
has this number and one slot for each record, and the markup in its slots is that of the text. -/
theorem ofRoot_outcomes (root : Xml.Node) :
    (¬InFormat "searchRetrieveResponse" root →
      ∃ e reason, Page.ofRoot root = .error e ∧ e.fault = .response reason) ∧
    (InFormat "searchRetrieveResponse" root → Expired root →
      Page.ofRoot root = .error (.resultSetExpired Diagnostic.expiredUri)) ∧
    (InFormat "searchRetrieveResponse" root → ¬Expired root → (∀ total, ¬States root total) →
      ∃ e reason, Page.ofRoot root = .error e ∧ e.fault = .response reason) ∧
    (InFormat "searchRetrieveResponse" root → ¬Expired root → ∀ total, States root total →
      ∃ page, Page.ofRoot root = .ok page ∧ page.total = total ∧ Aligned root page.records) ∧
    ∀ text, Xml.ofText? text = some root →
      (∀ complaint, Page.ofText text complaint = Page.ofRoot root) ∧
      ∀ n ∈ root.descendants, n.markup.toList <:+: text.toList := by
  refine ⟨ofRoot_of_not_inFormat, ofRoot_of_expired, ofRoot_of_not_states,
    fun hformat hexpired _ => ofRoot_of_states hformat hexpired, fun text htext => ⟨?_, ?_⟩⟩
  · intro complaint
    rw [Page.ofText, htext]
  · exact fun n hn => Xml.ofText?_markup htext hn

/-- A response of two containers and a diagnostic, with elements of a foreign namespace among its
parts. -/
def mixed (uri : String) : Xml.Node :=
  let element (space : Option String) (localName : String) (children : List Xml.Node) :=
    Xml.Node.element ⟨space, localName⟩ [] children "" ""
  let part := element (some Page.responseSpace)
  let text (content : String) := Xml.Node.text content content ""
  part "searchRetrieveResponse" [
    element (some "urn:x") "numberOfRecords" [text "9"], part "numberOfRecords" [text " +4 "],
    part "records" [
      part "record" [part "recordData" [
        text "t", .element ⟨none, "m"⟩ [] [text "moon", .comment "<!-- -->"] "<m>" "</m>"]],
      element none "record" [part "recordData" [text " u", .comment "<!---->", text "v "]]],
    part "records" [
      element (some "urn:x") "record" [], part "record" [element (some "urn:x") "recordData" []]],
    part "diagnostics" [part "diagnostic" [part "uri" [text uri]]]]

/-- With a diagnostic of another kind the response gives a page, with that of an expired result set
it does not. -/
theorem ofRoot_outcomes_mixed :
    let kept := mixed "info:srw/diagnostic/1/4"
    let gone := mixed " info:srw/diagnostic/1/51\n"
    (InFormat "searchRetrieveResponse" kept ∧ ¬Expired kept ∧ States kept 4 ∧
      ∃ page, Page.ofRoot kept = .ok page ∧ page.total = 4 ∧ Aligned kept page.records ∧
        page.records = [some "<m>moon<!-- --></m>", some "uv", none]) ∧
    InFormat "searchRetrieveResponse" gone ∧ Expired gone ∧
      Page.ofRoot gone = .error (.resultSetExpired "info:srw/diagnostic/1/51") := by
  intro kept gone
  have hread : Page.isPart "searchRetrieveResponse" kept = true ∧
      (Page.diagnosticsOf kept).any Diagnostic.isExpiry = false ∧
      (Page.totalOf kept).toOption = some 4 ∧
      Page.recordsOf kept = [some "<m>moon<!-- --></m>", some "uv", none] := by
    decide +kernel
  obtain ⟨hpart, hfind, htotal, hrecords⟩ := hread
  have hformat : InFormat "searchRetrieveResponse" kept := isPart_iff.1 hpart
  have hkept : ¬Expired kept := fun h => by
    have hany := List.any_eq_true.2 (expired_iff.2 h)
    rw [hfind] at hany
    exact Bool.false_ne_true hany
  have hstates : States kept 4 := by
    rw [← totalOf_eq_ok]
    cases hof : Page.totalOf kept <;> simp_all [Except.toOption]
  have hformat' : InFormat "searchRetrieveResponse" gone := isPart_iff.1 (by decide +kernel)
  have hgone : Expired gone := expired_iff.1 (List.any_eq_true.1 (by decide +kernel))
  obtain ⟨page, hpage, htotal, haligned⟩ :=
    (ofRoot_outcomes kept).2.2.2.1 hformat hkept 4 hstates
  have hslots : page.records = Page.recordsOf kept := by
    rw [(Page.ofRoot_eq_ok.1 hpage).2.2.2]
  exact ⟨⟨hformat, hkept, hstates, page, hpage, htotal, haligned, hslots.trans hrecords⟩,
    hformat', hgone, (ofRoot_outcomes gone).2.1 hformat' hgone⟩

end Response

end SearchRetrieve
