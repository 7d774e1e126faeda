import SearchRetrieve.Proofs.Retrieval.Retry

/-!
# Result sets that are continued

A page belongs to the result set that its response names or, if it names none, to the one that its
request has continued. A session keeps the last result set that any page has named, and continues
that. It is the one of the loaded page unless this page belongs to none: it has come for the query
itself, after a failure, and without a name.
-/
namespace SearchRetrieve

/-- A request, what it brought, and the result set that it continued, if it did. -/
structure Asked where
  event : Event
  continued : Option String
  deriving DecidableEq

namespace Asked

def query (search : Search) (a : Asked) : String :=
  match a.continued with
  | some id => continuationQuery id
  | none => search.query

/-- The request continues what it is said to continue. -/
def Truthful (search : Search) (a : Asked) : Prop :=
  ∃ cursor continuing, a.event.url = search.url cursor continuing ∧
    search.queryAt cursor continuing = a.query search

def ownerAfter (owner : Option String) (a : Asked) : Option String :=
  match a.event.page? with
  | some page => page.resultSetId <|> a.continued
  | none => owner

def namedAfter (named : Option String) (a : Asked) : Option String :=
  match a.event.page? with
  | some page => page.resultSetId <|> named
  | none => named

end Asked

/-- The result set that the last accepted page belongs to. -/
def owner (asked : List Asked) : Option String := asked.foldl Asked.ownerAfter none

/-- The result set that an accepted page has named last. -/
def lastNamed (asked : List Asked) : Option String := asked.foldl Asked.namedAfter none

/-- Every continuation is one of the result set that has been named last; `named` was so before. -/
def ContinuesNamed (named : Option String) : List Asked → Prop
  | [] => True
  | a :: later =>
    (∀ id, a.continued = some id → named = some id) ∧ ContinuesNamed (a.namedAfter named) later

/-- Every continuation is one of the result set that the loaded page belongs to. -/
def ContinuesOwner (asked : List Asked) : Prop :=
  ∀ earlier a later, asked = earlier ++ a :: later →
    ∀ id, a.continued = some id → owner earlier = some id

section Histories

variable {named : Option String} {asked earlier later : List Asked} {a : Asked} {id : String}

theorem continuesNamed_of_none (h : ∀ a ∈ asked, a.continued = none) :
    ContinuesNamed named asked := by
  induction asked generalizing named with
  | nil => trivial
  | cons a asked ih =>
    obtain ⟨hnone, hlater⟩ := List.forall_mem_cons.1 h
    exact ⟨by simp [hnone], ih hlater⟩

theorem continuesNamed_append : ContinuesNamed named (asked ++ later) ↔
    ContinuesNamed named asked ∧ ContinuesNamed (asked.foldl Asked.namedAfter named) later := by
  induction asked generalizing named with
  | nil => simp [ContinuesNamed]
  | cons a asked ih => simp [ContinuesNamed, ih, and_assoc]

theorem foldl_namedAfter : asked.foldl Asked.namedAfter named =
    (pages (asked.map Asked.event)).foldl (fun named page => page.resultSetId <|> named) named := by
  induction asked generalizing named with
  | nil => rfl
  | cons a asked ih =>
    rw [List.foldl_cons, ih, List.map_cons]
    unfold pages Asked.namedAfter
    rw [List.filterMap_cons]
    cases a.event.page? <;> rfl

theorem ContinuesNamed.foldl_ownerAfter {owner : Option String} (h : ContinuesNamed named asked)
    (howner : owner = none ∨ owner = named) :
    asked.foldl Asked.ownerAfter owner = none ∨
      asked.foldl Asked.ownerAfter owner = asked.foldl Asked.namedAfter named := by
  induction asked generalizing owner named with
  | nil => exact howner
  | cons a asked ih =>
    obtain ⟨hcontinued, hlater⟩ := h
    refine ih hlater ?_
    unfold Asked.ownerAfter Asked.namedAfter
    cases a.event.page? with
    | none => exact howner
    | some page =>
      -- a page without a name belongs where its request does, which was named last if anywhere
      dsimp only
      cases page.resultSetId with
      | some id => exact Or.inr rfl
      | none =>
        cases hid : a.continued with
        | none => exact Or.inl rfl
        | some id => exact Or.inr (hcontinued id hid).symm

theorem ContinuesNamed.owner_of_continued (h : ContinuesNamed none (earlier ++ a :: later))
    (hid : a.continued = some id) :
    lastNamed earlier = some id ∧ (owner earlier = none ∨ owner earlier = some id) := by
  obtain ⟨hearlier, hcontinued, -⟩ := continuesNamed_append.1 h
  have hnamed : lastNamed earlier = some id := hcontinued id hid
  exact ⟨hnamed, hnamed ▸ hearlier.foldl_ownerAfter (Or.inl rfl)⟩

theorem ContinuesNamed.continuesOwner_iff (h : ContinuesNamed none asked) :
    ContinuesOwner asked ↔ ∀ earlier a later, asked = earlier ++ a :: later →
      owner earlier = none → a.continued = none := by
  constructor
  · rintro howner earlier a later rfl hnone
    refine Option.eq_none_iff_forall_ne_some.2 fun id hid => ?_
    simp [howner earlier a later rfl id hid] at hnone
  · rintro hnone earlier a later rfl id hid
    refine (h.owner_of_continued hid).2.resolve_left fun howner => ?_
    simp [hnone earlier a later rfl howner] at hid

end Histories

namespace Search

variable {search : Search} {c c' : Cursor} {continuing continuing' : Bool}

theorem queryAt_eq_of_url_eq (h : search.url c continuing = search.url c' continuing') :
    search.queryAt c continuing = search.queryAt c' continuing' := by
  have hparameters := search.parameters?_parameterTexts c continuing
  rw [parameterTexts_eq h, search.parameters?_parameterTexts c' continuing'] at hparameters
  have hquery := congrArg List.head? (Option.some.inj hparameters)
  simpa [parameters] using hquery.symm

end Search

theorem continuationQuery_ne {id query : String} (h : query.toList.head? ≠ some 'c') :
    continuationQuery id ≠ query := by
  rintro rfl
  apply h
  unfold continuationQuery
  rw [String.toList_append, String.toList_append, List.head?_append, List.head?_append]
  rfl

theorem Asked.Truthful.query_eq {search : Search} {a : Asked} {c : Cursor} {continuing : Bool}
    (h : a.Truthful search) (hurl : a.event.url = search.url c continuing) :
    a.query search = search.queryAt c continuing := by
  obtain ⟨c', continuing', hurl', hquery⟩ := h
  rw [← hquery]
  exact Search.queryAt_eq_of_url_eq (hurl'.symm.trans hurl)

theorem Asked.exists_continued {search : Search} {a : Asked} (h : a.query search ≠ search.query) :
    ∃ id, a.continued = some id := by
  refine Option.ne_none_iff_exists'.1 fun hnone => h ?_
  rw [query, hnone]

namespace Session

def continued? (s : Session) : Option String :=
  if s.progress = .pageLoaded then s.cursor.resultSetId else none

def sent (s : Session) : List Event → List Asked
  | [] => []
  | first :: later => ⟨first, s.continued?⟩ :: later.map fun event => ⟨event, none⟩

inductive Move : Session → List Asked → Session → Prop where
  | fetch {s s' : Session} {offset : Nat} {events : List Event} {r : Except Fault Unit}
    (h : s.Fetch offset events r s') : Move s (s.sent events) s'
  | deliver (s : Session) : Move s [] s.deliver.2
  | finish (s : Session) : Move s [] { s with progress := .exhausted }

inductive Moves : Session → List Asked → Session → Prop where
  | refl (s : Session) : Moves s [] s
  | next {s s₁ s' : Session} {first rest : List Asked} (move : Move s first s₁)
    (moves : Moves s₁ rest s') : Moves s (first ++ rest) s'

variable {s s₁ s' : Session} {asked later : List Asked} {events rest : List Event}

theorem Moves.trans (h : s.Moves asked s₁) (h' : s₁.Moves later s') :
    s.Moves (asked ++ later) s' := by
  induction h with
  | refl => exact h'
  | next move _ ih =>
    rw [List.append_assoc]
    exact .next move (ih h')

theorem sent_events (s : Session) (events : List Event) :
    (s.sent events).map Asked.event = events := by
  cases events with
  | nil => rfl
  | cons first later => simp [sent, Function.comp_def]

def Sends (s : Session) (events : List Event) (s' : Session) : Prop :=
  ∃ asked, s.Moves asked s' ∧ asked.map Asked.event = events

namespace Sends

theorem refl (s : Session) : s.Sends [] s := ⟨[], .refl s, rfl⟩

theorem trans (h : s.Sends events s₁) (h' : s₁.Sends rest s') : s.Sends (events ++ rest) s' := by
  obtain ⟨asked, hmoves, rfl⟩ := h
  obtain ⟨later, hlater, rfl⟩ := h'
  exact ⟨asked ++ later, hmoves.trans hlater, List.map_append⟩

theorem fetch {offset : Nat} {r : Except Fault Unit} (h : s.Fetch offset events r s') :
    s.Sends events s' := by
  have hmoves := Moves.next (.fetch h) (.refl s')
  rw [List.append_nil] at hmoves
  exact ⟨_, hmoves, s.sent_events events⟩

theorem deliver (s : Session) : s.Sends [] s.deliver.2 := ⟨[], .next (.deliver s) (.refl _), rfl⟩

theorem finish (s : Session) : s.Sends [] { s with progress := .exhausted } :=
  ⟨[], .next (.finish s) (.refl _), rfl⟩

end Sends

theorem MayFetch.sends {r : Except Fault Unit} (h : s.MayFetch events r s') :
    s.Sends events s' := by
  cases h with
  | kept => exact .refl s
  | fetched hfetch => exact .fetch hfetch

theorem sends_observe {α : Type} {f : Session → α} {r : Except Fault α}
    (h : (s.observe f).Yields events (r, s')) : s.Sends events s' := by
  obtain ⟨_, hstarted, -⟩ := observe_yields h
  exact (ensureStarted_mayFetch hstarted).sends

theorem sends_nextRecord {r : Except Fault RecordSlot}
    (h : s.nextRecord.Yields events (r, s')) : s.Sends events s' := by
  rcases nextRecord_yields h with ⟨_, -, hstarted⟩ | ⟨s₁, hstarted, -, -, rfl⟩ |
    ⟨first, later, s₁, rfl, hstarted, -, hrest⟩
  · exact (ensureStarted_mayFetch hstarted).sends
  · have hall := (ensureStarted_mayFetch hstarted).sends.trans (.finish s₁)
    rwa [List.append_nil] at hall
  · have hstart := (ensureStarted_mayFetch hstarted).sends
    rcases hrest with ⟨_, -, hloading⟩ | ⟨s₂, hloading, -, rfl⟩
    · exact hstart.trans (ensureLoaded_mayFetch hloading).sends
    · have hload := (ensureLoaded_mayFetch hloading).sends
      have hall := hstart.trans (hload.trans (.deliver s₂))
      rwa [List.append_nil] at hall

theorem sends_next {item : Option (Except Fault RecordSlot)}
    (h : s.next.Yields events (item, s')) : s.Sends events s' := by
  rcases next_yields h with ⟨-, rfl, -, rfl⟩ | ⟨_, hmore, -⟩ | ⟨s₁, hmore, -, rfl⟩ |
    ⟨first, later, s₁, r, rfl, hmore, hrecord, -⟩
  · exact .refl s'
  · rw [hasNext_eq_observe] at hmore
    exact sends_observe hmore
  · rw [hasNext_eq_observe] at hmore
    have hall := (sends_observe hmore).trans (.finish s₁)
    rwa [List.append_nil] at hall
  · rw [hasNext_eq_observe] at hmore
    exact (sends_observe hmore).trans (sends_nextRecord hrecord)

theorem sends_perform {command : Command} {answer : Answer}
    (h : (s.perform command).Yields events (answer, s')) : s.Sends events s' := by
  rcases perform_yields h with ⟨r, -, hcall⟩ | ⟨r, -, hcall⟩ | ⟨r, -, hcall⟩ | ⟨item, -, hcall⟩
  · rw [size_eq_observe] at hcall
    exact sends_observe hcall
  · rw [hasNext_eq_observe] at hcall
    exact sends_observe hcall
  · exact sends_nextRecord hcall
  · exact sends_next hcall

/-- What the requests of some moves continue, and what the session can continue after them. -/
structure Continues (s : Session) (asked : List Asked) (s' : Session) : Prop where
  search : s'.search = s.search
  complaint : s'.complaint = s.complaint
  truthful : ∀ a ∈ asked, a.Truthful s.search
  named : ContinuesNamed s.cursor.resultSetId asked
  last : s'.cursor.resultSetId = asked.foldl Asked.namedAfter s.cursor.resultSetId

namespace Continues

theorem refl (s : Session) : s.Continues [] s := ⟨rfl, rfl, by simp, trivial, rfl⟩

theorem trans (h : s.Continues asked s₁) (h' : s₁.Continues later s') :
    s.Continues (asked ++ later) s' where
  search := h'.search.trans h.search
  complaint := h'.complaint.trans h.complaint
  truthful := by
    intro a ha
    rcases List.mem_append.1 ha with ha | ha
    · exact h.truthful a ha
    · exact h.search ▸ h'.truthful a ha
  named := continuesNamed_append.2 ⟨h.named, h.last ▸ h'.named⟩
  last := by rw [h'.last, h.last, List.foldl_append]

end Continues

section Fetches

variable {offset : Nat} {r : Except Fault Unit}

theorem Fetch.sent_truthful (h : s.Fetch offset events r s') :
    ∀ a ∈ s.sent events, a.Truthful s.search := by
  obtain ⟨first, later, rfl, -, hfirst, hlater, -⟩ := h.requests
  intro a ha
  rcases List.mem_cons.1 ha with rfl | ha
  · refine ⟨_, _, hfirst, ?_⟩
    unfold Search.queryAt Cursor.moveTo Asked.query continued?
    cases s.cursor.resultSetId <;> cases s.progress <;> rfl
  · obtain ⟨event, hevent, rfl⟩ := List.mem_map.1 ha
    refine ⟨_, _, hlater event hevent, ?_⟩
    unfold Search.queryAt
    split <;> rfl

theorem Fetch.sent_named (h : s.Fetch offset events r s') :
    ContinuesNamed s.cursor.resultSetId (s.sent events) := by
  obtain ⟨first, later, rfl, -⟩ := h.requests
  constructor
  · intro id hid
    unfold continued? at hid
    split at hid
    · exact hid
    · simp at hid
  · exact continuesNamed_of_none (by simp)

theorem Fetch.sent_last (h : s.Fetch offset events r s') :
    s'.cursor.resultSetId = (s.sent events).foldl Asked.namedAfter s.cursor.resultSetId := by
  rw [foldl_namedAfter, sent_events]
  rcases h.result with ⟨_, page, _, -, -, hpages, -, -, _, _, rfl⟩ | ⟨_, -, hpages, _, _, rfl⟩
  · rw [hpages]
    rfl
  · rw [hpages]
    rfl

end Fetches

theorem Move.continues (h : s.Move asked s') : s.Continues asked s' := by
  cases h with
  | fetch h => exact ⟨h.keeps.1, h.keeps.2, h.sent_truthful, h.sent_named, h.sent_last⟩
  | deliver =>
    obtain ⟨_, _, hdeliver⟩ := s.deliver_agrees
    rw [hdeliver]
    exact ⟨rfl, rfl, by simp, trivial, rfl⟩
  | finish => exact ⟨rfl, rfl, by simp, trivial, rfl⟩

theorem Moves.continues (h : s.Moves asked s') : s.Continues asked s' := by
  induction h with
  | refl s => exact .refl s
  | next move _ ih => exact move.continues.trans ih

theorem Sends.complaint_eq (h : s.Sends events s') : s'.complaint = s.complaint := by
  obtain ⟨_, hmoves, -⟩ := h
  exact hmoves.continues.complaint

theorem sends_of_reaches {search : Search} {steps : List Step} (h : Reaches search steps s) :
    (start search s.complaint).Sends (history steps) s := by
  induction h with
  | start => exact .refl _
  | @step steps s₀ s₁ command events answer _ hcall ih =>
    have hhistory : history (steps ++ [⟨command, events, answer⟩]) = history steps ++ events := by
      simp [history]
    have hsends := sends_perform hcall
    rw [hhistory, hsends.complaint_eq]
    exact ih.trans hsends

/-- Whatever comes back, a session continues the result set that an accepted page has named last.
The loaded page belongs to it, or to none: so every continuation is one of the result set of the
loaded page exactly if there is none while a page that belongs to no result set is loaded. -/
theorem continues_last_named {search : Search} {steps : List Step}
    (hrun : Reaches search steps s) :
    ∃ asked, (start search s.complaint).Moves asked s ∧ asked.map Asked.event = history steps ∧
      (∀ a ∈ asked, a.Truthful search) ∧ s.cursor.resultSetId = lastNamed asked ∧
      (∀ earlier a later, asked = earlier ++ a :: later → ∀ id, a.continued = some id →
        lastNamed earlier = some id ∧ (owner earlier = none ∨ owner earlier = some id)) ∧
      (ContinuesOwner asked ↔ ∀ earlier a later, asked = earlier ++ a :: later →
        owner earlier = none → a.continued = none) := by
  obtain ⟨asked, hmoves, hevents⟩ := sends_of_reaches hrun
  have hcontinues := hmoves.continues
  have hnamed : ContinuesNamed none asked := hcontinues.named
  refine ⟨asked, hmoves, hevents, hcontinues.truthful, hcontinues.last, ?_,
    hnamed.continuesOwner_iff⟩
  rintro earlier a later rfl id hid
  exact hnamed.owner_of_continued hid

/-- A page without its records is asked for again with the name that it gave. -/
theorem continues_last_named_second :
    let search : Search := ⟨"http://host/sru", "moon", none, none, .standard⟩
    let body (name : String) := "<searchRetrieveResponse><numberOfRecords>2</numberOfRecords>" ++
      name ++ "</searchRetrieveResponse>"
    let calls : List (Command × List Reply) :=
      [(.size, [.ok (body "<resultSetId>rs-1</resultSetId>")]), (.nextRecord, [.ok (body "")])]
    ∃ first second, [first, second].map Asked.event =
        history ((start search).play (.transport "") calls).1 ∧
      second.continued = some "rs-1" ∧ owner [first, second] = some "rs-1" := by
  intro search body calls
  let page (name : Option String) : Page := ⟨2, name, [], [], []⟩
  have hplay : (history ((start search).play (.transport "") calls).1).map
      (fun event => (event.url, event.page?)) =
        [(search.url (.start 25) false, some (page (some "rs-1"))),
          (search.url ⟨some "rs-1", 0, 25⟩ true, some (page none))] := by
    decide +kernel
  have hother (id : String) : continuationQuery id ≠ "moon" := continuationQuery_ne (by decide)
  have hrun : Reaches search ((start search).play (.transport "") calls).1
      ((start search).play (.transport "") calls).2 := reaches_play _ calls
  obtain ⟨asked, -, hevents, htruthful, -, hcontinued, -⟩ := continues_last_named hrun
  rw [← hevents, List.map_map] at hplay
  rw [← hevents]
  obtain ⟨first, later, rfl, hfirst, hlater⟩ := List.map_eq_cons_iff.1 hplay
  obtain ⟨second, later, rfl, hsecond, hnil⟩ := List.map_eq_cons_iff.1 hlater
  obtain rfl := List.map_eq_nil_iff.1 hnil
  obtain ⟨-, hpage₁⟩ := Prod.mk.inj hfirst
  obtain ⟨hurl, hpage₂⟩ := Prod.mk.inj hsecond
  have hquery : second.query search = continuationQuery "rs-1" :=
    (htruthful second (by simp)).query_eq hurl
  obtain ⟨id, hid⟩ := Asked.exists_continued (hquery ▸ hother _)
  have hnamed := (hcontinued [first] second [] rfl id hid).1
  have hrs : id = "rs-1" := by simpa [lastNamed, Asked.namedAfter, hpage₁, page] using hnamed.symm
  refine ⟨first, second, rfl, hrs ▸ hid, ?_⟩
  simp [owner, Asked.ownerAfter, hpage₂, page, hid, hrs]

/-- After a failure the second page comes for the query itself, and without a name. The third one
is asked for with the name of the first one even so. -/
theorem continues_abandoned :
    let search : Search := ⟨"http://host/sru", "moon", none, none, .standard⟩
    ∃ steps s, Reaches search steps s ∧ ∀ asked, asked.map Asked.event = history steps →
      (∀ a ∈ asked, a.Truthful search) → ¬ ContinuesOwner asked := by
  intro search
  let body (name : String) := "<searchRetrieveResponse><numberOfRecords>3</numberOfRecords>" ++
    name ++ "<records><record/></records></searchRetrieveResponse>"
  let calls : List (Command × List Reply) :=
    [(.nextRecord, [.ok (body "<resultSetId>rs-1</resultSetId>")]),
      (.nextRecord, [.error (.transport "reset"), .ok (body "")]), (.nextRecord, [.ok (body "")])]
  let page (name : Option String) : Page := ⟨3, name, [none], [], []⟩
  refine ⟨_, _, reaches_play (.transport "") calls, ?_⟩
  intro asked hevents htruthful howner
  have hplay : (history ((start search).play (.transport "") calls).1).map
      (fun event => (event.url, event.page?)) =
        [(search.url (.start 25) false, some (page (some "rs-1"))),
          (search.url ⟨some "rs-1", 1, 25⟩ true, none),
          (search.url ⟨some "rs-1", 1, 25⟩ false, some (page none)),
          (search.url ⟨some "rs-1", 2, 25⟩ true, some (page none))] := by
    decide +kernel
  have hother (id : String) : continuationQuery id ≠ "moon" := continuationQuery_ne (by decide)
  rw [← hevents, List.map_map] at hplay
  obtain ⟨first, later, rfl, -, hlater⟩ := List.map_eq_cons_iff.1 hplay
  obtain ⟨second, later, rfl, -, hlater⟩ := List.map_eq_cons_iff.1 hlater
  obtain ⟨third, later, rfl, hthird, hlater⟩ := List.map_eq_cons_iff.1 hlater
  obtain ⟨fourth, later, rfl, hfourth, hnil⟩ := List.map_eq_cons_iff.1 hlater
  obtain rfl := List.map_eq_nil_iff.1 hnil
  obtain ⟨hurl₃, hpage₃⟩ := Prod.mk.inj hthird
  obtain ⟨hurl₄, -⟩ := Prod.mk.inj hfourth
  have hquery₃ : third.query search = "moon" := (htruthful third (by simp)).query_eq hurl₃
  have hquery₄ : fourth.query search = continuationQuery "rs-1" :=
    (htruthful fourth (by simp)).query_eq hurl₄
  have hnone : third.continued = none := by
    refine Option.eq_none_iff_forall_ne_some.2 fun id hid => hother id ?_
    rwa [Asked.query, hid] at hquery₃
  obtain ⟨id, hid⟩ := Asked.exists_continued (hquery₄ ▸ hother _)
  have hloaded := howner [first, second, third] fourth [] rfl id hid
  simp [owner, Asked.ownerAfter, hpage₃, hnone, page] at hloaded

end Session

end SearchRetrieve
