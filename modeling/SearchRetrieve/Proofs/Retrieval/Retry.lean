import SearchRetrieve.Proofs.Retrieval.Parameters
import SearchRetrieve.Proofs.Retrieval.Run

/-!
# Fetching a page

A fetch asks once or twice, always for the page at the same record. The second request is made
only if the first one has failed in a way that need not last, and it asks with the query of the
search. A fetch that gets no page leaves the session where it was.
-/
namespace SearchRetrieve

/-- From the text behind its base the URL asks for the records of this query, from the one of this
number on. -/
def Search.Requests (search : Search) (url query : String) (number : Nat) : Prop :=
  ∃ text given, url = search.baseUrl ++ (if '?' ∈ search.baseUrl.toList then "&" else "?") ++ text ∧
    parameters? text = some given ∧ given.lookup "query" = some query ∧
    given.lookup "startRecord" = some (toString number)

theorem Search.requests_url (search : Search) {cursor : Cursor} {continuing : Bool}
    (hoffset : cursor.offset < UInt64.size - 1) :
    search.Requests (search.url cursor continuing) (search.queryAt cursor continuing)
      (cursor.offset + 1) := by
  have hstart : cursor.startRecord = cursor.offset + 1 := Nat.mod_eq_of_lt (by omega)
  refine ⟨_, search.parameters cursor continuing, ?_,
    search.parameters?_parameterTexts cursor continuing, ?_, ?_⟩
  · simp [Search.url]
  · simp [parameters]
  · simp [parameters, hstart, List.lookup_cons]

namespace Event

def fault? (event : Event) (complaint : Xml.Complaint) : Option Fault :=
  match Page.ofReply complaint event.reply with
  | .ok _ => none
  | .error failed => some failed.fault

def diagnostic? (event : Event) : Option String :=
  match event.reply with
  | .ok body => if event.page?.isSome then none else Page.firstDiagnostic? body
  | .error _ => none

def Responds (event : Event) (root : Xml.Node) : Prop :=
  ∃ body, event.reply = .ok body ∧ Xml.ofText? body = some root ∧
    Page.isPart "searchRetrieveResponse" root = true

variable {complaint : Xml.Complaint} {url : String} {reply : Reply} {event : Event} {page : Page}
  {failed : FailedAttempt} {root : Xml.Node}

theorem fault?_of_page (h : Page.ofReply complaint reply = .ok page) :
    fault? ⟨url, reply⟩ complaint = none := by
  simp [fault?, h]

theorem fault?_of_failed (h : Page.ofReply complaint reply = .error failed) :
    fault? ⟨url, reply⟩ complaint = some failed.fault := by
  simp [fault?, h]

theorem diagnostic?_of_failed (h : Page.ofReply complaint reply = .error failed) :
    diagnostic? ⟨url, reply⟩ = failed.diagnostic := by
  have hpage : page? ⟨url, reply⟩ = none := page?_of_failed h
  cases reply with
  | error fault =>
    have hfailed : failed = ⟨fault, none⟩ := by simpa [Page.ofReply] using h.symm
    rw [hfailed]
    rfl
  | ok body =>
    have hbody : diagnostic? ⟨url, .ok body⟩ = Page.firstDiagnostic? body := by
      simp [diagnostic?, hpage]
    rw [hbody]
    unfold Page.ofReply at h
    dsimp only at h
    split at h
    · simp at h
    · cases h
      rfl

section Responses

variable (h : event.Responds root)

include h

theorem Responds.exists_body : ∃ body, event.reply = .ok body ∧
    (∀ complaint, Page.ofText body complaint = Page.ofRoot root) ∧
    Page.firstDiagnostic? body = (Page.diagnosticsOf root).head?.map Diagnostic.uri ∧
    Page.isPart "searchRetrieveResponse" root = true := by
  obtain ⟨body, hreply, hroot, hpart⟩ := h
  exact ⟨body, hreply, by simp [Page.ofText, hroot], by simp [Page.firstDiagnostic?, hroot], hpart⟩

/-- That its result set has expired is the fault of a response, whatever else it reports. -/
theorem Responds.fault?_of_expiry {d : Diagnostic}
    (hd : (Page.diagnosticsOf root).find? Diagnostic.isExpiry = some d) :
    event.fault? complaint = some (.resultSetExpired d.uri) := by
  obtain ⟨body, hreply, htext, -, hpart⟩ := h.exists_body
  rw [Page.ofRoot_of_isPart hpart, hd] at htext
  simp [fault?, hreply, Page.ofReply, htext, PageError.fault]

/-- Other diagnostics do not keep a response from being a page, if it has a number of records. -/
theorem Responds.page?_isSome {total : Nat}
    (hd : (Page.diagnosticsOf root).find? Diagnostic.isExpiry = none)
    (htotal : Page.totalOf root = .ok total) : event.page?.isSome := by
  obtain ⟨body, hreply, htext, -, hpart⟩ := h.exists_body
  rw [Page.ofRoot_of_isPart hpart, hd, htotal] at htext
  simp [page?, hreply, Page.ofReply, htext, Except.map, Except.toOption]

/-- Without a number of records there may be one the next time. -/
theorem Responds.fault?_of_error {e : PageError}
    (hd : (Page.diagnosticsOf root).find? Diagnostic.isExpiry = none)
    (he : Page.totalOf root = .error e) :
    event.fault? complaint = some e.fault ∧ e.fault.retriable = true ∧
      event.diagnostic? = (Page.diagnosticsOf root).head?.map Diagnostic.uri := by
  obtain ⟨body, hreply, htext, hfirst, hpart⟩ := h.exists_body
  rw [Page.ofRoot_of_isPart hpart, hd, he] at htext
  have hfailed :
      Page.ofReply complaint event.reply = .error ⟨e.fault, Page.firstDiagnostic? body⟩ := by
    simp [hreply, Page.ofReply, htext, Except.map]
  have hdiagnostic : event.diagnostic? = Page.firstDiagnostic? body := diagnostic?_of_failed hfailed
  exact ⟨fault?_of_failed hfailed, Page.totalOf_error_retriable he, hdiagnostic.trans hfirst⟩

end Responses

end Event

namespace Exchange

variable {α : Type}

/-- As long as there are prepared replies, the requests of a run have brought the first of them. -/
theorem eventsOn_replies_prefix (closed : Fault) {replies : List Reply} {e : Exchange α}
    (h : (eventsOn closed replies e).length ≤ replies.length) :
    (eventsOn closed replies e).map Event.reply <+: replies := by
  induction e generalizing replies with
  | done result => exact List.nil_prefix
  | request url resume ih =>
    cases replies with
    | nil => simp [eventsOn] at h
    | cons reply replies =>
      simp only [eventsOn, List.headD_cons, List.tail_cons, List.length_cons,
        Nat.add_le_add_iff_right, List.map_cons] at h ⊢
      exact (List.prefix_cons_inj _).2 (ih _ h)

end Exchange

namespace Session

/-- What the first request of a fetch asks for: the result set, if its id is known and a page of it
is loaded, and otherwise the query of the search. -/
def firstQuery (s : Session) : String :=
  match s.cursor.resultSetId, s.progress with
  | some id, .pageLoaded => continuationQuery id
  | _, _ => s.search.query

/-- A fetch of the page that begins at an offset: the requests it makes, its result, and where it
leaves the session. -/
structure RetriesOnce (s : Session) (offset : Nat) (first : Event) (later : List Event)
    (r : Except Fault Unit) (s' : Session) : Prop where
  /-- There is no third request. -/
  later_length : later.length ≤ 1
  first_requests : s.search.Requests first.url s.firstQuery (offset + 1)
  /-- The second request never continues the result set. -/
  later_requests : ∀ event ∈ later, s.search.Requests event.url s.search.query (offset + 1)
  retries_iff : later ≠ [] ↔ ∃ fault, first.fault? s.complaint = some fault ∧ fault.retriable = true
  ok_iff : r = .ok () ↔ ∃ event ∈ first :: later, event.page?.isSome
  /-- The page is taken over. -/
  accepts : ∀ event ∈ first :: later, ∀ page, event.page? = some page →
    (s.accept (s.cursor.moveTo offset) page).Agrees s'
  /-- Without a page the fault is that of the last reply, or two attempts have failed for the time
  being. -/
  fault_cases : ∀ fault, r = .error fault →
    (∃ last ∈ (first :: later).getLast?,
      last.fault? s.complaint = some fault ∧ fault.retriable = false) ∨
    ∃ second fault₂, later = [second] ∧
      second.fault? s.complaint = some fault₂ ∧ fault₂.retriable = true ∧
      fault = .fetchFailed 2 fault₂.message
        ([first, second].filterMap Event.diagnostic?).getLast?
  /-- Then nothing but the failure, the counters and the journal has changed. -/
  fails : ∀ fault, r = .error fault → { s with progress := .failed }.Agrees s'
  /-- A response that says that its result set has expired ends the fetch, whatever else it
  reports. -/
  expired : ∀ event ∈ first :: later, ∀ root, event.Responds root → ∀ d,
    (Page.diagnosticsOf root).find? Diagnostic.isExpiry = some d →
    r = .error (.resultSetExpired d.uri)
  /-- Any other diagnostics may stand beside a number of records. -/
  counted : ∀ event ∈ first :: later, ∀ root, event.Responds root →
    (Page.diagnosticsOf root).find? Diagnostic.isExpiry = none → ∀ total,
    Page.totalOf root = .ok total → r = .ok ()

variable {s s' : Session} {offset : Nat} {events : List Event} {r : Except Fault Unit}

theorem firstUrl_requests (hoffset : offset < UInt64.size - 1) :
    s.search.Requests (s.firstUrl offset) s.firstQuery (offset + 1) := by
  have hquery :
      s.search.queryAt (s.cursor.moveTo offset) (s.progress = .pageLoaded) = s.firstQuery := by
    unfold Search.queryAt Cursor.moveTo firstQuery
    cases s.cursor.resultSetId <;> cases s.progress <;> rfl
  rw [← hquery]
  exact s.search.requests_url hoffset

theorem secondUrl_requests (hoffset : offset < UInt64.size - 1) :
    s.search.Requests (s.secondUrl offset) s.search.query (offset + 1) := by
  have hquery : s.search.queryAt (s.cursor.moveTo offset) false = s.search.query := by
    unfold Search.queryAt
    split <;> rfl
  rw [← hquery]
  exact s.search.requests_url hoffset

/-- Of two diagnostics the later one counts. -/
theorem getLast?_filterMap_diagnostic {url url' : String} {first second : Reply}
    {failed failed' : FailedAttempt} (hfirst : Page.ofReply s.complaint first = .error failed)
    (hsecond : Page.ofReply s.complaint second = .error failed') :
    ([(⟨url, first⟩ : Event), ⟨url', second⟩].filterMap Event.diagnostic?).getLast? =
      (failed'.diagnostic <|> failed.diagnostic) := by
  simp only [List.filterMap_cons, List.filterMap_nil, Event.diagnostic?_of_failed hfirst,
    Event.diagnostic?_of_failed hsecond]
  cases failed.diagnostic <;> cases failed'.diagnostic <;> rfl

/-- The requests of a fetch: the second one follows a fault that need not last. -/
theorem Fetch.requests (h : s.Fetch offset events r s') :
    ∃ first later, events = first :: later ∧ later.length ≤ 1 ∧ first.url = s.firstUrl offset ∧
      (∀ event ∈ later, event.url = s.secondUrl offset) ∧
      (later ≠ [] ↔ ∃ fault, first.fault? s.complaint = some fault ∧ fault.retriable = true) := by
  cases h with
  | accepted hpage =>
    exact ⟨_, [], rfl, by simp, rfl, by simp, by simp [Event.fault?_of_page hpage]⟩
  | stopped hfailed hfault =>
    exact ⟨_, [], rfl, by simp, rfl, by simp, by simp [Event.fault?_of_failed hfailed, hfault]⟩
  | acceptedAgain hfailed hfault | stoppedAgain hfailed hfault | givenUp hfailed hfault =>
    exact ⟨_, [_], rfl, by simp, rfl, by simp, by simp [Event.fault?_of_failed hfailed, hfault]⟩

theorem Fetch.ok_iff (h : s.Fetch offset events r s') :
    r = .ok () ↔ ∃ event ∈ events, event.page?.isSome := by
  rcases h.result with ⟨event, page, _, hevent, hpage, -, -, rfl, -⟩ | ⟨fault, rfl, hpages, -⟩
  · exact iff_of_true rfl ⟨event, hevent, by simp [hpage]⟩
  · refine iff_of_false (by simp) ?_
    rintro ⟨event, hevent, hsome⟩
    obtain ⟨page, hpage⟩ := Option.isSome_iff_exists.1 hsome
    have hpage' := mem_pages.2 ⟨event, hevent, hpage⟩
    simp [hpages] at hpage'

/-- The fault of a fetch is that of its last reply, or both attempts have failed for the time being
and it says so. -/
theorem Fetch.fault_cases {fault : Fault} (h : s.Fetch offset events (.error fault) s') :
    (∃ last ∈ events.getLast?, last.fault? s.complaint = some fault ∧ fault.retriable = false) ∨
    ∃ first second fault₂, events = [first, second] ∧ second.fault? s.complaint = some fault₂ ∧
      fault₂.retriable = true ∧ fault = .fetchFailed 2 fault₂.message
        (events.filterMap Event.diagnostic?).getLast? := by
  cases h with
  | stopped hfailed hfault => exact Or.inl ⟨_, rfl, Event.fault?_of_failed hfailed, hfault⟩
  | stoppedAgain _ _ hfailed' hfault' =>
    exact Or.inl ⟨_, rfl, Event.fault?_of_failed hfailed', hfault'⟩
  | givenUp hfailed _ hfailed' hfault' =>
    refine Or.inr ⟨_, _, _, rfl, Event.fault?_of_failed hfailed', hfault', ?_⟩
    rw [getLast?_filterMap_diagnostic hfailed hfailed']
    rfl

/-- A fault that lasts ends the fetch. -/
theorem Fetch.eq_error {event : Event} {fault : Fault} (h : s.Fetch offset events r s')
    (hevent : event ∈ events) (hfault : event.fault? s.complaint = some fault)
    (hlasts : fault.retriable = false) : r = .error fault := by
  have hrest {url : String} {reply : Reply} {failed : FailedAttempt} {later : List Event}
      (hfailed : Page.ofReply s.complaint reply = .error failed)
      (hretriable : failed.fault.retriable = true)
      (hevent : event ∈ ⟨url, reply⟩ :: later) : event ∈ later := by
    refine (List.mem_cons.1 hevent).resolve_left ?_
    rintro rfl
    simp_all [Event.fault?_of_failed hfailed]
  cases h with
  | accepted hpage =>
    obtain rfl := List.mem_singleton.1 hevent
    simp [Event.fault?_of_page hpage] at hfault
  | stopped hfailed =>
    obtain rfl := List.mem_singleton.1 hevent
    rw [Event.fault?_of_failed hfailed] at hfault
    exact congrArg _ (Option.some.inj hfault)
  | acceptedAgain hfailed hretriable hpage =>
    obtain rfl := List.mem_singleton.1 (hrest hfailed hretriable hevent)
    simp [Event.fault?_of_page hpage] at hfault
  | stoppedAgain hfailed hretriable hfailed' =>
    obtain rfl := List.mem_singleton.1 (hrest hfailed hretriable hevent)
    rw [Event.fault?_of_failed hfailed'] at hfault
    exact congrArg _ (Option.some.inj hfault)
  | givenUp hfailed hretriable hfailed' hretriable' =>
    have hnone := hrest hfailed' hretriable' (hrest hfailed hretriable hevent)
    simp at hnone

theorem Fetch.retriesOnce (h : s.Fetch offset events r s') (hoffset : offset < UInt64.size - 1) :
    ∃ first later, events = first :: later ∧ s.RetriesOnce offset first later r s' := by
  obtain ⟨first, later, rfl, hlength, hfirst, hlater, hretries⟩ := h.requests
  refine ⟨first, later, rfl, ?_⟩
  exact {
    later_length := hlength
    first_requests := by
      rw [hfirst]
      exact firstUrl_requests hoffset
    later_requests := by
      intro event hevent
      rw [hlater event hevent]
      exact secondUrl_requests hoffset
    retries_iff := hretries
    ok_iff := h.ok_iff
    accepts := by
      intro event hevent page hpage
      have hpage' := mem_pages.2 ⟨event, hevent, hpage⟩
      rcases h.result with ⟨_, _, _, -, -, hpages, -, -, hagrees⟩ | ⟨fault, -, hpages, -⟩
      · rw [hpages, List.mem_singleton] at hpage'
        rwa [hpage']
      · simp [hpages] at hpage'
    fault_cases := by
      rintro fault rfl
      refine h.fault_cases.imp_right ?_
      rintro ⟨_, second, fault₂, hevents, hsecond⟩
      obtain ⟨rfl, rfl⟩ := List.cons.inj hevents
      exact ⟨second, fault₂, rfl, hsecond⟩
    fails := by
      rintro fault rfl
      rcases h.result with ⟨_, _, _, -, -, -, -, hr, -⟩ | ⟨_, -, -, hagrees⟩
      · simp at hr
      · exact hagrees
    expired := fun event hevent root hroot d hd => h.eq_error hevent (hroot.fault?_of_expiry hd) rfl
    counted := by
      intro event hevent root hroot hd total htotal
      exact h.ok_iff.2 ⟨event, hevent, hroot.page?_isSome hd htotal⟩ }

/-- A fetch comes to an end after one reply or two, whatever these are. It asks for the page at the
offset, and asks again, with the query of the search, exactly if the first reply brings a fault that
need not last. It succeeds exactly if a reply gives a page, and otherwise leaves the session as it
was but for the failure. A response without a number of records is a fault that need not last, and
its first diagnostic is kept. -/
theorem fetchPage_retries_once (s : Session) {offset : Nat} (hoffset : offset < UInt64.size - 1) :
    (∀ first second : Reply, ∃ events r s', (s.fetchPage offset).Yields events (r, s') ∧
      events.map Event.reply <+: [first, second]) ∧
    (∀ events r s', (s.fetchPage offset).Yields events (r, s') →
      ∃ first later, events = first :: later ∧ s.RetriesOnce offset first later r s') ∧
    ∀ (event : Event) root, event.Responds root →
      (Page.diagnosticsOf root).find? Diagnostic.isExpiry = none → ∀ e,
      Page.totalOf root = .error e →
      event.fault? s.complaint = some e.fault ∧ e.fault.retriable = true ∧
        event.diagnostic? = (Page.diagnosticsOf root).head?.map Diagnostic.uri := by
  refine ⟨fun first second => ?_, fun events r s' h => (fetchPage_yields h).retriesOnce hoffset,
    fun event root hroot hd e he => hroot.fault?_of_error hd he⟩
  have hyields := Exchange.run_yields (.io "") [first, second] (s.fetchPage offset)
  obtain ⟨event, later, hevents, hfetch⟩ := (fetchPage_yields hyields).retriesOnce hoffset
  refine ⟨_, _, _, hyields, Exchange.eventsOn_replies_prefix _ ?_⟩
  rw [hevents]
  exact Nat.succ_le_succ hfetch.later_length

/-- In the middle of a result set a response with a diagnostic alone, and then no connection. -/
theorem fetchPage_retries_once_diagnostic :
    let search : Search := ⟨"http://host/sru", "moon", none, none, .standard⟩
    let refusal := "<searchRetrieveResponse><diagnostics><diagnostic><uri> u </uri></diagnostic>" ++
      "</diagnostics></searchRetrieveResponse>"
    let s := { start search with
      cursor := ⟨some "rs-1", 0, 25⟩, page := [none], nextIndex := 1, total := some 3,
      progress := .pageLoaded }
    ∃ first second s', (s.fetchPage 1).Yields [first, second]
        (.error (.fetchFailed 2 "Transport error: reset" (some "u")), s') ∧
      first.reply = .ok refusal ∧ second.reply = .error (.transport "reset") ∧
      search.Requests first.url "cql.resultSetId=\"rs-1\"" 2 ∧
      search.Requests second.url "moon" 2 ∧
      s'.nextIndex = 1 ∧ s'.progress = .failed := by
  intro search refusal s
  have hoffset : 1 < UInt64.size - 1 := by decide
  have hyields := Exchange.run_yields (.io "") [.ok refusal, .error (.transport "reset")]
    (s.fetchPage 1)
  have hrun : (((s.fetchPage 1).run (.io "") [.ok refusal, .error (.transport "reset")]).result.1 =
        .error (.fetchFailed 2 "Transport error: reset" (some "u"))) ∧
      ((s.fetchPage 1).eventsOn (.io "") [.ok refusal, .error (.transport "reset")]).map
        Event.reply = [.ok refusal, .error (.transport "reset")] := by
    decide +kernel
  generalize (s.fetchPage 1).run (.io "") [.ok refusal, .error (.transport "reset")] = outcome
    at hyields hrun
  obtain ⟨⟨r, s'⟩, urls, left⟩ := outcome
  obtain ⟨rfl, hreplies⟩ := hrun
  obtain ⟨first, later, hevents, hfetch⟩ := (fetchPage_retries_once s hoffset).2.1 _ _ _ hyields
  rw [hevents] at hyields hreplies
  obtain ⟨second, rfl⟩ : ∃ second, later = [second] := by
    rcases later with _ | ⟨second, _ | ⟨third, later⟩⟩ <;> simp_all
  have hcontinued : continuationQuery "rs-1" = "cql.resultSetId=\"rs-1\"" := by decide
  have hfirst : search.Requests first.url (continuationQuery "rs-1") 2 := hfetch.first_requests
  have hsecond : search.Requests second.url "moon" 2 := hfetch.later_requests second (by simp)
  obtain ⟨_, _, rfl⟩ := hfetch.fails _ rfl
  simp only [List.map_cons, List.map_nil, List.cons.injEq, and_true] at hreplies
  exact ⟨first, second, _, hyields, hreplies.1, hreplies.2, hcontinued ▸ hfirst, hsecond, rfl, rfl⟩

end Session

end SearchRetrieve
