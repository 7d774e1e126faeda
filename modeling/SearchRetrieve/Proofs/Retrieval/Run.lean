import SearchRetrieve.Proofs.Retrieval.Page

/-!
# Runs of a session

A run is a series of calls in any order, with the requests of each call and whatever came back.
Nothing is assumed of the server here.
-/
namespace SearchRetrieve

instance decidableEqExcept {ε α : Type} [DecidableEq ε] [DecidableEq α] :
    DecidableEq (Except ε α)
  | .error e, .error e' => decidable_of_iff (e = e') (by simp)
  | .ok a, .ok a' => decidable_of_iff (a = a') (by simp)
  | .error _, .ok _ => isFalse nofun
  | .ok _, .error _ => isFalse nofun

structure Event where
  url : String
  reply : Reply
  deriving DecidableEq

/-- The page of a reply, whatever an XML reader may say about others. -/
def Event.page? (event : Event) : Option Page := (Page.ofReply (fun _ => none) event.reply).toOption

def pages (events : List Event) : List Page := events.filterMap Event.page?

namespace Event

variable {complaint : Xml.Complaint} {url : String} {reply : Reply} {event : Event} {page : Page}
  {failed : FailedAttempt}

theorem page?_eq_some :
    event.page? = some page ↔ Page.ofReply complaint event.reply = .ok page := by
  have hsame : Page.ofReply (fun _ => none) event.reply = .ok page ↔
      Page.ofReply complaint event.reply = .ok page := by
    rw [Page.ofReply_eq_ok, Page.ofReply_eq_ok]
  rw [← hsame, page?]
  cases Page.ofReply (fun _ => none) event.reply <;> simp [Except.toOption]

theorem page?_of_ok (h : Page.ofReply complaint reply = .ok page) :
    page? ⟨url, reply⟩ = some page :=
  page?_eq_some.2 h

theorem page?_of_failed (h : Page.ofReply complaint reply = .error failed) :
    page? ⟨url, reply⟩ = none := by
  rw [Option.eq_none_iff_forall_ne_some]
  intro page hpage
  have hok : Page.ofReply complaint reply = .ok page := page?_eq_some.1 hpage
  simp [h] at hok

theorem page?_total_lt (h : event.page? = some page) : page.total < UInt64.size := by
  have hreply : Page.ofReply (fun _ => none) event.reply = .ok page := page?_eq_some.1 h
  exact Page.total_lt hreply

end Event

theorem mem_pages {events : List Event} {page : Page} :
    page ∈ pages events ↔ ∃ event ∈ events, event.page? = some page :=
  List.mem_filterMap

theorem pages_append (events later : List Event) :
    pages (events ++ later) = pages events ++ pages later :=
  List.filterMap_append

namespace Exchange

variable {α β : Type}

/-- The exchange ends with this result after these events. -/
inductive Yields : Exchange α → List Event → α → Prop where
  | done (result : α) : Yields (.done result) [] result
  | request {url : String} {resume : Reply → Exchange α} {reply : Reply} {events : List Event}
      {result : α} (later : Yields (resume reply) events result) :
      Yields (.request url resume) (⟨url, reply⟩ :: events) result

variable {events : List Event} {result : α}

theorem yields_done {a : α} : (done a).Yields events result ↔ events = [] ∧ result = a := by
  constructor
  · rintro ⟨⟩
    exact ⟨rfl, rfl⟩
  · rintro ⟨rfl, rfl⟩
    exact .done _

theorem yields_request {url : String} {resume : Reply → Exchange α} :
    (request url resume).Yields events result ↔
      ∃ reply later, events = ⟨url, reply⟩ :: later ∧ (resume reply).Yields later result := by
  constructor
  · intro h
    cases h with
    | request later => exact ⟨_, _, rfl, later⟩
  · rintro ⟨reply, later, rfl, h⟩
    exact .request h

theorem yields_andThen {e : Exchange α} {next : α → Exchange β} {b : β} :
    (e.andThen next).Yields events b ↔
      ∃ first later a, events = first ++ later ∧ e.Yields first a ∧ (next a).Yields later b := by
  induction e generalizing events with
  | done a =>
    simp only [andThen, yields_done]
    constructor
    · exact fun h => ⟨[], events, a, rfl, ⟨rfl, rfl⟩, h⟩
    · rintro ⟨_, later, _, rfl, ⟨rfl, rfl⟩, h⟩
      exact h
  | request url resume ih =>
    simp only [andThen, yields_request, ih]
    constructor
    · rintro ⟨reply, rest, rfl, first, later, a, rfl, hfirst, hlater⟩
      exact ⟨⟨url, reply⟩ :: first, later, a, rfl, ⟨reply, first, rfl, hfirst⟩, hlater⟩
    · rintro ⟨_, later, a, rfl, ⟨reply, first, rfl, hfirst⟩, hlater⟩
      exact ⟨reply, first ++ later, rfl, first, later, a, rfl, hfirst, hlater⟩

theorem yields_map {e : Exchange α} {f : α → β} {b : β} :
    (e.map f).Yields events b ↔ ∃ a, e.Yields events a ∧ b = f a := by
  simp only [Exchange.map, yields_andThen, yields_done]
  constructor
  · rintro ⟨first, later, a, rfl, hfirst, rfl, rfl⟩
    exact ⟨a, by simpa using hfirst, rfl⟩
  · rintro ⟨a, h, rfl⟩
    exact ⟨events, [], a, by simp, h, rfl, rfl⟩

def eventsOn (closed : Fault) : List Reply → Exchange α → List Event
  | _, done _ => []
  | replies, request url resume =>
    ⟨url, replies.headD (.error closed)⟩ ::
      eventsOn closed replies.tail (resume (replies.headD (.error closed)))

/-- Prepared replies lead to a result whatever they are. -/
theorem run_yields (closed : Fault) (replies : List Reply) (e : Exchange α) :
    e.Yields (eventsOn closed replies e) (run closed replies e).result := by
  induction e generalizing replies with
  | done a => exact .done a
  | request url resume ih => exact .request (ih _ _)

end Exchange

theorem Call.yields_andThen {α β : Type} {call : Call α} {next : α → Session → Call β}
    {events : List Event} {r : Except Fault β} {s' : Session} :
    (call.andThen next).Yields events (r, s') ↔
      (∃ first later a s, events = first ++ later ∧ call.Yields first (.ok a, s) ∧
        (next a s).Yields later (r, s')) ∨
      ∃ fault, r = .error fault ∧ call.Yields events (.error fault, s') := by
  simp only [Call.andThen, Exchange.yields_andThen]
  constructor
  · rintro ⟨first, later, ⟨a | a, s⟩, rfl, hfirst, hlater⟩
    · obtain ⟨rfl, hresult⟩ := Exchange.yields_done.1 hlater
      cases hresult
      exact Or.inr ⟨a, rfl, by simpa using hfirst⟩
    · exact Or.inl ⟨first, later, a, s, rfl, hfirst, hlater⟩
  · rintro (⟨first, later, a, s, rfl, hfirst, hlater⟩ | ⟨fault, rfl, h⟩)
    · exact ⟨first, later, (.ok a, s), rfl, hfirst, hlater⟩
    · exact ⟨events, [], (.error fault, s'), by simp, h, .done _⟩

def RecordSlot.ofPayload (position : Nat) : Option String → RecordSlot
  | some markup => .record markup
  | none => .missing position

namespace Session

def sending (cursor : Cursor) (number : Nat) (continuing : Bool) (s : Session) : Session :=
  s.noting [.fetching (s.search.url cursor continuing) number]

def retrying (number : Nat) (failed : FailedAttempt) (s : Session) : Session :=
  s.noting [.attemptFailed number failed.fault.message] |>.counting .attemptFailed

variable {s s' : Session} {events : List Event} {r : Except Fault Unit}

/-- An attempt is one request: its page is accepted, its fault stops the fetch, or another attempt
follows. -/
theorem attempt_yields {cursor : Cursor} {number : Nat} {continuing : Bool}
    {otherwise : FailedAttempt → Session → Call Unit}
    (h : (s.attempt cursor number continuing otherwise).Yields events (r, s')) :
    ∃ reply later, events = ⟨s.search.url cursor continuing, reply⟩ :: later ∧
      ((∃ page, Page.ofReply s.complaint reply = .ok page ∧ later = [] ∧ r = .ok () ∧
        s' = (s.sending cursor number continuing).accept cursor page) ∨
      (∃ failed, Page.ofReply s.complaint reply = .error failed ∧ failed.fault.retriable = false ∧
        later = [] ∧ r = .error failed.fault ∧
        s' = (s.sending cursor number continuing).fail (.notRetrying failed.fault.message)) ∨
      ∃ failed, Page.ofReply s.complaint reply = .error failed ∧ failed.fault.retriable = true ∧
        (otherwise failed ((s.sending cursor number continuing).retrying number failed)).Yields
          later (r, s')) := by
  unfold attempt at h
  obtain ⟨reply, later, rfl, hreply⟩ := Exchange.yields_request.1 h
  refine ⟨reply, later, rfl, ?_⟩
  split at hreply
  · next page hpage =>
    obtain ⟨rfl, hresult⟩ := Exchange.yields_done.1 hreply
    cases hresult
    exact Or.inl ⟨page, hpage, rfl, rfl, rfl⟩
  · next failed hfailed =>
    split at hreply
    · next hretriable => exact Or.inr (Or.inr ⟨failed, hfailed, hretriable, hreply⟩)
    · next hretriable =>
      obtain ⟨rfl, hresult⟩ := Exchange.yields_done.1 hreply
      cases hresult
      exact Or.inr (Or.inl ⟨failed, hfailed, by simpa using hretriable, rfl, rfl, rfl⟩)

def firstUrl (offset : Nat) (s : Session) : String :=
  s.search.url (s.cursor.moveTo offset) (s.progress = .pageLoaded)

/-- The second URL, which never names a result set. -/
def secondUrl (offset : Nat) (s : Session) : String :=
  s.search.url (s.cursor.moveTo offset) false

def sendingFirst (offset : Nat) (s : Session) : Session :=
  s.sending (s.cursor.moveTo offset) 1 (s.progress = .pageLoaded)

def sendingSecond (offset : Nat) (failed : FailedAttempt) (s : Session) : Session :=
  ((s.sendingFirst offset).retrying 1 failed).sending (s.cursor.moveTo offset) maxAttempts false

/-- All ways in which a fetch goes: one or two requests, and a page or a fault. -/
inductive Fetch (s : Session) (offset : Nat) :
    List Event → Except Fault Unit → Session → Prop where
  | accepted {first : Reply} {page : Page} (hpage : Page.ofReply s.complaint first = .ok page) :
    Fetch s offset [⟨s.firstUrl offset, first⟩] (.ok ())
      ((s.sendingFirst offset).accept (s.cursor.moveTo offset) page)
  | stopped {first : Reply} {failed : FailedAttempt}
    (hfailed : Page.ofReply s.complaint first = .error failed)
    (hfault : failed.fault.retriable = false) :
    Fetch s offset [⟨s.firstUrl offset, first⟩] (.error failed.fault)
      ((s.sendingFirst offset).fail (.notRetrying failed.fault.message))
  | acceptedAgain {first second : Reply} {failed : FailedAttempt} {page : Page}
    (hfailed : Page.ofReply s.complaint first = .error failed)
    (hfault : failed.fault.retriable = true)
    (hpage : Page.ofReply s.complaint second = .ok page) :
    Fetch s offset [⟨s.firstUrl offset, first⟩, ⟨s.secondUrl offset, second⟩] (.ok ())
      ((s.sendingSecond offset failed).accept (s.cursor.moveTo offset) page)
  | stoppedAgain {first second : Reply} {failed failed' : FailedAttempt}
    (hfailed : Page.ofReply s.complaint first = .error failed)
    (hfault : failed.fault.retriable = true)
    (hfailed' : Page.ofReply s.complaint second = .error failed')
    (hfault' : failed'.fault.retriable = false) :
    Fetch s offset [⟨s.firstUrl offset, first⟩, ⟨s.secondUrl offset, second⟩]
      (.error failed'.fault)
      ((s.sendingSecond offset failed).fail (.notRetrying failed'.fault.message))
  | givenUp {first second : Reply} {failed failed' : FailedAttempt}
    (hfailed : Page.ofReply s.complaint first = .error failed)
    (hfault : failed.fault.retriable = true)
    (hfailed' : Page.ofReply s.complaint second = .error failed')
    (hfault' : failed'.fault.retriable = true) :
    Fetch s offset [⟨s.firstUrl offset, first⟩, ⟨s.secondUrl offset, second⟩]
      (.error (.fetchFailed maxAttempts failed'.fault.message
        (failed'.diagnostic <|> failed.diagnostic)))
      (((s.sendingSecond offset failed).retrying maxAttempts failed').fail
        (.givingUp maxAttempts failed'.fault.message))

theorem fetchPage_yields {offset : Nat} (h : (s.fetchPage offset).Yields events (r, s')) :
    s.Fetch offset events r s' := by
  unfold fetchPage at h
  obtain ⟨first, later, rfl, hfirst⟩ := attempt_yields h
  rcases hfirst with ⟨page, hpage, rfl, rfl, rfl⟩ | ⟨failed, hfailed, hfault, rfl, rfl, rfl⟩ |
    ⟨failed, hfailed, hfault, hagain⟩
  · exact .accepted hpage
  · exact .stopped hfailed hfault
  · obtain ⟨second, later, rfl, hsecond⟩ := attempt_yields hagain
    rcases hsecond with ⟨page, hpage, rfl, rfl, rfl⟩ |
      ⟨failed', hfailed', hfault', rfl, rfl, rfl⟩ | ⟨failed', hfailed', hfault', hlast⟩
    · exact .acceptedAgain hfailed hfault hpage
    · exact .stoppedAgain hfailed hfault hfailed' hfault'
    · obtain ⟨rfl, hresult⟩ := Exchange.yields_done.1 hlast
      cases hresult
      exact .givenUp hfailed hfault hfailed' hfault'

/-- The sessions are the same but for their counters and journals. -/
def Agrees (s s' : Session) : Prop :=
  ∃ counters journal, s' = { s with counters := counters, journal := journal }

namespace Agrees

variable {cursor : Cursor} {page : Page} {offset number : Nat} {continuing : Bool}
  {failed : FailedAttempt} {notice : Notice} {s'' : Session}

theorem refl (s : Session) : s.Agrees s := ⟨s.counters, s.journal, rfl⟩

theorem trans (h : s.Agrees s') (h' : s'.Agrees s'') : s.Agrees s'' := by
  obtain ⟨_, _, rfl⟩ := h
  obtain ⟨counters, journal, rfl⟩ := h'
  exact ⟨counters, journal, rfl⟩

theorem sending (h : s.Agrees s') : s.Agrees (s'.sending cursor number continuing) :=
  h.trans ⟨_, _, rfl⟩

theorem retrying (h : s.Agrees s') : s.Agrees (s'.retrying number failed) :=
  h.trans ⟨_, _, rfl⟩

theorem sendingFirst (s : Session) : s.Agrees (s.sendingFirst offset) := (refl s).sending

theorem sendingSecond (s : Session) : s.Agrees (s.sendingSecond offset failed) :=
  (sendingFirst s).retrying.sending

theorem accept (h : s.Agrees s') : (s.accept cursor page).Agrees (s'.accept cursor page) := by
  obtain ⟨_, _, rfl⟩ := h
  exact ⟨_, _, rfl⟩

theorem fail (h : s.Agrees s') : { s with progress := .failed }.Agrees (s'.fail notice) := by
  obtain ⟨_, _, rfl⟩ := h
  exact ⟨_, _, rfl⟩

end Agrees

/-- A fetch accepts its last reply as the page, or leaves everything but the failure as it was. -/
theorem Fetch.result {offset : Nat} (h : s.Fetch offset events r s') :
    (∃ event page continuing, event ∈ events ∧ event.page? = some page ∧ pages events = [page] ∧
      event.url = s.search.url (s.cursor.moveTo offset) continuing ∧ r = .ok () ∧
      (s.accept (s.cursor.moveTo offset) page).Agrees s') ∨
    ∃ fault, r = .error fault ∧ pages events = [] ∧
      { s with progress := .failed }.Agrees s' := by
  cases h with
  | @accepted first page hpage =>
    refine Or.inl ⟨⟨s.firstUrl offset, first⟩, page, _, by simp, ?_, ?_, rfl, rfl,
      (Agrees.sendingFirst s).accept⟩
    all_goals simp [pages, Event.page?_of_ok hpage]
  | stopped hfailed =>
    refine Or.inr ⟨_, rfl, ?_, (Agrees.sendingFirst s).fail⟩
    simp [pages, Event.page?_of_failed hfailed]
  | @acceptedAgain first second failed page hfailed hfault hpage =>
    refine Or.inl ⟨⟨s.secondUrl offset, second⟩, page, _, by simp, ?_, ?_, rfl, rfl,
      (Agrees.sendingSecond s).accept⟩
    all_goals simp [pages, Event.page?_of_failed hfailed, Event.page?_of_ok hpage]
  | stoppedAgain hfailed _ hfailed' =>
    refine Or.inr ⟨_, rfl, ?_, (Agrees.sendingSecond s).fail⟩
    simp [pages, Event.page?_of_failed hfailed, Event.page?_of_failed hfailed']
  | givenUp hfailed _ hfailed' =>
    refine Or.inr ⟨_, rfl, ?_, (Agrees.sendingSecond s).retrying.fail⟩
    simp [pages, Event.page?_of_failed hfailed, Event.page?_of_failed hfailed']

theorem Fetch.keeps {offset : Nat} (h : s.Fetch offset events r s') :
    s'.search = s.search ∧ s'.complaint = s.complaint := by
  rcases h.result with ⟨_, _, _, -, -, -, -, -, _, _, rfl⟩ | ⟨_, -, -, _, _, rfl⟩ <;>
    exact ⟨rfl, rfl⟩

theorem Fetch.events_ne_nil {offset : Nat} (h : s.Fetch offset events r s') : events ≠ [] := by
  cases h <;> simp

theorem ensureStarted_yields (h : s.ensureStarted.Yields events (r, s')) :
    (s.total.isSome ∧ events = [] ∧ r = .ok () ∧ s' = s) ∨
      (s.total = none ∧ s.Fetch 0 events r s') := by
  unfold ensureStarted at h
  split at h
  · next hnone => exact Or.inr ⟨by simpa using hnone, fetchPage_yields h⟩
  · next hsome =>
    obtain ⟨rfl, hresult⟩ := Exchange.yields_done.1 h
    cases hresult
    exact Or.inl ⟨by simpa [Option.isSome_iff_ne_none] using hsome, rfl, rfl, rfl⟩

def Loaded (s : Session) : Prop :=
  s.cursor.offset ≤ s.nextIndex ∧ s.nextIndex < s.cursor.offset + s.page.length

theorem ensureLoaded_yields (h : s.ensureLoaded.Yields events (r, s')) :
    (s.Loaded ∧ events = [] ∧ r = .ok () ∧ s' = s) ∨
      (¬ s.Loaded ∧ s.Fetch s.nextIndex events r s') := by
  unfold ensureLoaded at h
  unfold Loaded
  split at h
  · exact Or.inr ⟨by omega, fetchPage_yields h⟩
  · obtain ⟨rfl, hresult⟩ := Exchange.yields_done.1 h
    cases hresult
    exact Or.inl ⟨by omega, rfl, rfl, rfl⟩

/-- A call that fetches a page if there is need of one. -/
inductive MayFetch (s : Session) : List Event → Except Fault Unit → Session → Prop where
  | kept : MayFetch s [] (.ok ()) s
  | fetched {offset : Nat} {events : List Event} {r : Except Fault Unit} {s' : Session}
    (fetch : s.Fetch offset events r s') : MayFetch s events r s'

theorem MayFetch.of_cases {idle needed : Prop} {offset : Nat}
    (h : (idle ∧ events = [] ∧ r = .ok () ∧ s' = s) ∨ (needed ∧ s.Fetch offset events r s')) :
    s.MayFetch events r s' := by
  rcases h with ⟨-, rfl, rfl, rfl⟩ | ⟨-, hfetch⟩
  · exact .kept
  · exact .fetched hfetch

theorem ensureStarted_mayFetch (h : s.ensureStarted.Yields events (r, s')) :
    s.MayFetch events r s' :=
  .of_cases (ensureStarted_yields h)

theorem ensureLoaded_mayFetch (h : s.ensureLoaded.Yields events (r, s')) :
    s.MayFetch events r s' :=
  .of_cases (ensureLoaded_yields h)

/-- The next slot is what the loaded page has in the place of the next record. -/
theorem deliver_fst (s : Session) : s.deliver.1 =
    .ofPayload s.nextIndex (s.page[s.nextIndex - s.cursor.offset]?).join := by
  unfold deliver
  dsimp only
  split <;> next hpayload => rw [hpayload]; rfl

theorem deliver_agrees (s : Session) :
    { s with
      nextIndex := s.nextIndex + 1
      progress := if s.knownTotal ≤ s.nextIndex + 1 then .exhausted else s.progress }.Agrees
      s.deliver.2 := by
  unfold deliver
  dsimp only
  cases (s.page[s.nextIndex - s.cursor.offset]?).join <;> exact ⟨_, _, rfl⟩

def observe {α : Type} (f : Session → α) (s : Session) : Call α :=
  s.ensureStarted.andThen fun _ s => .done (.ok (f s), s)

theorem size_eq_observe (s : Session) : s.size = s.observe knownTotal := rfl

theorem hasNext_eq_observe (s : Session) :
    s.hasNext = s.observe fun s => decide (s.nextIndex < s.knownTotal) := rfl

theorem observe_yields {α : Type} {f : Session → α} {r : Except Fault α}
    (h : (s.observe f).Yields events (r, s')) :
    ∃ started, s.ensureStarted.Yields events (started, s') ∧ r = started.map fun _ => f s' := by
  rcases Call.yields_andThen.1 h with ⟨first, later, a, s₁, rfl, hstarted, hdone⟩ |
    ⟨fault, rfl, hstarted⟩
  · obtain ⟨rfl, hresult⟩ := Exchange.yields_done.1 hdone
    cases hresult
    exact ⟨.ok a, by simpa using hstarted, rfl⟩
  · exact ⟨.error fault, hstarted, rfl⟩

/-- The next record fails with the start, past the last record or with its page; otherwise it is
delivered from the page. -/
theorem nextRecord_yields {r : Except Fault RecordSlot}
    (h : s.nextRecord.Yields events (r, s')) :
    (∃ fault, r = .error fault ∧ s.ensureStarted.Yields events (.error fault, s')) ∨
    (∃ s₁, s.ensureStarted.Yields events (.ok (), s₁) ∧ s₁.knownTotal ≤ s₁.nextIndex ∧
      r = .error .exhausted ∧ s' = { s₁ with progress := .exhausted }) ∨
    ∃ first later s₁, events = first ++ later ∧ s.ensureStarted.Yields first (.ok (), s₁) ∧
      s₁.nextIndex < s₁.knownTotal ∧
      ((∃ fault, r = .error fault ∧ s₁.ensureLoaded.Yields later (.error fault, s')) ∨
        ∃ s₂, s₁.ensureLoaded.Yields later (.ok (), s₂) ∧ r = .ok s₂.deliver.1 ∧
          s' = s₂.deliver.2) := by
  rcases Call.yields_andThen.1 h with ⟨first, later, a, s₁, rfl, hstarted, hrest⟩ |
    ⟨fault, rfl, hstarted⟩
  · by_cases hend : s₁.knownTotal ≤ s₁.nextIndex
    · rw [if_pos hend] at hrest
      obtain ⟨rfl, hresult⟩ := Exchange.yields_done.1 hrest
      cases hresult
      exact Or.inr (Or.inl ⟨s₁, by simpa using hstarted, hend, rfl, rfl⟩)
    · rw [if_neg hend] at hrest
      refine Or.inr (Or.inr ⟨first, later, s₁, rfl, hstarted, by omega, ?_⟩)
      rcases Call.yields_andThen.1 hrest with ⟨loading, rest, a, s₂, rfl, hloaded, hdone⟩ |
        ⟨fault, rfl, hloaded⟩
      · obtain ⟨rfl, hresult⟩ := Exchange.yields_done.1 hdone
        cases hresult
        exact Or.inr ⟨s₂, by simpa using hloaded, rfl, rfl⟩
      · exact Or.inl ⟨fault, rfl, hloaded⟩
  · exact Or.inl ⟨fault, rfl, hstarted⟩

/-- An item of the stream is the next record or the fault of the start, unless the stream has
ended. -/
theorem next_yields {item : Option (Except Fault RecordSlot)}
    (h : s.next.Yields events (item, s')) :
    ((s.progress = .failed ∨ s.progress = .exhausted) ∧ events = [] ∧ item = none ∧ s' = s) ∨
    (∃ fault, s.hasNext.Yields events (.error fault, s') ∧ item = some (.error fault)) ∨
    (∃ s₁, s.hasNext.Yields events (.ok false, s₁) ∧ item = none ∧
      s' = { s₁ with progress := .exhausted }) ∨
    ∃ first later s₁ r, events = first ++ later ∧ s.hasNext.Yields first (.ok true, s₁) ∧
      s₁.nextRecord.Yields later (r, s') ∧ item = some r := by
  unfold next at h
  split at h
  · next hended =>
    obtain ⟨rfl, hresult⟩ := Exchange.yields_done.1 h
    cases hresult
    exact Or.inl ⟨hended, rfl, rfl, rfl⟩
  · obtain ⟨first, later, ⟨more, s₁⟩, rfl, hmore, hrest⟩ := Exchange.yields_andThen.1 h
    right
    match more with
    | .error fault =>
      obtain ⟨rfl, hresult⟩ := Exchange.yields_done.1 hrest
      cases hresult
      exact Or.inl ⟨fault, by simpa using hmore, rfl⟩
    | .ok false =>
      obtain ⟨rfl, hresult⟩ := Exchange.yields_done.1 hrest
      cases hresult
      exact Or.inr (Or.inl ⟨s₁, by simpa using hmore, rfl, rfl⟩)
    | .ok true =>
      obtain ⟨⟨r, s₂⟩, hrecord, hresult⟩ := Exchange.yields_map.1 hrest
      cases hresult
      exact Or.inr (Or.inr ⟨first, later, s₁, r, rfl, hmore, hrecord, rfl⟩)

end Session

inductive Command where
  | size
  | hasNext
  | nextRecord
  | next
  deriving DecidableEq, Repr

inductive Answer where
  | size (result : Except Fault Nat)
  | hasNext (result : Except Fault Bool)
  | nextRecord (result : Except Fault RecordSlot)
  | next (item : Option (Except Fault RecordSlot))
  deriving DecidableEq

def Session.perform (s : Session) : Command → Exchange (Answer × Session)
  | .size => s.size.map fun p => (.size p.1, p.2)
  | .hasNext => s.hasNext.map fun p => (.hasNext p.1, p.2)
  | .nextRecord => s.nextRecord.map fun p => (.nextRecord p.1, p.2)
  | .next => s.next.map fun p => (.next p.1, p.2)

theorem Session.perform_yields {s s' : Session} {command : Command} {events : List Event}
    {answer : Answer} (h : (s.perform command).Yields events (answer, s')) :
    (∃ r, answer = .size r ∧ s.size.Yields events (r, s')) ∨
      (∃ r, answer = .hasNext r ∧ s.hasNext.Yields events (r, s')) ∨
      (∃ r, answer = .nextRecord r ∧ s.nextRecord.Yields events (r, s')) ∨
      ∃ item, answer = .next item ∧ s.next.Yields events (item, s') := by
  cases command with
  | size =>
    obtain ⟨⟨r, _⟩, hcall, hanswer⟩ := Exchange.yields_map.1 h
    cases hanswer
    exact Or.inl ⟨r, rfl, hcall⟩
  | hasNext =>
    obtain ⟨⟨r, _⟩, hcall, hanswer⟩ := Exchange.yields_map.1 h
    cases hanswer
    exact Or.inr (Or.inl ⟨r, rfl, hcall⟩)
  | nextRecord =>
    obtain ⟨⟨r, _⟩, hcall, hanswer⟩ := Exchange.yields_map.1 h
    cases hanswer
    exact Or.inr (Or.inr (Or.inl ⟨r, rfl, hcall⟩))
  | next =>
    obtain ⟨⟨item, _⟩, hcall, hanswer⟩ := Exchange.yields_map.1 h
    cases hanswer
    exact Or.inr (Or.inr (Or.inr ⟨item, rfl, hcall⟩))

def Answer.slot? : Answer → Option RecordSlot
  | nextRecord (.ok slot) => some slot
  | next (some (.ok slot)) => some slot
  | _ => none

structure Step where
  command : Command
  events : List Event
  answer : Answer
  deriving DecidableEq

/-- A session of the search can be reached by these steps. -/
inductive Reaches (search : Search) : List Step → Session → Prop where
  | start (complaint : Xml.Complaint) : Reaches search [] (.start search complaint)
  | step {steps : List Step} {s s' : Session} {command : Command} {events : List Event}
    {answer : Answer} (before : Reaches search steps s)
    (call : (s.perform command).Yields events (answer, s')) :
    Reaches search (steps ++ [⟨command, events, answer⟩]) s'

def history (steps : List Step) : List Event := steps.flatMap Step.events

def delivered (steps : List Step) : List RecordSlot := steps.filterMap fun step => step.answer.slot?

/-- Each step of a run is a call of a session that the steps before it reach. -/
theorem Reaches.at_step {search : Search} {before after : List Step} {step : Step} {s : Session}
    (h : Reaches search (before ++ step :: after) s) :
    ∃ s₀ s₁, Reaches search before s₀ ∧
      (s₀.perform step.command).Yields step.events (step.answer, s₁) := by
  generalize hsteps : before ++ step :: after = steps at h
  induction h generalizing after with
  | start => simp at hsteps
  | @step steps s₀ s₁ command events answer hbefore hcall ih =>
    rcases List.eq_nil_or_concat after with rfl | ⟨earlier, last, rfl⟩
    · obtain ⟨rfl, hlast⟩ := List.append_inj' hsteps rfl
      obtain rfl := List.singleton_inj.1 hlast
      exact ⟨s₀, s₁, hbefore, hcall⟩
    · have hsteps' :
          (before ++ step :: earlier) ++ [last] = steps ++ [⟨command, events, answer⟩] := by
        simpa using hsteps
      obtain ⟨hfront, -⟩ := List.append_inj' hsteps' rfl
      exact ih hfront

namespace Session

/-- Calls one after another, each with prepared replies: the steps and the session after them. -/
def play (closed : Fault) : List (Command × List Reply) → Session → List Step × Session
  | [], s => ([], s)
  | (command, replies) :: calls, s =>
    let e := s.perform command
    let (answer, s') := (e.run closed replies).result
    let (steps, last) := play closed calls s'
    (⟨command, e.eventsOn closed replies, answer⟩ :: steps, last)

/-- Any calls with any replies make a run. -/
theorem play_reaches {search : Search} {before : List Step} {s : Session}
    (h : Reaches search before s) (closed : Fault) (calls : List (Command × List Reply)) :
    Reaches search (before ++ (s.play closed calls).1) (s.play closed calls).2 := by
  induction calls generalizing before s with
  | nil => simpa [play] using h
  | cons call calls ih =>
    have hstep := ih (.step h (Exchange.run_yields closed call.2 (s.perform call.1)))
    simpa [play] using hstep

theorem reaches_play {search : Search} (closed : Fault) (calls : List (Command × List Reply)) :
    Reaches search ((start search).play closed calls).1 ((start search).play closed calls).2 := by
  have hstart : Reaches search [] (start search) := .start _
  have h := play_reaches hstart closed calls
  rwa [List.nil_append] at h

end Session

end SearchRetrieve
