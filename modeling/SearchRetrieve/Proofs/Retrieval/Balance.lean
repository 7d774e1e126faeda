import SearchRetrieve.Proofs.Retrieval.Standing

/-!
# Counters and what they count

The counters of a session balance with what its calls have asked for and reported: each request
has brought a page, a failed attempt or a fault that stopped the fetch, each fault but the ones
behind the last record is a hard failure, and each failed fetch has cost two attempts.
-/
namespace SearchRetrieve

namespace Fault

/-- Is this a fault that a transport reports, or a body that gives no page? -/
def isOfReply : Fault → Bool
  | transport _ | io _ | response _ | resultSetExpired _ => true
  | _ => false

def isFetchFailed : Fault → Bool
  | fetchFailed .. => true
  | _ => false

def stopsFetch (fault : Fault) : Bool := fault ≠ exhausted && !fault.isFetchFailed

variable {fault : Fault}

theorem stopsFetch_of_isOfReply (h : fault.isOfReply = true) : fault.stopsFetch = true := by
  cases fault <;> first | rfl | simp [isOfReply] at h

theorem ne_exhausted_of_isOfReply (h : fault.isOfReply = true) : fault ≠ .exhausted := by
  rintro rfl
  simp [isOfReply] at h

theorem isFetchFailed_of_isOfReply (h : fault.isOfReply = true) : fault.isFetchFailed = false := by
  cases fault <;> first | rfl | simp [isOfReply] at h

end Fault

def RecordSlot.isMissing : RecordSlot → Bool
  | missing _ => true
  | record _ => false

def faultsOf {α : Type} : Except Fault α → List Fault
  | .error fault => [fault]
  | .ok _ => []

def Answer.faults : Answer → List Fault
  | size r => faultsOf r
  | hasNext r => faultsOf r
  | nextRecord r => faultsOf r
  | next none => []
  | next (some r) => faultsOf r

def reportedFaults (steps : List Step) : List Fault := steps.flatMap fun step => step.answer.faults

/-- What the transport has reported are faults of its own. -/
def FromTransport (events : List Event) : Prop :=
  ∀ event ∈ events, ∀ fault ∈ faultsOf event.reply, fault.isOfReply = true

instance (events : List Event) : Decidable (FromTransport events) :=
  inferInstanceAs (Decidable (∀ event ∈ events, ∀ fault ∈ faultsOf event.reply, _))

theorem FromTransport.of_append {events later : List Event}
    (h : FromTransport (events ++ later)) : FromTransport events ∧ FromTransport later :=
  ⟨fun event hevent => h event (List.mem_append_left _ hevent),
    fun event hevent => h event (List.mem_append_right _ hevent)⟩

theorem PageError.fault_isOfReply (e : PageError) : e.fault.isOfReply = true := by
  rcases e with _ | _ | _ | _ | _ | _ <;> rfl

/-- Whatever makes an attempt fail is a fault of the transport or of the body. -/
theorem FromTransport.isOfReply {events : List Event} {url : String} {reply : Reply}
    {complaint : Xml.Complaint} {failed : FailedAttempt} (h : FromTransport events)
    (hevent : ⟨url, reply⟩ ∈ events) (hfailed : Page.ofReply complaint reply = .error failed) :
    failed.fault.isOfReply = true := by
  cases reply with
  | error fault =>
    have hfault : failed = ⟨fault, none⟩ := by simpa [Page.ofReply] using hfailed.symm
    rw [hfault]
    exact h _ hevent fault (List.mem_singleton.2 rfl)
  | ok body =>
    unfold Page.ofReply at hfailed
    cases hpage : Page.ofText body complaint with
    | ok page => simp [hpage] at hfailed
    | error e =>
      simp only [hpage, Except.error.injEq] at hfailed
      rw [← hfailed]
      exact e.fault_isOfReply

namespace Session

variable {s s' : Session} {events later : List Event} {slots slots' : List RecordSlot}
  {faults faults' : List Fault}

section Counters

variable {cursor : Cursor} {page : Page} {number offset : Nat} {continuing : Bool}
  {failed : FailedAttempt} {notice : Notice}

@[simp] theorem counters_accept :
    (s.accept cursor page).counters = s.counters.pageFetched := rfl

@[simp] theorem counters_fail : (s.fail notice).counters = s.counters.hardFailure := rfl

@[simp] theorem counters_retrying :
    (s.retrying number failed).counters = s.counters.attemptFailed := rfl

@[simp] theorem counters_sendingFirst : (s.sendingFirst offset).counters = s.counters := rfl

@[simp] theorem counters_sendingSecond :
    (s.sendingSecond offset failed).counters = s.counters.attemptFailed := rfl

end Counters

/-- The counters between two sessions have gone up by what these requests have brought and by
these slots and faults. -/
structure Books (s : Session) (events : List Event) (slots : List RecordSlot)
    (faults : List Fault) (s' : Session) : Prop where
  pagesFetched : s'.counters.pagesFetched = s.counters.pagesFetched + (pages events).length
  attempts : s'.counters.attemptsFailed + (pages events).length + faults.countP Fault.stopsFetch =
    s.counters.attemptsFailed + events.length
  retries : s.counters.attemptsFailed + 2 * faults.countP Fault.isFetchFailed ≤
    s'.counters.attemptsFailed
  hardFailures : s'.counters.hardFailures =
    s.counters.hardFailures + faults.countP (· ≠ .exhausted)
  missingRecords : s'.counters.missingRecords =
    s.counters.missingRecords + slots.countP RecordSlot.isMissing

namespace Books

theorem refl (s : Session) : Books s [] [] [] s where
  pagesFetched := rfl
  attempts := rfl
  retries := Nat.le_refl _
  hardFailures := rfl
  missingRecords := rfl

theorem trans {s₁ : Session} (h : Books s events slots faults s₁)
    (h' : Books s₁ later slots' faults' s') :
    Books s (events ++ later) (slots ++ slots') (faults ++ faults') s' where
  pagesFetched := by
    rw [h'.pagesFetched, h.pagesFetched, pages_append, List.length_append, Nat.add_assoc]
  attempts := by
    have := h.attempts
    have := h'.attempts
    simp only [pages_append, List.length_append, List.countP_append]
    omega
  retries := by
    have := h.retries
    have := h'.retries
    simp only [List.countP_append]
    omega
  hardFailures := by
    rw [h'.hardFailures, h.hardFailures, List.countP_append, Nat.add_assoc]
  missingRecords := by
    rw [h'.missingRecords, h.missingRecords, List.countP_append, Nat.add_assoc]

theorem withProgress (h : Books s events slots faults s') (progress : Progress) :
    Books s events slots faults { s' with progress := progress } :=
  ⟨h.pagesFetched, h.attempts, h.retries, h.hardFailures, h.missingRecords⟩

/-- A fault past the last record counts for nothing. -/
theorem exhausted (s : Session) : Books s [] [] [.exhausted] s where
  pagesFetched := rfl
  attempts := rfl
  retries := Nat.le_refl _
  hardFailures := rfl
  missingRecords := rfl

/-- A fetch counts its page, or its failure and the attempts before it. -/
theorem fetch {offset : Nat} {r : Except Fault Unit} (h : s.Fetch offset events r s')
    (htransport : FromTransport events) :
    Books s events [] (faultsOf r) s' ∧ .exhausted ∉ faultsOf r := by
  -- only two failed attempts give a fault of their own, any other is that of a reply
  cases h with
  | accepted hfirst =>
    refine ⟨?_, by simp [faultsOf]⟩
    constructor <;> simp [pages, Event.page?_of_ok hfirst, faultsOf, Counters.pageFetched]
  | stopped hfirst =>
    have hfault := htransport.isOfReply List.mem_cons_self hfirst
    have hne := Fault.ne_exhausted_of_isOfReply hfault
    refine ⟨?_, by simpa [faultsOf] using hne.symm⟩
    constructor <;> simp [pages, Event.page?_of_failed hfirst, faultsOf, Counters.hardFailure, hne,
      Fault.stopsFetch_of_isOfReply hfault, Fault.isFetchFailed_of_isOfReply hfault]
  | acceptedAgain hfirst _ hsecond =>
    refine ⟨?_, by simp [faultsOf]⟩
    constructor <;> simp [pages, Event.page?_of_failed hfirst, Event.page?_of_ok hsecond,
      faultsOf, Counters.pageFetched, Counters.attemptFailed]
  | stoppedAgain hfirst _ hsecond =>
    have hfault := htransport.isOfReply (List.mem_cons_of_mem _ List.mem_cons_self) hsecond
    have hne := Fault.ne_exhausted_of_isOfReply hfault
    refine ⟨?_, by simpa [faultsOf] using hne.symm⟩
    constructor <;> simp [pages, Event.page?_of_failed hfirst, Event.page?_of_failed hsecond,
      faultsOf, Counters.hardFailure, Counters.attemptFailed, hne,
      Fault.stopsFetch_of_isOfReply hfault, Fault.isFetchFailed_of_isOfReply hfault]
  | givenUp hfirst _ hsecond =>
    refine ⟨?_, by simp [faultsOf]⟩
    constructor <;> simp [pages, Event.page?_of_failed hfirst, Event.page?_of_failed hsecond,
      faultsOf, Counters.hardFailure, Counters.attemptFailed, Fault.stopsFetch,
      Fault.isFetchFailed]

theorem mayFetch {r : Except Fault Unit} (h : s.MayFetch events r s')
    (htransport : FromTransport events) :
    Books s events [] (faultsOf r) s' ∧ .exhausted ∉ faultsOf r := by
  cases h with
  | kept => exact ⟨refl s, by simp [faultsOf]⟩
  | fetched hfetch => exact fetch hfetch htransport

theorem observe {α : Type} {f : Session → α} {r : Except Fault α}
    (hyields : (s.observe f).Yields events (r, s')) (htransport : FromTransport events) :
    Books s events [] (faultsOf r) s' ∧ .exhausted ∉ faultsOf r := by
  obtain ⟨started, hstarted, rfl⟩ := observe_yields hyields
  have hbooks := mayFetch (ensureStarted_mayFetch hstarted) htransport
  cases started <;> exact hbooks

theorem deliver (s : Session) : Books s [] [s.deliver.1] [] s.deliver.2 := by
  unfold Session.deliver
  dsimp only
  cases (s.page[s.nextIndex - s.cursor.offset]?).join <;>
    constructor <;> simp [pages, RecordSlot.isMissing, counting, noting, Counters.missing]

theorem nextRecord {r : Except Fault RecordSlot} (hyields : s.nextRecord.Yields events (r, s'))
    (htransport : FromTransport events) :
    Books s events r.toOption.toList (faultsOf r) s' ∧
      (.exhausted ∈ faultsOf r →
        ∃ s₁, s.ensureStarted.Yields events (.ok (), s₁) ∧ s₁.knownTotal ≤ s₁.nextIndex) := by
  rcases nextRecord_yields hyields with ⟨fault, rfl, hstarted⟩ | ⟨s₁, hstarted, hend, rfl, rfl⟩ |
    ⟨first, later, s₁, rfl, hstarted, hnext, hrest⟩
  · obtain ⟨hbooks, hne⟩ := mayFetch (ensureStarted_mayFetch hstarted) htransport
    exact ⟨hbooks, fun h => absurd h hne⟩
  · obtain ⟨hbooks, -⟩ := mayFetch (ensureStarted_mayFetch hstarted) htransport
    have hall := (hbooks.trans (exhausted s₁)).withProgress .exhausted
    rw [List.append_nil] at hall
    exact ⟨hall, fun _ => ⟨s₁, hstarted, hend⟩⟩
  · obtain ⟨hfirst, hlater⟩ := htransport.of_append
    obtain ⟨hstart, -⟩ := mayFetch (ensureStarted_mayFetch hstarted) hfirst
    rcases hrest with ⟨fault, rfl, hloading⟩ | ⟨s₂, hloading, rfl, rfl⟩
    · obtain ⟨hload, hne⟩ := mayFetch (ensureLoaded_mayFetch hloading) hlater
      exact ⟨hstart.trans hload, fun h => absurd h hne⟩
    · obtain ⟨hload, -⟩ := mayFetch (ensureLoaded_mayFetch hloading) hlater
      have hall := hstart.trans (hload.trans (deliver s₂))
      rw [List.append_nil] at hall
      exact ⟨hall, by simp [faultsOf]⟩

/-- Where there are more records, the next one is not past the last. -/
theorem nextRecord_of_more {r : Except Fault RecordSlot}
    (hyields : s.nextRecord.Yields events (r, s')) (htransport : FromTransport events)
    (hmore : s.nextIndex < s.knownTotal) : .exhausted ∉ faultsOf r := by
  intro hexhausted
  obtain ⟨s₁, hstarted, hend⟩ := (nextRecord hyields htransport).2 hexhausted
  rcases ensureStarted_yields hstarted with ⟨-, -, -, rfl⟩ | ⟨hnone, -⟩
  · omega
  · simp [knownTotal, hnone] at hmore

theorem next {item : Option (Except Fault RecordSlot)} (hyields : s.next.Yields events (item, s'))
    (htransport : FromTransport events) :
    Books s events (item.bind Except.toOption).toList (Answer.next item).faults s' ∧
      .exhausted ∉ (Answer.next item).faults := by
  rcases next_yields hyields with ⟨-, rfl, rfl, rfl⟩ | ⟨fault, hmore, rfl⟩ | ⟨s₁, hmore, rfl, rfl⟩ |
    ⟨first, later, s₁, r, rfl, hmore, hrecord, rfl⟩
  · exact ⟨refl s', by simp [Answer.faults]⟩
  · rw [hasNext_eq_observe] at hmore
    exact observe hmore htransport
  · rw [hasNext_eq_observe] at hmore
    obtain ⟨hbooks, hne⟩ := observe hmore htransport
    exact ⟨hbooks.withProgress _, hne⟩
  · obtain ⟨hfirst, hlater⟩ := htransport.of_append
    rw [hasNext_eq_observe] at hmore
    obtain ⟨hbooks, -⟩ := observe hmore hfirst
    obtain ⟨hrecords, -⟩ := nextRecord hrecord hlater
    obtain ⟨started, -, hr⟩ := observe_yields hmore
    have hless : s₁.nextIndex < s₁.knownTotal := by
      cases started <;> simp_all [Except.map]
    exact ⟨hbooks.trans hrecords, nextRecord_of_more hrecord hlater hless⟩

theorem perform {command : Command} {answer : Answer}
    (hyields : (s.perform command).Yields events (answer, s')) (htransport : FromTransport events) :
    Books s events answer.slot?.toList answer.faults s' ∧
      (.exhausted ∈ answer.faults → answer = .nextRecord (.error .exhausted) ∧
        ∃ s₁, s.ensureStarted.Yields events (.ok (), s₁) ∧ s₁.knownTotal ≤ s₁.nextIndex) := by
  rcases perform_yields hyields with ⟨r, rfl, hcall⟩ | ⟨r, rfl, hcall⟩ | ⟨r, rfl, hcall⟩ |
    ⟨item, rfl, hcall⟩
  · rw [size_eq_observe] at hcall
    obtain ⟨hbooks, hne⟩ := observe hcall htransport
    exact ⟨hbooks, fun h => absurd h hne⟩
  · rw [hasNext_eq_observe] at hcall
    obtain ⟨hbooks, hne⟩ := observe hcall htransport
    exact ⟨hbooks, fun h => absurd h hne⟩
  · obtain ⟨hbooks, hend⟩ := nextRecord hcall htransport
    refine ⟨by cases r <;> exact hbooks, fun h => ?_⟩
    obtain ⟨s₁, hstarted, hpast⟩ := hend h
    have hfault : r = .error .exhausted := by
      cases r <;> simp_all [Answer.faults, faultsOf]
    exact ⟨by rw [hfault], s₁, hstarted, hpast⟩
  · obtain ⟨hbooks, hne⟩ := next hcall htransport
    refine ⟨?_, fun h => absurd h hne⟩
    rcases item with _ | _ | slot <;> exact hbooks

end Books

/-- The counters of a session are what its run has brought and reported. -/
theorem books_of_reaches {search : Search} {steps : List Step} (h : Reaches search steps s)
    (htransport : FromTransport (history steps)) :
    Books (start search) (history steps) (delivered steps) (reportedFaults steps) s := by
  induction h with
  | start => exact ⟨rfl, rfl, Nat.le_refl _, rfl, rfl⟩
  | @step steps s₀ s₁ command events answer _ hcall ih =>
    have hhistory : history (steps ++ [⟨command, events, answer⟩]) = history steps ++ events := by
      simp [history]
    have hdelivered : delivered (steps ++ [⟨command, events, answer⟩]) =
        delivered steps ++ answer.slot?.toList := by
      cases hslot : answer.slot? <;> simp [delivered, hslot]
    have hfaults : reportedFaults (steps ++ [⟨command, events, answer⟩]) =
        reportedFaults steps ++ answer.faults := by
      simp [reportedFaults]
    rw [hhistory] at htransport
    rw [hhistory, hdelivered, hfaults]
    obtain ⟨hbefore, hlast⟩ := htransport.of_append
    exact (ih hbefore).trans (Books.perform hcall hlast).1

/-- If a call reports that there is no further record, it has asked for the next one, and as many
have been delivered as the first page has promised. -/
theorem exhausted_of_step {search : Search} {before after : List Step} {step : Step}
    (hrun : Reaches search (before ++ step :: after) s)
    (htransport : FromTransport (history (before ++ step :: after)))
    (hexhausted : .exhausted ∈ step.answer.faults) :
    step.answer = .nextRecord (.error .exhausted) ∧
      (pages (history (before ++ [step]))).head?.map Page.total =
        some (delivered before).length := by
  obtain ⟨s₀, s₁, hbefore, hcall⟩ := hrun.at_step
  have hsplit : history (before ++ step :: after) =
      history before ++ (step.events ++ history after) := by
    simp [history]
  rw [hsplit] at htransport
  obtain ⟨-, hstands⟩ := stands_of_reaches hbefore
  obtain ⟨hanswer, s₂, hstarted, hend⟩ :=
    (Books.perform hcall htransport.of_append.2.of_append.1).2 hexhausted
  refine ⟨hanswer, ?_⟩
  obtain ⟨hadvances, hok⟩ := hstands.ensureStarted hstarted
  obtain ⟨first, others, hpages, hreading⟩ := hadvances.stands.reading (hok rfl)
  have hhistory : history (before ++ [step]) = history before ++ step.events := by
    simp [history]
  rw [hhistory, pages_append, hpages, ← nextIndex_of_reaches hbefore]
  have hindex := hadvances.nextIndex_eq
  have hle := hreading.nextIndex_le
  rw [hreading.knownTotal_eq] at hend
  simp only [List.head?_cons, Option.map_some, Option.some.injEq]
  omega

/-- In every run over a transport that reports only faults of its own, the counters balance. Each
request is counted as a page, or as a failed attempt, or has ended a call with a fault of its
own; the pages are those accepted. The hard failures are the faults reported, but those for reading
past the end, which only a call for the next record reports when all have been delivered. The
missing records are the empty slots delivered, and each failed fetch has cost two attempts. -/
theorem counters_balance {search : Search} {steps : List Step} (hrun : Reaches search steps s)
    (htransport : FromTransport (history steps)) :
    (history steps).length = s.counters.pagesFetched + s.counters.attemptsFailed +
        (reportedFaults steps).countP Fault.stopsFetch ∧
      s.counters.pagesFetched = (pages (history steps)).length ∧
      s.counters.hardFailures = (reportedFaults steps).countP (· ≠ .exhausted) ∧
      s.counters.missingRecords = (delivered steps).countP RecordSlot.isMissing ∧
      2 * (reportedFaults steps).countP Fault.isFetchFailed ≤ s.counters.attemptsFailed ∧
      ∀ before step after, steps = before ++ step :: after →
        .exhausted ∈ step.answer.faults → step.answer = .nextRecord (.error .exhausted) ∧
          (pages (history (before ++ [step]))).head?.map Page.total =
            some (delivered before).length := by
  have hbooks := books_of_reaches hrun htransport
  have hzero : (start search).counters = .zero := rfl
  have hpages := hbooks.pagesFetched
  have hattempts := hbooks.attempts
  have hretries := hbooks.retries
  have hhard := hbooks.hardFailures
  have hmissing := hbooks.missingRecords
  simp only [hzero, Counters.zero, Nat.zero_add] at hpages hattempts hretries hhard hmissing
  refine ⟨by omega, hpages, hhard, hmissing, hretries, ?_⟩
  rintro before step after rfl hexhausted
  exact exhausted_of_step hrun htransport hexhausted

/-- An expired result set, a fetch that fails twice, an empty slot after a failed attempt, and two
calls past the end, of which one is told so. -/
theorem counters_balance_faults :
    let search : Search := ⟨"", "moon", none, none, .standard⟩
    let body := "<searchRetrieveResponse><numberOfRecords>1</numberOfRecords><records><record/>" ++
      "</records></searchRetrieveResponse>"
    let calls : List (Command × List Reply) :=
      [(.hasNext, [.error (.resultSetExpired "")]), (.size, []),
        (.nextRecord, [.error (.transport ""), .ok body]), (.nextRecord, []), (.next, [])]
    ∃ steps s, (start search).play (.io "") calls = (steps, s) ∧
      (history steps).length = 5 ∧ s.counters.pagesFetched = 1 ∧ s.counters.attemptsFailed = 3 ∧
      s.counters.hardFailures = 2 ∧ s.counters.missingRecords = 1 ∧
      (reportedFaults steps).length = 3 := by
  intro search body calls
  have hplayed : FromTransport (history ((start search).play (.io "") calls).1) ∧
      (history ((start search).play (.io "") calls).1).length = 5 ∧
      (pages (history ((start search).play (.io "") calls).1)).length = 1 ∧
      reportedFaults ((start search).play (.io "") calls).1 =
        [.resultSetExpired "", .fetchFailed 2 "IO error: " none, .exhausted] ∧
      delivered ((start search).play (.io "") calls).1 = [.missing 0] := by
    decide +kernel
  have hrun := @reaches_play search (.io "") calls
  generalize (start search).play (.io "") calls = played at hplayed hrun ⊢
  obtain ⟨htransport, hlength, hpages, hfaults, hslots⟩ := hplayed
  obtain ⟨hrequests, hfetched, hhard, hmissing, -⟩ := counters_balance hrun htransport
  have hstops : (reportedFaults played.1).countP Fault.stopsFetch = 1 := by
    rw [hfaults]
    rfl
  have hcounted : (reportedFaults played.1).countP (· ≠ .exhausted) = 2 := by
    rw [hfaults]
    rfl
  have hempty : (delivered played.1).countP RecordSlot.isMissing = 1 := by
    rw [hslots]
    rfl
  exact ⟨played.1, played.2, rfl, hlength, by omega, by omega, by omega, by omega,
    by rw [hfaults]; rfl⟩

end Session

end SearchRetrieve
