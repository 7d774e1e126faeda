import SearchRetrieve.Proofs.Retrieval.Balance
import SearchRetrieve.Proofs.Retrieval.Retry

/-!
# Sessions as streams

A reader that only asks for the next item gets slots, then perhaps a fault, and from there on
nothing. Without a fault the stream ends behind the last record. A fault is that of a page fetch,
which is the last one of the session and the only one to fail.
-/
namespace SearchRetrieve

def faultOf? {α : Type} : Except Fault α → Option Fault
  | .error fault => some fault
  | .ok _ => none

def Answer.item? : Answer → Option (Except Fault RecordSlot)
  | next item => item
  | _ => none

/-- The items of a run in order, nothing for a step that has found the stream at its end. -/
def items (steps : List Step) : List (Option (Except Fault RecordSlot)) :=
  steps.map fun step => step.answer.item?

/-- Slots, perhaps a fault, and nothing a number of times. -/
def streamOf (slots : List RecordSlot) (fault : Option Fault) (ended : Nat) :
    List (Option (Except Fault RecordSlot)) :=
  slots.map (fun slot => some (.ok slot)) ++ fault.toList.map (fun fault => some (.error fault)) ++
    List.replicate ended none

theorem not_slot_of_mem_streamOf {slots : List RecordSlot} {fault : Option Fault} {ended : Nat}
    {item : Option (Except Fault RecordSlot)} (hitem : item ∈ streamOf slots fault ended)
    (hslot : ∀ slot, item ≠ some (.ok slot)) : fault.isSome ∨ 0 < ended := by
  unfold streamOf at hitem
  rcases List.mem_append.1 hitem with hitem | hitem
  · rcases List.mem_append.1 hitem with hitem | hitem
    · obtain ⟨slot, -, rfl⟩ := List.mem_map.1 hitem
      exact (hslot slot rfl).elim
    · obtain ⟨fault', hfault, -⟩ := List.mem_map.1 hitem
      exact Or.inl (Option.isSome_iff_exists.2 ⟨fault', Option.mem_toList.1 hfault⟩)
  · exact Or.inr (List.length_pos_of_mem hitem |>.trans_eq List.length_replicate)

namespace Session

variable {s s₁ s' : Session} {events later : List Event} {fault : Option Fault}

/-- From one session to another by page fetches with these requests. All of them succeed but for
the last one, if there is a fault: it fails with this fault, and nothing follows. -/
inductive Flows : Session → List Event → Option Fault → Session → Prop where
  | refl (s : Session) : Flows s [] none s
  | fetched {s s₁ s' : Session} {offset : Nat} {events later : List Event} {fault : Option Fault}
    (first : s.Fetch offset events (.ok ()) s₁) (rest : Flows s₁ later fault s') :
    Flows s (events ++ later) fault s'
  | failed {s s' : Session} {offset : Nat} {events : List Event} {fault : Fault}
    (last : s.Fetch offset events (.error fault) s') : Flows s events (some fault) s'
  | deliver {s s' : Session} {events : List Event} {fault : Option Fault}
    (rest : Flows s.deliver.2 events fault s') : Flows s events fault s'
  | finish {s s' : Session} {events : List Event} {fault : Option Fault}
    (rest : Flows { s with progress := .exhausted } events fault s') : Flows s events fault s'

theorem Flows.trans (h : s.Flows events none s₁) (h' : s₁.Flows later fault s') :
    s.Flows (events ++ later) fault s' := by
  generalize hnone : (none : Option Fault) = none' at h
  induction h with
  | refl => exact h'
  | fetched first _ ih =>
    rw [List.append_assoc]
    exact .fetched first (ih h' hnone)
  | failed => simp at hnone
  | deliver _ ih => exact .deliver (ih h' hnone)
  | finish _ ih => exact .finish (ih h' hnone)

/-- A transport that never says that there are no more records lets no fetch say so. -/
theorem Fetch.ne_exhausted {offset : Nat} {fault : Fault}
    (h : s.Fetch offset events (.error fault) s')
    (htransport : ∀ event ∈ events, event.reply ≠ .error .exhausted) : fault ≠ .exhausted := by
  rcases h.fault_cases with ⟨last, hlast, hfault, -⟩ | ⟨_, _, _, -, -, -, rfl⟩
  · rintro rfl
    have hreply := htransport last (List.mem_of_getLast? hlast)
    unfold Event.fault? at hfault
    cases hcases : last.reply with
    | error fault => simp_all [Page.ofReply]
    | ok body =>
      cases hpage : Page.ofText body s.complaint with
      | ok page => simp [hcases, Page.ofReply, hpage] at hfault
      | error e =>
        have hof := e.fault_isOfReply
        simp only [hcases, Page.ofReply, hpage, Option.some.injEq] at hfault
        exact Fault.ne_exhausted_of_isOfReply hof hfault
  · simp

theorem Flows.ne_exhausted (h : s.Flows events fault s')
    (htransport : ∀ event ∈ events, event.reply ≠ .error .exhausted) :
    fault ≠ some .exhausted := by
  induction h with
  | refl => simp
  | fetched _ _ ih => exact ih fun event hevent => htransport event (List.mem_append_right _ hevent)
  | failed last => simpa using last.ne_exhausted htransport
  | deliver _ ih => exact ih htransport
  | finish _ ih => exact ih htransport

theorem Flows.complaint_eq (h : s.Flows events fault s') : s'.complaint = s.complaint := by
  induction h with
  | refl => rfl
  | fetched first _ ih => rw [ih, first.keeps.2]
  | failed last => exact last.keeps.2
  | @deliver s _ _ _ _ ih =>
    obtain ⟨_, _, hdelivered⟩ := s.deliver_agrees
    rw [ih, hdelivered]
  | finish _ ih => exact ih

/-- What a call that may fetch pages does to a session that has not failed: it has failed after the
call exactly if the last fetch has. -/
structure Draws (s : Session) (events : List Event) (fault : Option Fault) (s' : Session) :
    Prop where
  flows : s.Flows events fault s'
  failed_iff : s'.progress = .failed ↔ fault.isSome

theorem Draws.refl (h : s.progress ≠ .failed) : s.Draws [] none s :=
  ⟨.refl s, by simpa using h⟩

theorem Draws.trans (h : s.Draws events none s₁) (h' : s₁.Draws later fault s') :
    s.Draws (events ++ later) fault s' :=
  ⟨h.flows.trans h'.flows, h'.failed_iff⟩

theorem Draws.live (h : s.Draws events fault s') (hnone : fault = none) :
    s'.progress ≠ .failed := by
  rw [Ne, h.failed_iff, hnone]
  simp

theorem Fetch.draws {offset : Nat} {r : Except Fault Unit} (h : s.Fetch offset events r s') :
    s.Draws events (faultOf? r) s' := by
  rcases h.result with ⟨_, page, _, -, -, -, -, rfl, hagrees⟩ | ⟨fault, rfl, -, hagrees⟩
  · have hflows := Flows.fetched h (.refl s')
    rw [List.append_nil] at hflows
    obtain ⟨_, _, rfl⟩ := hagrees
    refine ⟨hflows, iff_of_false ?_ (by simp [faultOf?])⟩
    simp only [accept]
    split <;> simp
  · obtain ⟨_, _, rfl⟩ := hagrees
    exact ⟨.failed h, by simp [faultOf?]⟩

theorem MayFetch.draws {r : Except Fault Unit} (h : s.MayFetch events r s')
    (hlive : s.progress ≠ .failed) : s.Draws events (faultOf? r) s' := by
  cases h with
  | kept => exact .refl hlive
  | fetched hfetch => exact hfetch.draws

theorem observe_draws {α : Type} {f : Session → α} {r : Except Fault α}
    (hlive : s.progress ≠ .failed) (h : (s.observe f).Yields events (r, s')) :
    s.Draws events (faultOf? r) s' := by
  obtain ⟨started, hstarted, rfl⟩ := observe_yields h
  have hdraws := (ensureStarted_mayFetch hstarted).draws hlive
  cases started <;> exact hdraws

theorem deliver_draws (hlive : s.progress ≠ .failed) : s.Draws [] none s.deliver.2 := by
  refine ⟨.deliver (.refl _), iff_of_false ?_ (by simp)⟩
  obtain ⟨_, _, hdelivered⟩ := s.deliver_agrees
  rw [hdelivered]
  dsimp only
  split
  · simp
  · exact hlive

/-- Where there are more records, the next one fails with its page only. -/
theorem nextRecord_draws {r : Except Fault RecordSlot} (hlive : s.progress ≠ .failed)
    (hmore : s.nextIndex < s.knownTotal) (h : s.nextRecord.Yields events (r, s')) :
    s.Draws events (faultOf? r) s' := by
  have hstart {first : List Event} {started : Except Fault Unit} {s₁ : Session}
      (hstarted : s.ensureStarted.Yields first (started, s₁)) :
      first = [] ∧ started = .ok () ∧ s₁ = s := by
    rcases ensureStarted_yields hstarted with ⟨-, hkept⟩ | ⟨hnone, -⟩
    · exact hkept
    · simp [knownTotal, hnone] at hmore
  rcases nextRecord_yields h with ⟨fault, -, hstarted⟩ | ⟨s₁, hstarted, hend, -, -⟩ |
    ⟨first, later, s₁, rfl, hstarted, -, hrest⟩
  · exact absurd (hstart hstarted).2.1 (by simp)
  · obtain ⟨-, -, rfl⟩ := hstart hstarted
    omega
  · obtain ⟨rfl, -, rfl⟩ := hstart hstarted
    rcases hrest with ⟨fault, rfl, hloading⟩ | ⟨s₂, hloading, rfl, rfl⟩
    · exact (ensureLoaded_mayFetch hloading).draws hlive
    · have hload := (ensureLoaded_mayFetch hloading).draws hlive
      have hdelivery := deliver_draws (hload.live rfl)
      have hall := hload.trans hdelivery
      rwa [List.append_nil] at hall

/-- A session that has pages and has not ended is not behind its last record. -/
theorem Stands.eq_nil_of_end {accepted : List Page} (h : s.Stands accepted)
    (hlive : s.progress ≠ .failed ∧ s.progress ≠ .exhausted)
    (hadvances : Advances accepted s events 0 s') (hend : ¬ s'.nextIndex < s'.knownTotal) :
    accepted = [] := by
  cases accepted with
  | nil => rfl
  | cons first others =>
    have hreading : s.Reading first := h
    have hreading' : s'.Reading first := hadvances.stands
    have hloaded : s.progress = .pageLoaded := by
      have hne := hreading.progress_ne
      cases hprogress : s.progress <;> simp_all
    have hlt := hreading.pageLoaded_lt hloaded
    rw [hadvances.nextIndex_eq, hreading'.knownTotal_eq] at hend
    omega

/-- An item of a stream that has not ended is the next slot, the fault of a page fetch, or nothing.
It is nothing only if no page has come before and the first one has no records. -/
theorem next_cases {accepted : List Page} {item : Option (Except Fault RecordSlot)}
    (hstands : s.Stands accepted) (hlive : s.progress ≠ .failed ∧ s.progress ≠ .exhausted)
    (h : s.next.Yields events (item, s')) :
    (∃ r, item = some r ∧ s.Draws events (faultOf? r) s') ∨
      (item = none ∧ accepted = [] ∧ s.Draws events none s' ∧ s'.progress = .exhausted) := by
  rcases next_yields h with ⟨hended, -⟩ | ⟨fault, hmore, rfl⟩ | ⟨s₁, hmore, rfl, rfl⟩ |
    ⟨first, later, s₁, r, rfl, hmore, hrecord, rfl⟩
  · rcases hended with hfailed | hexhausted
    · exact (hlive.1 hfailed).elim
    · exact (hlive.2 hexhausted).elim
  · rw [hasNext_eq_observe] at hmore
    have hdraws := observe_draws hlive.1 hmore
    exact Or.inl ⟨.error fault, rfl, hdraws⟩
  · rw [hasNext_eq_observe] at hmore
    have hdraws := observe_draws hlive.1 hmore
    refine Or.inr ⟨rfl, ?_, ?_, rfl⟩
    · obtain ⟨hadvances, hok⟩ := hstands.observe hmore
      have hend : ¬ s₁.nextIndex < s₁.knownTotal := by simpa using (hok false rfl).1
      exact hstands.eq_nil_of_end hlive hadvances hend
    · have hall := hdraws.trans ⟨.finish (.refl _), by simp⟩
      rwa [List.append_nil] at hall
  · rw [hasNext_eq_observe] at hmore
    have hdraws := observe_draws hlive.1 hmore
    have hless : s₁.nextIndex < s₁.knownTotal := by
      obtain ⟨-, hok⟩ := hstands.observe hmore
      simpa using (hok true rfl).1
    exact Or.inl ⟨r, rfl, hdraws.trans (nextRecord_draws (hdraws.live rfl) hless hrecord)⟩

/-- At its end a stream gives nothing and asks for nothing. -/
theorem next_of_ended {item : Option (Except Fault RecordSlot)}
    (hended : s.progress = .failed ∨ s.progress = .exhausted)
    (h : s.next.Yields events (item, s')) : events = [] ∧ item = none ∧ s' = s := by
  unfold next at h
  rw [if_pos hended] at h
  obtain ⟨rfl, hresult⟩ := Exchange.yields_done.1 h
  cases hresult
  exact ⟨rfl, rfl, rfl⟩

theorem perform_next_yields {answer : Answer} (h : (s.perform .next).Yields events (answer, s')) :
    ∃ item, answer = .next item ∧ s.next.Yields events (item, s') := by
  obtain ⟨⟨item, _⟩, hcall, hanswer⟩ := Exchange.yields_map.1 h
  cases hanswer
  exact ⟨item, rfl, hcall⟩

variable {search : Search} {steps : List Step}

structure Streams (search : Search) (steps : List Step) (fault : Option Fault) (ended : Nat)
    (s : Session) : Prop where
  items_eq : items steps = streamOf (delivered steps) fault ended
  draws : (start search s.complaint).Draws (history steps) fault s
  progress_of_ended : 0 < ended → s.progress = .failed ∨ s.progress = .exhausted

/-- A session that has not ended has given slots only. -/
theorem Streams.of_live {ended : Nat} (h : Streams search steps fault ended s)
    (hlive : s.progress ≠ .failed ∧ s.progress ≠ .exhausted) : fault = none ∧ ended = 0 := by
  constructor
  · have hnone := mt h.draws.failed_iff.2 hlive.1
    simpa using hnone
  · by_contra hended
    rcases h.progress_of_ended (Nat.pos_of_ne_zero hended) with hfailed | hexhausted
    · exact hlive.1 hfailed
    · exact hlive.2 hexhausted

theorem streams_of_reaches (hrun : Reaches search steps s)
    (hnext : ∀ step ∈ steps, step.command = .next) :
    ∃ fault ended, Streams search steps fault ended s := by
  induction hrun with
  | start => exact ⟨none, 0, rfl, .refl (by simp [start]), by simp⟩
  | @step steps s₀ s₁ command events answer hbefore hcall ih =>
    obtain ⟨hsteps, hlast⟩ := List.forall_mem_append.1 hnext
    obtain rfl : command = .next := hlast _ List.mem_cons_self
    obtain ⟨fault, ended, hstreams⟩ := ih hsteps
    obtain ⟨item, rfl, hitem⟩ := perform_next_yields hcall
    have hitems : items (steps ++ [⟨.next, events, .next item⟩]) = items steps ++ [item] := by
      simp [items, Answer.item?]
    have hhistory : history (steps ++ [⟨.next, events, .next item⟩]) = history steps ++ events := by
      simp [history]
    have hdelivered : delivered (steps ++ [⟨.next, events, .next item⟩]) =
        delivered steps ++ (Answer.next item).slot?.toList := by
      cases hslot : (Answer.next item).slot? <;> simp [delivered, hslot]
    by_cases hended : s₀.progress = .failed ∨ s₀.progress = .exhausted
    · obtain ⟨rfl, rfl, rfl⟩ := next_of_ended hended hitem
      refine ⟨fault, ended + 1, ?_, ?_, fun _ => hended⟩
      · rw [hitems, hdelivered, hstreams.items_eq]
        simp [streamOf, Answer.slot?, List.replicate_succ']
      · rw [hhistory, List.append_nil]
        exact hstreams.draws
    · have hlive : s₀.progress ≠ .failed ∧ s₀.progress ≠ .exhausted := not_or.1 hended
      obtain ⟨rfl, rfl⟩ := hstreams.of_live hlive
      obtain ⟨-, hstands⟩ := stands_of_reaches hbefore
      rcases next_cases hstands hlive hitem with ⟨r, rfl, hdraws⟩ | ⟨rfl, -, hdraws, hend⟩
      · refine ⟨faultOf? r, 0, ?_, ?_, by simp⟩
        · rw [hitems, hdelivered, hstreams.items_eq]
          cases r <;> simp [streamOf, Answer.slot?, faultOf?]
        · rw [hhistory, hdraws.flows.complaint_eq]
          exact hstreams.draws.trans hdraws
      · refine ⟨none, 1, ?_, ?_, fun _ => Or.inr hend⟩
        · rw [hitems, hdelivered, hstreams.items_eq]
          simp [streamOf, Answer.slot?]
        · rw [hhistory, hdraws.flows.complaint_eq]
          exact hstreams.draws.trans hdraws

/-- Without a fault there has been a first page, which counts the slots: they are no more than it
says, and as many when the stream has ended. -/
theorem Streams.counts {ended : Nat} (h : Streams search steps none ended s)
    (hrun : Reaches search steps s) (hne : steps ≠ []) :
    ∃ first, (pages (history steps)).head? = some first ∧
      (delivered steps).length ≤ first.total ∧
      (0 < ended → (delivered steps).length = first.total) := by
  obtain ⟨-, hstands⟩ := stands_of_reaches hrun
  have hindex := nextIndex_of_reaches hrun
  have hlive : s.progress ≠ .failed := h.draws.live rfl
  cases hpages : pages (history steps) with
  | nil =>
    rw [hpages] at hstands
    have hwaiting : s.Waiting := hstands
    have hunstarted := hwaiting.progress_cases.resolve_right hlive
    have hslots : delivered steps = [] := by
      rw [hwaiting.nextIndex_eq] at hindex
      exact List.length_eq_zero_iff.1 hindex.symm
    have hended : ended = 0 := by
      by_contra hended
      have hprogress := h.progress_of_ended (Nat.pos_of_ne_zero hended)
      simp [hunstarted] at hprogress
    have hitems := h.items_eq
    simp [hslots, hended, streamOf, items, hne] at hitems
  | cons first others =>
    rw [hpages] at hstands
    have hreading : s.Reading first := hstands
    refine ⟨first, rfl, hindex ▸ hreading.nextIndex_le, fun hended => ?_⟩
    have hexhausted := (h.progress_of_ended hended).resolve_left hlive
    rw [← hindex]
    exact hreading.exhausted_iff.1 hexhausted

/-- After a fault or the end of the stream a step gives nothing, and a step that gives nothing makes
no request, unless it is the first of all. -/
theorem nothing_of_ended {before after : List Step} {step : Step}
    (hrun : Reaches search (before ++ step :: after) s)
    (hnext : ∀ step' ∈ before ++ step :: after, step'.command = .next) :
    ((∃ item ∈ items before, ∀ slot, item ≠ some (.ok slot)) → step.answer = .next none) ∧
      (step.answer = .next none → before = [] ∨ step.events = []) := by
  obtain ⟨hsteps, hlast⟩ := List.forall_mem_append.1 hnext
  obtain ⟨s₀, s₁, hbefore, hcall⟩ := hrun.at_step
  rw [hlast step List.mem_cons_self] at hcall
  obtain ⟨item, hanswer, hitem⟩ := perform_next_yields hcall
  obtain ⟨fault, ended, hstreams⟩ := streams_of_reaches hbefore hsteps
  rw [hanswer]
  constructor
  · rintro ⟨other, hother, hslot⟩
    have hended : s₀.progress = .failed ∨ s₀.progress = .exhausted := by
      rw [hstreams.items_eq] at hother
      rcases not_slot_of_mem_streamOf hother hslot with hfault | hended
      · exact Or.inl (hstreams.draws.failed_iff.2 hfault)
      · exact hstreams.progress_of_ended hended
    rw [(next_of_ended hended hitem).2.1]
  · intro hnothing
    obtain rfl : item = none := by simpa using hnothing
    by_cases hended : s₀.progress = .failed ∨ s₀.progress = .exhausted
    · exact Or.inr (next_of_ended hended hitem).1
    · have hlive : s₀.progress ≠ .failed ∧ s₀.progress ≠ .exhausted := not_or.1 hended
      obtain ⟨rfl, rfl⟩ := hstreams.of_live hlive
      obtain ⟨-, hstands⟩ := stands_of_reaches hbefore
      rcases next_cases hstands hlive hitem with ⟨r, hr, -⟩ | ⟨-, hpages, -⟩
      · simp at hr
      · left
        by_contra hne
        obtain ⟨first, hfirst, -⟩ := hstreams.counts hbefore hne
        simp [hpages] at hfirst

/-- Whatever comes back, a session that is read item by item gives its slots, then one fault at
most, and then nothing, without a request. All of its page fetches succeed but for the last one, if
there is a fault: it is that of this fetch, and not that for reading on behind the last record.
Without a fault the stream has as many slots when it ends as the first page has promised, and it
does end: there are never more. -/
theorem next_gives_stream (hrun : Reaches search steps s)
    (hnext : ∀ step ∈ steps, step.command = .next)
    (htransport : ∀ event ∈ history steps, event.reply ≠ .error .exhausted) :
    ∃ fault ended, items steps = streamOf (delivered steps) fault ended ∧
      (start search s.complaint).Flows (history steps) fault s ∧ fault ≠ some .exhausted ∧
      (fault = none → steps ≠ [] → ∃ first, (pages (history steps)).head? = some first ∧
        (delivered steps).length ≤ first.total ∧
        (0 < ended → (delivered steps).length = first.total)) ∧
      ∀ before step after, steps = before ++ step :: after →
        ((∃ item ∈ items before, ∀ slot, item ≠ some (.ok slot)) → step.answer = .next none) ∧
        (step.answer = .next none → before = [] ∨ step.events = []) := by
  obtain ⟨fault, ended, hstreams⟩ := streams_of_reaches hrun hnext
  refine ⟨fault, ended, hstreams.items_eq, hstreams.draws.flows,
    hstreams.draws.flows.ne_exhausted htransport, ?_, ?_⟩
  · rintro rfl hne
    exact hstreams.counts hrun hne
  · rintro before step after rfl
    exact nothing_of_ended hrun hnext

/-- One record of two, then a page that cannot be fetched: the stream gives the record, the fault
of the second fetch, and nothing any more. -/
theorem next_gives_stream_fault :
    let search : Search := ⟨"http://host/sru", "moon", none, none, .standard⟩
    let body := "<searchRetrieveResponse><numberOfRecords>2</numberOfRecords><records><record>" ++
      "<recordData>m</recordData></record></records></searchRetrieveResponse>"
    let calls : List (Command × List Reply) :=
      [(.next, [.ok body]), (.next, [.ok "busy", .error (.io "reset")]), (.next, [.ok body]),
        (.next, [])]
    let fault : Fault := .fetchFailed 2 "IO error: reset" none
    ∃ steps s, (start search).play (.transport "") calls = (steps, s) ∧
      items steps = [some (.ok (.record "m")), some (.error fault), none, none] ∧
      (start search s.complaint).Flows (history steps) (some fault) s := by
  intro search body calls fault
  have hplayed :
      items ((start search).play (.transport "") calls).1 =
        [some (.ok (.record "m")), some (.error fault), none, none] ∧
      (∀ step ∈ ((start search).play (.transport "") calls).1, step.command = .next) ∧
      ∀ event ∈ history ((start search).play (.transport "") calls).1,
        event.reply ≠ .error .exhausted := by
    decide +kernel
  have hrun := @reaches_play search (.transport "") calls
  generalize (start search).play (.transport "") calls = played at hplayed hrun ⊢
  obtain ⟨steps, s⟩ := played
  obtain ⟨hitems, hnext, htransport⟩ := hplayed
  obtain ⟨fault', ended, hstream, hflows, -⟩ := next_gives_stream hrun hnext htransport
  refine ⟨steps, s, rfl, hitems, ?_⟩
  have hfault : fault' = some fault := by
    have hmem : some (.error fault) ∈ streamOf (delivered steps) fault' ended := by
      rw [← hstream, hitems]
      simp
    simpa [streamOf, Option.mem_toList] using hmem
  exact hfault ▸ hflows

end Session

end SearchRetrieve
