import SearchRetrieve.Proofs.Retrieval.Request
import SearchRetrieve.Proofs.Retrieval.Run

/-!
# How a session stands

Whatever a server answers, the parts of a session fit together after every call: the total and the
facets are those of the first accepted page, the position never passes the total, and it lies on
the loaded page or just behind it. A call moves the position by the slot that it brings, and it
asks for nothing but the record at the position.
-/
namespace SearchRetrieve

/-- Every request asks for the record at a position. By the first page that was accepted before the
request there is such a record. -/
def Search.AsksNext (search : Search) (accepted : List Page) (position : Nat)
    (events : List Event) : Prop :=
  ∀ earlier event later, events = earlier ++ event :: later →
    search.AsksFor event.url (position + 1) ∧
      ∀ first, (accepted ++ pages earlier).head? = some first → position < first.total

namespace Search.AsksNext

variable {search : Search} {accepted : List Page} {position : Nat} {events later : List Event}

theorem nil : search.AsksNext accepted position [] := by
  intro earlier event later h
  simp at h

theorem cons {event : Event} (hasks : search.AsksFor event.url (position + 1))
    (hfirst : ∀ first, accepted.head? = some first → position < first.total)
    (h : search.AsksNext (accepted ++ pages [event]) position later) :
    search.AsksNext accepted position (event :: later) := by
  intro earlier other rest hsplit
  cases earlier with
  | nil =>
    obtain ⟨rfl, -⟩ := List.cons.inj hsplit
    exact ⟨hasks, by simpa [pages] using hfirst⟩
  | cons event' earlier =>
    obtain ⟨rfl, hlater⟩ := List.cons.inj hsplit
    have hrest := h earlier other rest hlater
    rwa [List.append_assoc, ← pages_append] at hrest

theorem append (h : search.AsksNext accepted position events)
    (hlater : search.AsksNext (accepted ++ pages events) position later) :
    search.AsksNext accepted position (events ++ later) := by
  induction events generalizing accepted with
  | nil => simpa [pages] using hlater
  | cons event events ih =>
    obtain ⟨hasks, hfirst⟩ := h [] event events rfl
    refine cons hasks (by simpa [pages] using hfirst) (ih ?_ ?_)
    · intro earlier other rest hsplit
      have hrest := h (event :: earlier) other rest (by rw [hsplit]; rfl)
      rwa [List.append_assoc, ← pages_append]
    · rwa [List.append_assoc, ← pages_append]

end Search.AsksNext

namespace Session

structure Waiting (s : Session) : Prop where
  total_eq : s.total = none
  facets_eq : s.facets = []
  nextIndex_eq : s.nextIndex = 0
  page_eq : s.page = []
  progress_cases : s.progress = .unstarted ∨ s.progress = .failed

/-- Pages have been accepted, and this is the first of them. -/
structure Reading (first : Page) (s : Session) : Prop where
  total_eq : s.total = some first.total
  facets_eq : s.facets = first.facets
  total_lt : first.total < UInt64.size
  nextIndex_le : s.nextIndex ≤ first.total
  exhausted_iff : s.progress = .exhausted ↔ s.nextIndex = first.total
  pageLoaded_lt : s.progress = .pageLoaded → s.nextIndex < first.total
  progress_ne : s.progress ≠ .unstarted
  offset_le : s.cursor.offset ≤ s.nextIndex
  nextIndex_le_page : s.nextIndex ≤ s.cursor.offset + max 1 s.page.length

/-- How a session stands after some pages have been accepted, the first of them in front. -/
def Stands (s : Session) : List Page → Prop
  | [] => s.Waiting
  | first :: _ => s.Reading first

variable {s s' : Session} {accepted : List Page} {events later : List Event}

theorem stands_start (search : Search) (complaint : Xml.Complaint) :
    (start search complaint).Stands [] where
  total_eq := rfl
  facets_eq := rfl
  nextIndex_eq := rfl
  page_eq := rfl
  progress_cases := Or.inl rfl

theorem Reading.knownTotal_eq {first : Page} (h : s.Reading first) :
    s.knownTotal = first.total := by
  simp [knownTotal, h.total_eq]

namespace Stands

theorem agrees (h : s.Stands accepted) (hagrees : s.Agrees s') : s'.Stands accepted := by
  obtain ⟨_, _, rfl⟩ := hagrees
  cases accepted with
  | nil => exact ⟨h.total_eq, h.facets_eq, h.nextIndex_eq, h.page_eq, h.progress_cases⟩
  | cons first others =>
    exact ⟨h.total_eq, h.facets_eq, h.total_lt, h.nextIndex_le, h.exhausted_iff, h.pageLoaded_lt,
      h.progress_ne, h.offset_le, h.nextIndex_le_page⟩

def Ahead (s : Session) (accepted : List Page) : Prop :=
  ∀ first, accepted.head? = some first → s.nextIndex < first.total

/-- A page that begins at the position is taken over. -/
theorem accept (h : s.Stands accepted) (hahead : Ahead s accepted) {page : Page}
    (hpage : page.total < UInt64.size) :
    (s.accept (s.cursor.moveTo s.nextIndex) page).Stands (accepted ++ [page]) := by
  cases accepted with
  | nil =>
    have hzero : s.nextIndex = 0 := h.nextIndex_eq
    have htotal : s.total = none := h.total_eq
    exact {
      total_eq := by simp [Session.accept, htotal]
      facets_eq := by simp [Session.accept, htotal]
      total_lt := hpage
      nextIndex_le := by simp [Session.accept, hzero]
      exhausted_iff := by
        simp only [Session.accept, htotal, hzero, Option.getD_none]
        split <;> simp <;> omega
      pageLoaded_lt := by
        simp only [Session.accept, htotal, hzero, Option.getD_none]
        split <;> simp
        omega
      progress_ne := by
        simp only [Session.accept]
        split <;> simp
      offset_le := Nat.le_refl _
      nextIndex_le_page := Nat.le_add_right _ _ }
  | cons first others =>
    have htotal : s.total = some first.total := h.total_eq
    have hlt : s.nextIndex < first.total := hahead first rfl
    have hprogress : (s.accept (s.cursor.moveTo s.nextIndex) page).progress = .pageLoaded := by
      simp [Session.accept, htotal, hlt]
    exact {
      total_eq := by simp [Session.accept, htotal]
      facets_eq := by simp [Session.accept, htotal, h.facets_eq]
      total_lt := h.total_lt
      nextIndex_le := h.nextIndex_le
      exhausted_iff := by
        rw [hprogress]
        simpa [Session.accept] using Nat.ne_of_lt hlt
      pageLoaded_lt := fun _ => hlt
      progress_ne := by simp [hprogress]
      offset_le := Nat.le_refl _
      nextIndex_le_page := Nat.le_add_right _ _ }

theorem fail (h : s.Stands accepted) (hahead : Ahead s accepted) :
    { s with progress := .failed }.Stands accepted := by
  cases accepted with
  | nil => exact ⟨h.total_eq, h.facets_eq, h.nextIndex_eq, h.page_eq, Or.inr rfl⟩
  | cons first others =>
    have hlt : s.nextIndex < first.total := hahead first rfl
    exact ⟨h.total_eq, h.facets_eq, h.total_lt, h.nextIndex_le, by simpa using Nat.ne_of_lt hlt,
      fun _ => hlt, by simp, h.offset_le, h.nextIndex_le_page⟩

end Stands

/-- What happens between two sessions when pages have been accepted before: requests for the record
at the position, and a number of records delivered at the end. -/
structure Advances (accepted : List Page) (s : Session) (events : List Event) (count : Nat)
    (s' : Session) : Prop where
  stands : s'.Stands (accepted ++ pages events)
  search_eq : s'.search = s.search
  asks : s.search.AsksNext accepted s.nextIndex events
  nextIndex_eq : s'.nextIndex = s.nextIndex + count

namespace Advances

theorem refl (h : s.Stands accepted) : Advances accepted s [] 0 s where
  stands := by simpa [pages] using h
  search_eq := rfl
  asks := .nil
  nextIndex_eq := rfl

theorem trans {s₁ : Session} {count : Nat} (h : Advances accepted s events 0 s₁)
    (h' : Advances (accepted ++ pages events) s₁ later count s') :
    Advances accepted s (events ++ later) count s' where
  stands := by
    rw [pages_append, ← List.append_assoc]
    exact h'.stands
  search_eq := h'.search_eq.trans h.search_eq
  asks := by
    apply h.asks.append
    have hasks := h'.asks
    rwa [h.search_eq, h.nextIndex_eq] at hasks
  nextIndex_eq := by rw [h'.nextIndex_eq, h.nextIndex_eq, Nat.add_zero]

end Advances

namespace Stands

/-- The requests of a fetch ask for the record at the position; only the last one can have brought
a page. -/
theorem fetch_asks {r : Except Fault Unit} (hahead : Ahead s accepted)
    (hbound : s.nextIndex + 1 < UInt64.size) (hfetch : s.Fetch s.nextIndex events r s') :
    s.search.AsksNext accepted s.nextIndex events := by
  have hurl (continuing : Bool) : s.search.AsksFor
      (s.search.url (s.cursor.moveTo s.nextIndex) continuing) (s.nextIndex + 1) :=
    ⟨_, _, rfl, Nat.mod_eq_of_lt hbound⟩
  have hone (reply : Reply) (continuing : Bool) : s.search.AsksNext accepted s.nextIndex
      [⟨s.search.url (s.cursor.moveTo s.nextIndex) continuing, reply⟩] :=
    .cons (hurl continuing) hahead .nil
  have htwo {first : Reply} {failed : FailedAttempt} (second : Reply)
      (hfailed : Page.ofReply s.complaint first = .error failed) :
      s.search.AsksNext accepted s.nextIndex
        [⟨s.firstUrl s.nextIndex, first⟩, ⟨s.secondUrl s.nextIndex, second⟩] := by
    apply Search.AsksNext.cons (hurl _) hahead
    have hnone : pages [⟨s.firstUrl s.nextIndex, first⟩] = [] := by
      simp [pages, Event.page?_of_failed hfailed]
    rw [hnone, List.append_nil]
    exact hone second false
  cases hfetch with
  | accepted => exact hone _ _
  | stopped => exact hone _ _
  | acceptedAgain hfailed => exact htwo _ hfailed
  | stoppedAgain hfailed => exact htwo _ hfailed
  | givenUp hfailed => exact htwo _ hfailed

/-- A fetch at the position takes over one page, or the session has failed where it stood. -/
theorem fetch {r : Except Fault Unit} (h : s.Stands accepted) (hahead : Ahead s accepted)
    (hfetch : s.Fetch s.nextIndex events r s') :
    Advances accepted s events 0 s' ∧
      (r = .ok () → s'.total.isSome ∧ s'.cursor.offset = s.nextIndex) := by
  have hbound : s.nextIndex + 1 < UInt64.size := by
    cases accepted with
    | nil =>
      have hzero : s.nextIndex = 0 := h.nextIndex_eq
      rw [hzero]
      decide
    | cons first others =>
      have hlt : first.total < UInt64.size := h.total_lt
      have := hahead first rfl
      omega
  have hasks := fetch_asks hahead hbound hfetch
  rcases hfetch.result with ⟨event, page, continuing, hevent, hpage, hpages, -, rfl, hagrees⟩ |
    ⟨fault, rfl, hpages, hagrees⟩
  · have htotal := Event.page?_total_lt hpage
    have hstands := (h.accept hahead htotal).agrees hagrees
    obtain ⟨_, _, rfl⟩ := hagrees
    exact ⟨⟨by rwa [hpages], rfl, hasks, rfl⟩, fun _ => ⟨rfl, rfl⟩⟩
  · have hstands := (h.fail hahead).agrees hagrees
    obtain ⟨_, _, rfl⟩ := hagrees
    exact ⟨⟨by rwa [hpages, List.append_nil], rfl, hasks, rfl⟩, by simp⟩

theorem ensureStarted {r : Except Fault Unit} (h : s.Stands accepted)
    (hyields : s.ensureStarted.Yields events (r, s')) :
    Advances accepted s events 0 s' ∧ (r = .ok () → s'.total.isSome) := by
  rcases ensureStarted_yields hyields with ⟨hsome, rfl, rfl, rfl⟩ | ⟨hnone, hfetch⟩
  · exact ⟨.refl h, fun _ => hsome⟩
  · cases accepted with
    | nil =>
      have hzero : s.nextIndex = 0 := h.nextIndex_eq
      rw [← hzero] at hfetch
      have hahead : Ahead s [] := by simp [Ahead]
      obtain ⟨hadvances, hok⟩ := h.fetch hahead hfetch
      exact ⟨hadvances, fun hr => (hok hr).1⟩
    | cons first others =>
      have hsome : s.total = some first.total := h.total_eq
      rw [hsome] at hnone
      simp at hnone

/-- After a start the first page is known. -/
theorem reading (h : s.Stands accepted) (hsome : s.total.isSome) :
    ∃ first others, accepted = first :: others ∧ s.Reading first := by
  cases accepted with
  | nil =>
    have hnone : s.total = none := h.total_eq
    rw [hnone] at hsome
    simp at hsome
  | cons first others => exact ⟨first, others, rfl, h⟩

/-- Past the last record there is nothing to change. -/
theorem exhausted_eq (h : s.Stands accepted) (hsome : s.total.isSome)
    (hend : s.knownTotal ≤ s.nextIndex) : { s with progress := .exhausted } = s := by
  obtain ⟨first, others, -, hreading⟩ := h.reading hsome
  have hle := hreading.nextIndex_le
  rw [hreading.knownTotal_eq] at hend
  rw [← hreading.exhausted_iff.2 (by omega)]

/-- The page of the record at the position is loaded, or a page that begins there, however short. -/
theorem ensureLoaded {r : Except Fault Unit} (h : s.Stands accepted)
    (hnext : s.nextIndex < s.knownTotal) (hyields : s.ensureLoaded.Yields events (r, s')) :
    Advances accepted s events 0 s' ∧
      (r = .ok () → s'.total.isSome ∧ s'.nextIndex < s'.knownTotal ∧
        s'.nextIndex + 1 ≤ s'.cursor.offset + max 1 s'.page.length) := by
  have hsome : s.total.isSome := by
    cases htotal : s.total <;> simp_all [knownTotal]
  obtain ⟨first, others, rfl, hreading⟩ := h.reading hsome
  rcases ensureLoaded_yields hyields with ⟨⟨-, hloaded⟩, rfl, rfl, rfl⟩ | ⟨-, hfetch⟩
  · exact ⟨.refl h, fun _ => ⟨hsome, hnext, by omega⟩⟩
  · have hahead : Ahead s (first :: others) := by
      rintro _ ⟨rfl⟩
      rwa [hreading.knownTotal_eq] at hnext
    obtain ⟨hadvances, hok⟩ := h.fetch hahead hfetch
    refine ⟨hadvances, fun hr => ?_⟩
    obtain ⟨hsome', hoffset⟩ := hok hr
    have hreading' : s'.Reading first := hadvances.stands
    have hindex := hadvances.nextIndex_eq
    rw [hreading.knownTotal_eq] at hnext
    exact ⟨hsome', by rw [hreading'.knownTotal_eq]; omega, by omega⟩

theorem deliver (h : s.Stands accepted) (hsome : s.total.isSome)
    (hnext : s.nextIndex < s.knownTotal)
    (hpage : s.nextIndex + 1 ≤ s.cursor.offset + max 1 s.page.length) :
    Advances accepted s [] 1 s.deliver.2 := by
  obtain ⟨first, others, rfl, hreading⟩ := h.reading hsome
  have htotal := hreading.knownTotal_eq
  have hoffset := hreading.offset_le
  have hne : s.progress ≠ .exhausted := by
    intro hend
    have := hreading.exhausted_iff.1 hend
    omega
  obtain ⟨_, _, hdelivered⟩ := s.deliver_agrees
  rw [hdelivered]
  refine ⟨?_, rfl, .nil, rfl⟩
  exact {
    total_eq := hreading.total_eq
    facets_eq := hreading.facets_eq
    total_lt := hreading.total_lt
    nextIndex_le := by
      change s.nextIndex + 1 ≤ first.total
      omega
    exhausted_iff := by
      dsimp only
      split
      · simp
        omega
      · simp only [hne, false_iff]
        omega
    pageLoaded_lt := by
      dsimp only
      split
      · simp
      · omega
    progress_ne := by
      dsimp only
      split
      · simp
      · exact hreading.progress_ne
    offset_le := Nat.le_succ_of_le hoffset
    nextIndex_le_page := hpage }

theorem nextRecord {r : Except Fault RecordSlot} (h : s.Stands accepted)
    (hyields : s.nextRecord.Yields events (r, s')) :
    Advances accepted s events r.toOption.toList.length s' := by
  rcases nextRecord_yields hyields with ⟨fault, rfl, hstarted⟩ | ⟨s₁, hstarted, hend, rfl, rfl⟩ |
    ⟨first, later, s₁, rfl, hstarted, hnext, hrest⟩
  · exact (h.ensureStarted hstarted).1
  · obtain ⟨hadvances, hok⟩ := h.ensureStarted hstarted
    rw [hadvances.stands.exhausted_eq (hok rfl) hend]
    exact hadvances
  · obtain ⟨hstart, -⟩ := h.ensureStarted hstarted
    rcases hrest with ⟨fault, rfl, hloading⟩ | ⟨s₂, hloading, rfl, rfl⟩
    · exact hstart.trans (hstart.stands.ensureLoaded hnext hloading).1
    · obtain ⟨hload, hok⟩ := hstart.stands.ensureLoaded hnext hloading
      obtain ⟨hsome, hnext', hpage⟩ := hok rfl
      have hdelivery := hload.stands.deliver hsome hnext' hpage
      have hall := hstart.trans (hload.trans hdelivery)
      rwa [List.append_nil] at hall

theorem observe {α : Type} {f : Session → α} {r : Except Fault α} (h : s.Stands accepted)
    (hyields : (s.observe f).Yields events (r, s')) :
    Advances accepted s events 0 s' ∧ ∀ a, r = .ok a → a = f s' ∧ s'.total.isSome := by
  obtain ⟨started, hstarted, rfl⟩ := observe_yields hyields
  obtain ⟨hadvances, hok⟩ := h.ensureStarted hstarted
  cases started with
  | error fault => exact ⟨hadvances, by simp [Except.map]⟩
  | ok => exact ⟨hadvances, by simp [Except.map, hok rfl]⟩

theorem next {item : Option (Except Fault RecordSlot)} (h : s.Stands accepted)
    (hyields : s.next.Yields events (item, s')) :
    Advances accepted s events (item.bind Except.toOption).toList.length s' := by
  rcases next_yields hyields with ⟨-, rfl, rfl, rfl⟩ | ⟨fault, hmore, rfl⟩ | ⟨s₁, hmore, rfl, rfl⟩ |
    ⟨first, later, s₁, r, rfl, hmore, hrecord, rfl⟩
  · exact .refl h
  · rw [hasNext_eq_observe] at hmore
    exact (h.observe hmore).1
  · rw [hasNext_eq_observe] at hmore
    obtain ⟨hadvances, hok⟩ := h.observe hmore
    obtain ⟨hend, hsome⟩ := hok false rfl
    have hle : s₁.knownTotal ≤ s₁.nextIndex := by simpa using hend
    rw [hadvances.stands.exhausted_eq hsome hle]
    exact hadvances
  · rw [hasNext_eq_observe] at hmore
    obtain ⟨hadvances, -⟩ := h.observe hmore
    exact hadvances.trans (hadvances.stands.nextRecord hrecord)

theorem perform {command : Command} {answer : Answer} (h : s.Stands accepted)
    (hyields : (s.perform command).Yields events (answer, s')) :
    Advances accepted s events answer.slot?.toList.length s' := by
  rcases perform_yields hyields with ⟨r, rfl, hcall⟩ | ⟨r, rfl, hcall⟩ | ⟨r, rfl, hcall⟩ |
    ⟨item, rfl, hcall⟩
  · rw [size_eq_observe] at hcall
    exact (h.observe hcall).1
  · rw [hasNext_eq_observe] at hcall
    exact (h.observe hcall).1
  · have hadvances := h.nextRecord hcall
    cases r <;> exact hadvances
  · have hadvances := h.next hcall
    rcases item with _ | _ | slot <;> exact hadvances

end Stands

/-- Every run leads to a session of its search that stands where the accepted pages put it. -/
theorem stands_of_reaches {search : Search} {steps : List Step} (h : Reaches search steps s) :
    s.search = search ∧ s.Stands (pages (history steps)) := by
  induction h with
  | start complaint => exact ⟨rfl, stands_start search complaint⟩
  | @step steps s₀ s₁ command events answer _ hcall ih =>
    obtain ⟨hsearch, hstands⟩ := ih
    have hadvances := hstands.perform hcall
    have hhistory : history (steps ++ [⟨command, events, answer⟩]) = history steps ++ events := by
      simp [history]
    rw [hhistory, pages_append]
    exact ⟨hadvances.search_eq.trans hsearch, hadvances.stands⟩

theorem nextIndex_of_reaches {search : Search} {steps : List Step} (h : Reaches search steps s) :
    s.nextIndex = (delivered steps).length := by
  induction h with
  | start => rfl
  | @step steps s₀ s₁ command events answer hbefore hcall ih =>
    obtain ⟨-, hstands⟩ := stands_of_reaches hbefore
    rw [(hstands.perform hcall).nextIndex_eq, ih]
    cases hslot : answer.slot? <;> simp [delivered, hslot]

/-- The parts of a session fit together wherever a run has come to, whatever its server has
answered. The next call, whichever it is, moves the position by the slot that it brings and by
nothing else, leaves the total and the facets once they are known, and asks for the record at the
position alone, which is there as far as is known. -/
theorem stands_whatever_answers {search : Search} {steps : List Step}
    (hrun : Reaches search steps s) :
    s.Stands (pages (history steps)) ∧
      ∀ command events answer s', (s.perform command).Yields events (answer, s') →
        s'.nextIndex = s.nextIndex + (if answer.slot?.isSome then 1 else 0) ∧
        (∀ total, s.total = some total → s'.total = some total ∧ s'.facets = s.facets) ∧
        search.AsksNext (pages (history steps)) s.nextIndex events := by
  obtain ⟨rfl, hstands⟩ := stands_of_reaches hrun
  refine ⟨hstands, fun command events answer s' hcall => ?_⟩
  have hadvances := hstands.perform hcall
  refine ⟨?_, fun total htotal => ?_, hadvances.asks⟩
  · rw [hadvances.nextIndex_eq]
    cases answer.slot? <;> rfl
  · obtain ⟨first, others, hpages, hreading⟩ := hstands.reading (by simp [htotal])
    have hstands' := hadvances.stands
    rw [hpages] at hstands'
    have hreading' : s'.Reading first := hstands'
    rw [hreading'.total_eq, ← hreading.total_eq, hreading'.facets_eq, hreading.facets_eq]
    exact ⟨htotal, rfl⟩

/-- A server that promises two records, then nine, and gives none: the session stands at its second
record, and no call makes it believe in nine. -/
theorem stands_whatever_answers_lies :
    let search : Search := ⟨"", "moon", none, none, .standard⟩
    let body (total : String) := "<searchRetrieveResponse><numberOfRecords>" ++ total ++
      "</numberOfRecords></searchRetrieveResponse>"
    let calls : List (Command × List Reply) :=
      [(.size, [.ok (body "2")]), (.nextRecord, [.ok (body "9")]), (.nextRecord, [])]
    ∃ steps s, (start search).play (.io "") calls = (steps, s) ∧
      s.Reading ⟨2, none, [], [], []⟩ ∧ s.nextIndex = 1 ∧ s.progress = .failed ∧
      ∀ command events answer s', (s.perform command).Yields events (answer, s') →
        s'.total = some 2 := by
  intro search body calls
  have hplayed : pages (history ((start search).play (.io "") calls).1) =
        [⟨2, none, [], [], []⟩, ⟨9, none, [], [], []⟩] ∧
      ((start search).play (.io "") calls).2.nextIndex = 1 ∧
      ((start search).play (.io "") calls).2.progress = .failed := by
    decide +kernel
  have hrun := @reaches_play search (.io "") calls
  rcases hplay : (start search).play (.io "") calls with ⟨steps, s⟩
  rw [hplay] at hplayed hrun
  obtain ⟨hpages, hindex, hprogress⟩ := hplayed
  obtain ⟨hstands, hcalls⟩ := stands_whatever_answers hrun
  rw [hpages] at hstands
  have hreading : s.Reading ⟨2, none, [], [], []⟩ := hstands
  refine ⟨steps, s, rfl, hreading, hindex, hprogress, fun command events answer s' hcall => ?_⟩
  exact ((hcalls command events answer s' hcall).2.1 2 hreading.total_eq).1

end Session

end SearchRetrieve
