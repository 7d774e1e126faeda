import SearchRetrieve.Proofs.Retrieval.Request
import SearchRetrieve.Proofs.Retrieval.Run

/-!
# What a session delivers

A server answers from a list of payloads. It may fail in any reply, and its pages may have any
length. However the calls of a run are ordered and whichever of them fail, the session delivers
the slots of the list in order, each of them once.
-/
namespace SearchRetrieve

def recordSlots (payloads : List (Option String)) : List RecordSlot :=
  payloads.mapIdx RecordSlot.ofPayload

/-- The records of the page are those from the position that the URL asks for on, one at least if
there is one. -/
def Search.Serves (search : Search) (payloads : List (Option String)) (url : String)
    (page : Page) : Prop :=
  ∃ position, search.AsksFor url (position + 1) ∧ page.records <+: payloads.drop position ∧
    (position < payloads.length → page.records ≠ [])

/-- Every reply that gives a page serves the payloads, and the first of these pages gives their
number. Other replies, and what else is in a page, are free. -/
structure Honest (search : Search) (payloads : List (Option String)) (events : List Event) :
    Prop where
  serves : ∀ event ∈ events, ∀ page, event.page? = some page →
    search.Serves payloads event.url page
  total : ∀ page, (pages events).head? = some page → page.total = payloads.length

variable {search : Search} {payloads : List (Option String)} {past events later : List Event}

theorem Honest.of_append (h : Honest search payloads (events ++ later)) :
    Honest search payloads events where
  serves event hevent := h.serves event (List.mem_append_left _ hevent)
  total page hpage := by
    apply h.total page
    rw [pages_append, List.head?_append, hpage]
    rfl

/-- A server is honest if it gives one page only, and this page is right. -/
theorem honest_of_page (page : Page) (htotal : page.total = payloads.length)
    (h : ∀ event ∈ events, event.page? = none ∨
      (event.page? = some page ∧ search.Serves payloads event.url page)) :
    Honest search payloads events where
  serves event hevent other hother := by
    rcases h event hevent with hnone | ⟨hsome, hserves⟩
    · simp [hnone] at hother
    · rw [hsome] at hother
      cases hother
      exact hserves
  total other hother := by
    obtain ⟨event, hevent, hpage⟩ := List.mem_filterMap.1 (List.mem_of_head? hother)
    rcases h event hevent with hnone | ⟨hsome, -⟩
    · simp [hnone] at hpage
    · rw [hsome] at hpage
      cases hpage
      exact htotal

namespace Session

variable {s s' : Session} {r : Except Fault Unit}

/-- The session is where the list of payloads and the pages so far put it. -/
structure Tracks (search : Search) (payloads : List (Option String)) (past : List Event)
    (s : Session) : Prop where
  search_eq : s.search = search
  total_eq : s.total = (pages past).head?.map Page.total
  nextIndex_le : s.nextIndex ≤ s.knownTotal
  page_run : s.page <+: payloads.drop s.cursor.offset

theorem tracks_start (complaint : Xml.Complaint) :
    Tracks search payloads [] (start search complaint) where
  search_eq := rfl
  total_eq := rfl
  nextIndex_le := Nat.le_refl 0
  page_run := List.nil_prefix

namespace Tracks

/-- The number of records is unknown before the first page, and then it is the number of
payloads. -/
theorem total_cases (h : Tracks search payloads past s) (hserver : Honest search payloads past) :
    (pages past = [] ∧ s.total = none) ∨
      (pages past ≠ [] ∧ s.total = some payloads.length ∧ payloads.length < UInt64.size) := by
  have htotal := h.total_eq
  cases hpages : pages past with
  | nil => exact Or.inl ⟨rfl, by simpa [hpages] using htotal⟩
  | cons page others =>
    right
    have hlength : page.total = payloads.length := hserver.total page (by simp [hpages])
    have hmem : page ∈ pages past := by simp [hpages]
    obtain ⟨event, -, hevent⟩ := List.mem_filterMap.1 hmem
    have hlt := Event.page?_total_lt hevent
    rw [hlength] at hlt
    exact ⟨by simp, by simpa [hpages, hlength] using htotal, hlt⟩

theorem total_of_isSome (h : Tracks search payloads past s)
    (hserver : Honest search payloads past) (hsome : s.total.isSome) :
    s.total = some payloads.length ∧ payloads.length < UInt64.size := by
  rcases h.total_cases hserver with ⟨-, hnone⟩ | ⟨-, htotal⟩
  · simp [hnone] at hsome
  · exact htotal

theorem withProgress (h : Tracks search payloads past s) (progress : Progress) :
    Tracks search payloads past { s with progress := progress } :=
  ⟨h.search_eq, h.total_eq, h.nextIndex_le, h.page_run⟩

/-- A fetch keeps the session on its track. If it gives a page, this begins where it was asked
for and is not empty before the end. -/
theorem fetch {offset : Nat} (h : Tracks search payloads past s)
    (hfetch : s.Fetch offset events r s') (hserver : Honest search payloads (past ++ events))
    (hoffset : offset + 1 < UInt64.size) :
    Tracks search payloads (past ++ events) s' ∧ s'.nextIndex = s.nextIndex ∧
      (r = .ok () → s'.total.isSome ∧ s'.cursor.offset = offset ∧
        (offset < payloads.length → s'.page ≠ [])) ∧
      ∀ fault, r = .error fault → pages events = [] := by
  rcases hfetch.result with
    ⟨event, page, continuing, hevent, hpage, hpages, hurl, rfl, _, _, rfl⟩ |
    ⟨fault, rfl, hpages, _, _, rfl⟩
  · obtain ⟨position, hasks, hrun, hne⟩ := hserver.serves event (by simp [hevent]) page hpage
    have hstart : (s.cursor.moveTo offset).startRecord = offset + 1 :=
      Nat.mod_eq_of_lt hoffset
    -- the server saw only the URL, which tells the position
    have hposition : position = offset := by
      have hasks' : search.AsksFor event.url (offset + 1) :=
        ⟨s.cursor.moveTo offset, continuing, by rw [hurl, h.search_eq], hstart⟩
      have := Search.asksFor_unique hasks hasks'
      omega
    subst hposition
    refine ⟨⟨h.search_eq, ?_, ?_, hrun⟩, rfl, fun _ => ⟨rfl, rfl, hne⟩, by simp⟩
    · have htotal := h.total_eq
      rw [pages_append, hpages]
      cases hpast : pages past <;> simp_all [Session.accept]
    · have hindex := h.nextIndex_le
      cases htotal : s.total <;> simp_all [Session.accept, knownTotal]
  · refine ⟨⟨h.search_eq, ?_, h.nextIndex_le, h.page_run⟩, rfl, by simp, fun _ _ => hpages⟩
    rw [pages_append, hpages, List.append_nil]
    exact h.total_eq

/-- Before the first page no record has been read. -/
theorem nextIndex_eq_zero (h : Tracks search payloads past s) (htotal : s.total = none) :
    s.nextIndex = 0 := by
  have hindex := h.nextIndex_le
  simp only [knownTotal, htotal, Option.getD_none] at hindex
  omega

theorem nextIndex_le_length (h : Tracks search payloads past s)
    (hserver : Honest search payloads past) : s.nextIndex ≤ payloads.length := by
  rcases h.total_cases hserver with ⟨-, htotal⟩ | ⟨-, htotal, -⟩
  · rw [h.nextIndex_eq_zero htotal]
    exact Nat.zero_le _
  · simpa [knownTotal, htotal] using h.nextIndex_le

/-- A start brings the number of records and, if it asks for a page, the next record; without any
page it brings a fault. -/
theorem ensureStarted (h : Tracks search payloads past s)
    (hyields : s.ensureStarted.Yields events (r, s'))
    (hserver : Honest search payloads (past ++ events)) :
    Tracks search payloads (past ++ events) s' ∧ s'.nextIndex = s.nextIndex ∧
      (r = .ok () → s'.total = some payloads.length ∧
        (events = [] ∨ (s'.nextIndex < payloads.length → s'.Loaded))) ∧
      ∀ fault, r = .error fault → events ≠ [] ∧ pages (past ++ events) = [] := by
  rcases ensureStarted_yields hyields with ⟨hsome, rfl, rfl, rfl⟩ | ⟨hnone, hfetch⟩
  · rw [List.append_nil] at hserver ⊢
    exact ⟨h, rfl, fun _ => ⟨(h.total_of_isSome hserver hsome).1, Or.inl rfl⟩, by simp⟩
  · obtain ⟨htracks, hindex, hok, herror⟩ := h.fetch hfetch hserver (by decide)
    refine ⟨htracks, hindex, fun hr => ?_, fun fault hr => ⟨hfetch.events_ne_nil, ?_⟩⟩
    · obtain ⟨hsome, hoffset, hne⟩ := hok hr
      refine ⟨(htracks.total_of_isSome hserver hsome).1, Or.inr fun hnext => ?_⟩
      have hzero := h.nextIndex_eq_zero hnone
      have hpage : 0 < s'.page.length := List.length_pos_iff.2 (hne (by omega))
      unfold Loaded
      omega
    · have hpast : pages past = [] := by
        have htotal := h.total_eq
        rw [hnone] at htotal
        simpa using htotal.symm
      rw [pages_append, hpast, herror fault hr, List.nil_append]

/-- A page with the next record, if there is a next record; a fault if there is no page at all. -/
theorem ensureLoaded (h : Tracks search payloads past s) (hnext : s.nextIndex < s.knownTotal)
    (hyields : s.ensureLoaded.Yields events (r, s'))
    (hserver : Honest search payloads (past ++ events)) :
    Tracks search payloads (past ++ events) s' ∧ s'.nextIndex = s.nextIndex ∧
      (r = .ok () → s'.Loaded ∧ s'.total = some payloads.length) ∧
      ∀ fault, r = .error fault → ¬ s.Loaded ∧ events ≠ [] ∧ pages events = [] := by
  have hsome : s.total.isSome := by
    cases htotal : s.total <;> simp_all [knownTotal]
  obtain ⟨htotal, hlt⟩ := h.total_of_isSome hserver.of_append hsome
  have hindex : s.nextIndex < payloads.length := by simpa [knownTotal, htotal] using hnext
  rcases ensureLoaded_yields hyields with ⟨hloaded, rfl, rfl, rfl⟩ | ⟨hloaded, hfetch⟩
  · rw [List.append_nil]
    exact ⟨h, rfl, fun _ => ⟨hloaded, htotal⟩, by simp⟩
  · obtain ⟨htracks, hindex', hok, herror⟩ := h.fetch hfetch hserver (by omega)
    refine ⟨htracks, hindex', fun hr => ?_,
      fun fault hr => ⟨hloaded, hfetch.events_ne_nil, herror fault hr⟩⟩
    obtain ⟨hsome', hoffset, hne⟩ := hok hr
    have hpage : 0 < s'.page.length := List.length_pos_iff.2 (hne hindex)
    have hloaded' : s'.Loaded := by
      unfold Loaded
      omega
    exact ⟨hloaded', (htracks.total_of_isSome hserver hsome').1⟩

/-- The loaded page has the payload of the next position. -/
theorem payload_of_loaded (h : Tracks search payloads past s) (hloaded : s.Loaded) :
    s.page[s.nextIndex - s.cursor.offset]? = payloads[s.nextIndex]? ∧
      s.nextIndex < payloads.length := by
  obtain ⟨hlow, hhigh⟩ := hloaded
  obtain ⟨others, hpage⟩ := h.page_run
  have hpayload : s.page[s.nextIndex - s.cursor.offset]? = payloads[s.nextIndex]? := by
    calc s.page[s.nextIndex - s.cursor.offset]?
        = (s.page ++ others)[s.nextIndex - s.cursor.offset]? :=
          (List.getElem?_append_left (by omega)).symm
      _ = payloads[s.cursor.offset + (s.nextIndex - s.cursor.offset)]? := by
          rw [hpage, List.getElem?_drop]
      _ = payloads[s.nextIndex]? := by rw [Nat.add_sub_cancel' hlow]
  have hinside : s.nextIndex - s.cursor.offset < s.page.length := by omega
  rw [List.getElem?_eq_getElem hinside] at hpayload
  obtain ⟨hindex, -⟩ := List.getElem?_eq_some_iff.1 hpayload.symm
  exact ⟨by rw [List.getElem?_eq_getElem hinside, hpayload], hindex⟩

/-- A delivery brings the slot of the next position. -/
theorem deliver (h : Tracks search payloads past s) (hloaded : s.Loaded)
    (htotal : s.total = some payloads.length) :
    Tracks search payloads past s.deliver.2 ∧
      (recordSlots payloads).take s.deliver.2.nextIndex =
        (recordSlots payloads).take s.nextIndex ++ [s.deliver.1] := by
  obtain ⟨hpayload, hindex⟩ := h.payload_of_loaded hloaded
  have hslot : (recordSlots payloads)[s.nextIndex]? = some s.deliver.1 := by
    rw [deliver_fst, hpayload, recordSlots, List.getElem?_mapIdx, List.getElem?_eq_getElem hindex]
    rfl
  obtain ⟨_, _, hdelivered⟩ := s.deliver_agrees
  rw [hdelivered]
  constructor
  · refine ⟨h.search_eq, h.total_eq, ?_, h.page_run⟩
    simpa [knownTotal, htotal, Nat.succ_le_iff] using hindex
  · rw [List.take_add_one, hslot]
    rfl

/-- The next record is the slot of the next position; a fault leaves the position, and comes only
after the last record or when the server gives no page. -/
theorem nextRecord {r : Except Fault RecordSlot} (h : Tracks search payloads past s)
    (hyields : s.nextRecord.Yields events (r, s'))
    (hserver : Honest search payloads (past ++ events)) :
    Tracks search payloads (past ++ events) s' ∧
      (recordSlots payloads).take s'.nextIndex =
        (recordSlots payloads).take s.nextIndex ++ r.toOption.toList ∧
      ∀ fault, r = .error fault → (fault = .exhausted ∧ payloads.length ≤ s.nextIndex) ∨
        (events ≠ [] ∧ pages events = []) := by
  rcases nextRecord_yields hyields with ⟨fault, rfl, hstarted⟩ | ⟨s₁, hstarted, hend, rfl, rfl⟩ |
    ⟨first, later, s₁, rfl, hstarted, hnext, hrest⟩
  · obtain ⟨htracks, hindex, -, herror⟩ := h.ensureStarted hstarted hserver
    refine ⟨htracks, by simp [hindex, Except.toOption], fun _ _ => Or.inr ?_⟩
    obtain ⟨hne, hpages⟩ := herror fault rfl
    rw [pages_append, List.append_eq_nil_iff] at hpages
    exact ⟨hne, hpages.2⟩
  · obtain ⟨htracks, hindex, hok, -⟩ := h.ensureStarted hstarted hserver
    refine ⟨htracks.withProgress _, by simp [hindex, Except.toOption], fun fault hr => Or.inl ?_⟩
    cases hr
    obtain ⟨htotal, -⟩ := hok rfl
    simp only [knownTotal, htotal, Option.getD_some] at hend
    exact ⟨rfl, by omega⟩
  · rw [← List.append_assoc] at hserver ⊢
    obtain ⟨htracks, hindex, hok, -⟩ := h.ensureStarted hstarted hserver.of_append
    obtain ⟨htotal, hfresh⟩ := hok rfl
    rcases hrest with ⟨fault, rfl, hloading⟩ | ⟨s₂, hloading, rfl, rfl⟩
    · obtain ⟨htracks', hindex', -, herror⟩ := htracks.ensureLoaded hnext hloading hserver
      refine ⟨htracks', by simp [hindex', hindex, Except.toOption], fun _ _ => Or.inr ?_⟩
      obtain ⟨hloaded, hne, hpages⟩ := herror fault rfl
      rcases hfresh with rfl | hfresh
      · exact ⟨hne, hpages⟩
      · have hlt : s₁.nextIndex < payloads.length := by simpa [knownTotal, htotal] using hnext
        exact (hloaded (hfresh hlt)).elim
    · obtain ⟨htracks', hindex', hok', -⟩ := htracks.ensureLoaded hnext hloading hserver
      obtain ⟨hloaded, htotal'⟩ := hok' rfl
      obtain ⟨hdelivered, htake⟩ := htracks'.deliver hloaded htotal'
      exact ⟨hdelivered, by rw [htake, hindex', hindex]; rfl, by simp⟩

/-- A call that only starts the session stays at its position and knows the number of
payloads. -/
theorem observe {α : Type} {f : Session → α} {r : Except Fault α}
    (h : Tracks search payloads past s) (hyields : (s.observe f).Yields events (r, s'))
    (hserver : Honest search payloads (past ++ events)) :
    Tracks search payloads (past ++ events) s' ∧ s'.nextIndex = s.nextIndex ∧
      (∀ a, r = .ok a → a = f s' ∧ s'.knownTotal = payloads.length) ∧
      ∀ fault, r = .error fault → events ≠ [] ∧ pages (past ++ events) = [] := by
  obtain ⟨started, hstarted, rfl⟩ := observe_yields hyields
  obtain ⟨htracks, hindex, hok, herror⟩ := h.ensureStarted hstarted hserver
  refine ⟨htracks, hindex, ?_⟩
  cases started with
  | error fault => exact ⟨by simp [Except.map], fun _ _ => herror fault rfl⟩
  | ok => simp [Except.map, knownTotal, (hok rfl).1]

theorem next {item : Option (Except Fault RecordSlot)} (h : Tracks search payloads past s)
    (hyields : s.next.Yields events (item, s'))
    (hserver : Honest search payloads (past ++ events)) :
    Tracks search payloads (past ++ events) s' ∧
      (recordSlots payloads).take s'.nextIndex =
        (recordSlots payloads).take s.nextIndex ++ (item.bind Except.toOption).toList := by
  rcases next_yields hyields with ⟨-, rfl, rfl, rfl⟩ | ⟨fault, hmore, rfl⟩ | ⟨s₁, hmore, rfl, rfl⟩ |
    ⟨first, later, s₁, r, rfl, hmore, hrecord, rfl⟩
  · rw [List.append_nil]
    exact ⟨h, by simp⟩
  · rw [hasNext_eq_observe] at hmore
    obtain ⟨htracks, hindex, -⟩ := h.observe hmore hserver
    exact ⟨htracks, by simp [hindex, Except.toOption]⟩
  · rw [hasNext_eq_observe] at hmore
    obtain ⟨htracks, hindex, -⟩ := h.observe hmore hserver
    exact ⟨htracks.withProgress _, by simp [hindex]⟩
  · rw [hasNext_eq_observe] at hmore
    rw [← List.append_assoc] at hserver ⊢
    obtain ⟨htracks, hindex, -⟩ := h.observe hmore hserver.of_append
    obtain ⟨htracks', htake, -⟩ := htracks.nextRecord hrecord hserver
    exact ⟨htracks', by rw [htake, hindex]; rfl⟩

/-- A call keeps the session on its track and brings the slot that it steps over. -/
theorem perform {command : Command} {answer : Answer} (h : Tracks search payloads past s)
    (hyields : (s.perform command).Yields events (answer, s'))
    (hserver : Honest search payloads (past ++ events)) :
    Tracks search payloads (past ++ events) s' ∧
      (recordSlots payloads).take s'.nextIndex =
        (recordSlots payloads).take s.nextIndex ++ answer.slot?.toList := by
  rcases perform_yields hyields with ⟨r, rfl, hcall⟩ | ⟨r, rfl, hcall⟩ | ⟨r, rfl, hcall⟩ |
    ⟨item, rfl, hcall⟩
  · rw [size_eq_observe] at hcall
    obtain ⟨htracks, hindex, -⟩ := h.observe hcall hserver
    exact ⟨htracks, by simp [hindex, Answer.slot?]⟩
  · rw [hasNext_eq_observe] at hcall
    obtain ⟨htracks, hindex, -⟩ := h.observe hcall hserver
    exact ⟨htracks, by simp [hindex, Answer.slot?]⟩
  · obtain ⟨htracks, htake, -⟩ := h.nextRecord hcall hserver
    cases r <;> exact ⟨htracks, htake⟩
  · obtain ⟨htracks, htake⟩ := h.next hcall hserver
    rcases item with _ | _ | slot <;> exact ⟨htracks, htake⟩

end Tracks

/-- Wherever a run of an honest server has come to, it has brought the slots of the positions that
it has stepped over. -/
theorem tracks_of_reaches {steps : List Step} (h : Reaches search steps s)
    (hserver : Honest search payloads (history steps)) :
    Tracks search payloads (history steps) s ∧
      delivered steps = (recordSlots payloads).take s.nextIndex := by
  induction h with
  | start complaint => exact ⟨tracks_start complaint, rfl⟩
  | @step steps s₀ s₁ command events answer _ hcall ih =>
    have hhistory : history (steps ++ [⟨command, events, answer⟩]) = history steps ++ events := by
      simp [history]
    rw [hhistory] at hserver ⊢
    obtain ⟨htracks, hdelivered⟩ := ih hserver.of_append
    obtain ⟨htracks', htake⟩ := htracks.perform hcall hserver
    refine ⟨htracks', ?_⟩
    rw [htake, ← hdelivered]
    cases hslot : answer.slot? <;> simp [delivered, hslot]

/-- Every step of a run of an honest server starts on the track. -/
theorem tracks_of_step {before after : List Step} {step : Step}
    (hrun : Reaches search (before ++ step :: after) s)
    (hserver : Honest search payloads (history (before ++ step :: after))) :
    ∃ s₀ s₁, Tracks search payloads (history before) s₀ ∧
      (delivered before).length = s₀.nextIndex ∧
      Honest search payloads (history before ++ step.events) ∧
      (s₀.perform step.command).Yields step.events (step.answer, s₁) := by
  obtain ⟨s₀, s₁, hbefore, hcall⟩ := hrun.at_step
  have hsplit : history (before ++ step :: after) =
      (history before ++ step.events) ++ history after := by
    simp [history]
  rw [hsplit] at hserver
  have hpast := hserver.of_append.of_append
  obtain ⟨htracks, hdelivered⟩ := tracks_of_reaches hbefore hpast
  have hle := htracks.nextIndex_le_length hpast
  refine ⟨s₀, s₁, htracks, ?_, hserver.of_append, hcall⟩
  simp [hdelivered, recordSlots, hle]

/-- A session of an honest server brings every slot once and in order, whatever fails and however
its calls are mixed: what a run has brought are the slots of the positions that it has stepped
over. In the run every size is the number of payloads, and there is said to be a next record just
as long as fewer slots have been brought. These two calls fail only if no page has come yet, and
the next record fails only after the last one or if its requests bring no page. -/
theorem delivers_in_order {steps : List Step} (hrun : Reaches search steps s)
    (hserver : Honest search payloads (history steps)) :
    delivered steps = (recordSlots payloads).take s.nextIndex ∧
      s.nextIndex ≤ payloads.length ∧
      ∀ before step after, steps = before ++ step :: after →
        (∀ n, step.answer = .size (.ok n) → n = payloads.length) ∧
        (∀ more, step.answer = .hasNext (.ok more) →
          (more = true ↔ (delivered before).length < payloads.length)) ∧
        (∀ fault, step.answer = .size (.error fault) ∨ step.answer = .hasNext (.error fault) →
          step.events ≠ [] ∧ pages (history before ++ step.events) = []) ∧
        ∀ fault, step.answer = .nextRecord (.error fault) →
          (fault = .exhausted ∧ (delivered before).length = payloads.length) ∨
            (step.events ≠ [] ∧ pages step.events = []) := by
  obtain ⟨htracks, hdelivered⟩ := tracks_of_reaches hrun hserver
  refine ⟨hdelivered, htracks.nextIndex_le_length hserver, ?_⟩
  rintro before step after rfl
  obtain ⟨s₀, s₁, hstart, hlength, hpast, hcall⟩ := tracks_of_step hrun hserver
  rcases perform_yields hcall with ⟨r, hr, hcall⟩ | ⟨r, hr, hcall⟩ | ⟨r, hr, hcall⟩ | ⟨item, hr, -⟩
  · rw [size_eq_observe] at hcall
    obtain ⟨-, -, hok, herror⟩ := hstart.observe hcall hpast
    rw [hr]
    refine ⟨fun n hn => ?_, by simp, fun fault hfault => ?_, by simp⟩
    · obtain ⟨rfl, htotal⟩ := hok n (by simpa using hn)
      exact htotal
    · exact herror fault (by simpa using hfault)
  · rw [hasNext_eq_observe] at hcall
    obtain ⟨-, hindex, hok, herror⟩ := hstart.observe hcall hpast
    rw [hr]
    refine ⟨by simp, fun more hmore => ?_, fun fault hfault => ?_, by simp⟩
    · obtain ⟨rfl, htotal⟩ := hok more (by simpa using hmore)
      simp [hindex, htotal, hlength]
    · exact herror fault (by simpa using hfault)
  · obtain ⟨-, -, herror⟩ := hstart.nextRecord hcall hpast
    rw [hr]
    refine ⟨by simp, by simp, by simp, fun fault hfault => ?_⟩
    have hle := hstart.nextIndex_le_length hpast.of_append
    rcases herror fault (by simpa using hfault) with ⟨rfl, hend⟩ | hnone
    · exact Or.inl ⟨rfl, by omega⟩
    · exact Or.inr hnone
  · simp [hr]

/-- A record and an empty slot, after the page could not be fetched at first. -/
theorem delivers_in_order_after_fault :
    let search : Search := ⟨"", "moon", none, none, .standard⟩
    let body := "<searchRetrieveResponse><numberOfRecords>2</numberOfRecords><records><record>" ++
      "<recordData>m</recordData></record><record/></records></searchRetrieveResponse>"
    let calls : List (Command × List Reply) :=
      [(.hasNext, [.error (.io "")]), (.nextRecord, [.ok body]), (.next, [])]
    delivered ((start search).play (.transport "") calls).1 = [.record "m", .missing 1] := by
  intro search body calls
  let url := search.url (.start 25) false
  let page : Page := ⟨2, none, [some "m", none], [], []⟩
  have hplay : Event.page? ⟨url, .ok body⟩ = some page ∧
      ((start search).play (.transport "") calls).2.nextIndex = 2 ∧
      history ((start search).play (.transport "") calls).1 =
        [⟨url, .error (.io "")⟩, ⟨url, .error (.transport "")⟩, ⟨url, .ok body⟩] := by
    decide +kernel
  obtain ⟨hpage, hindex, hhistory⟩ := hplay
  have hserver : Honest search [some "m", none]
      (history ((start search).play (.transport "") calls).1) := by
    rw [hhistory]
    apply honest_of_page page rfl
    intro event hevent
    simp only [List.mem_cons, List.not_mem_nil, or_false] at hevent
    rcases hevent with rfl | rfl | rfl
    · exact Or.inl rfl
    · exact Or.inl rfl
    · exact Or.inr ⟨hpage, 0, ⟨.start 25, false, rfl, rfl⟩, List.prefix_rfl, by simp [page]⟩
  have hrun : Reaches search ((start search).play (.transport "") calls).1
      ((start search).play (.transport "") calls).2 := reaches_play _ calls
  have hdelivered := (delivers_in_order hrun hserver).1
  rw [hdelivered, hindex]
  rfl

end Session

end SearchRetrieve
