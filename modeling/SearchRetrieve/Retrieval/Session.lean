import SearchRetrieve.Metrics.Counters
import SearchRetrieve.Notice
import SearchRetrieve.Retrieval.Exchange
import SearchRetrieve.Retrieval.Page
import SearchRetrieve.Retrieval.Request

/-!
# Sessions

A session reads the records of a search one by one and fetches pages as they are needed. A page is
tried twice: first with the result set that the server keeps, if it is known, then with the query
itself. Every call gives its result, or a fault, and the session after it.
-/
namespace SearchRetrieve

inductive Progress where
  /-- Nothing has been fetched. -/
  | unstarted
  /-- There are more records. -/
  | pageLoaded
  /-- All records have been read. -/
  | exhausted
  /-- The last page could not be fetched. -/
  | failed
  deriving DecidableEq, Repr

inductive RecordSlot where
  | record (markup : String)
  /-- The server has left the record out; positions are counted from zero. -/
  | missing (position : Nat)
  deriving DecidableEq, Repr

structure Session where
  search : Search
  /-- What the XML reader says about bodies that it cannot read. -/
  complaint : Xml.Complaint
  /-- Where the loaded page begins. -/
  cursor : Cursor
  page : List (Option String)
  /-- The position of the next record. -/
  nextIndex : Nat
  /-- The number of all records, as the first page gave it. -/
  total : Option Nat
  /-- The facets of the first page. -/
  facets : List Facet
  progress : Progress
  counters : Counters
  /-- What there was to say so far, in order. -/
  journal : List Notice

/-- A call: its result or a fault, and the session after it. -/
abbrev Call (α : Type) := Exchange (Except Fault α × Session)

def Call.andThen {α β : Type} (call : Call α) (next : α → Session → Call β) : Call β :=
  Exchange.andThen call fun
    | (.ok a, s) => next a s
    | (.error fault, s) => .done (.error fault, s)

/-- A reply that gives no page, with the first diagnostic in it. -/
structure FailedAttempt where
  fault : Fault
  diagnostic : Option String
  deriving DecidableEq, Repr

def Page.ofReply (complaint : Xml.Complaint) : Reply → Except FailedAttempt Page
  | .error fault => .error ⟨fault, none⟩
  | .ok body =>
    match Page.ofText body complaint with
    | .ok page => .ok page
    | .error e => .error ⟨e.fault, Page.firstDiagnostic? body⟩

namespace Session

def start (search : Search) (complaint : Xml.Complaint := fun _ => none) : Session where
  search
  complaint
  cursor := Cursor.start search.settings.pageSize
  page := []
  nextIndex := 0
  total := none
  facets := []
  progress := .unstarted
  counters := .zero
  journal := []

def knownTotal (s : Session) : Nat := s.total.getD 0

def noting (notices : List Notice) (s : Session) : Session :=
  { s with journal := s.journal ++ notices }

def counting (f : Counters → Counters) (s : Session) : Session :=
  { s with counters := f s.counters }

def maxAttempts : Nat := 2

def countNotices (s : Session) (page : Page) : List Notice :=
  match s.total with
  | some total => if total = page.total then [] else [.countChanged total page.total]
  | none => []

/-- The session with a page that a cursor points to. -/
def accept (cursor : Cursor) (page : Page) (s : Session) : Session :=
  let total := s.total.getD page.total
  { s with
    cursor := cursor.withResultSet (page.resultSetId <|> cursor.resultSetId)
    page := page.records
    total := some total
    facets := if s.total.isNone then page.facets else s.facets
    progress := if total ≤ s.nextIndex then .exhausted else .pageLoaded
    counters := s.counters.pageFetched
    journal := s.journal ++
      page.diagnostics.map (fun d => .diagnostic d.uri (d.message.getD "")) ++ s.countNotices page }

def fail (notice : Notice) (s : Session) : Session :=
  { s.noting [notice] |>.counting .hardFailure with progress := .failed }

/-- Asks for a page once; `otherwise` is what to do after a fault that need not last. -/
def attempt (cursor : Cursor) (number : Nat) (continuing : Bool)
    (otherwise : FailedAttempt → Session → Call Unit) (s : Session) : Call Unit :=
  let url := s.search.url cursor continuing
  let s := s.noting [.fetching url number]
  .request url fun reply =>
    match Page.ofReply s.complaint reply with
    | .ok page => .done (.ok (), s.accept cursor page)
    | .error failed =>
      if failed.fault.retriable then
        otherwise failed
          (s.noting [.attemptFailed number failed.fault.message] |>.counting .attemptFailed)
      else .done (.error failed.fault, s.fail (.notRetrying failed.fault.message))

def fetchPage (offset : Nat) (s : Session) : Call Unit :=
  let cursor := s.cursor.moveTo offset
  s.attempt cursor 1 (s.progress = .pageLoaded) fun first s =>
    s.attempt cursor maxAttempts false fun second s =>
      let error := second.fault.message
      .done (.error (.fetchFailed maxAttempts error (second.diagnostic <|> first.diagnostic)),
        s.fail (.givingUp maxAttempts error))

def ensureStarted (s : Session) : Call Unit :=
  if s.total.isNone then s.fetchPage 0 else .done (.ok (), s)

def ensureLoaded (s : Session) : Call Unit :=
  if s.nextIndex < s.cursor.offset ∨ s.cursor.offset + s.page.length ≤ s.nextIndex then
    s.fetchPage s.nextIndex
  else .done (.ok (), s)

def size (s : Session) : Call Nat :=
  s.ensureStarted.andThen fun _ s => .done (.ok s.knownTotal, s)

def hasNext (s : Session) : Call Bool :=
  s.ensureStarted.andThen fun _ s => .done (.ok (decide (s.nextIndex < s.knownTotal)), s)

/-- Steps over the next record of the loaded page. -/
def deliver (s : Session) : RecordSlot × Session :=
  let position := s.nextIndex
  let s' := { s with
    nextIndex := position + 1
    progress := if s.knownTotal ≤ position + 1 then .exhausted else s.progress }
  match (s.page[position - s.cursor.offset]?).join with
  | some markup => (.record markup, s')
  | none => (.missing position, s'.noting [.recordMissing (position + 1)] |>.counting .missing)

/-- The next record. Reading past the last one is a fault. -/
def nextRecord (s : Session) : Call RecordSlot :=
  s.ensureStarted.andThen fun _ s =>
    if s.knownTotal ≤ s.nextIndex then
      .done (.error .exhausted, { s with progress := .exhausted })
    else
      s.ensureLoaded.andThen fun _ s =>
        let (slot, s) := s.deliver
        .done (.ok slot, s)

/-- The next item of the stream of records, which ends after the last record or a fault. -/
def next (s : Session) : Exchange (Option (Except Fault RecordSlot) × Session) :=
  if s.progress = .failed ∨ s.progress = .exhausted then .done (none, s)
  else
    Exchange.andThen s.hasNext fun
      | (.ok true, s) => s.nextRecord.map fun p => (some p.1, p.2)
      | (.ok false, s) => .done (none, { s with progress := .exhausted })
      | (.error fault, s) => .done (some (.error fault), s)

end Session

end SearchRetrieve
