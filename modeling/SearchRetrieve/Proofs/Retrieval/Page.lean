import SearchRetrieve.Proofs.Text.Digits
import SearchRetrieve.Retrieval.Session

/-!
# Accepted pages

A reply gives a page exactly if it is a response that has not expired and says how many records
there are. Then the page is made of what the response holds.
-/
namespace SearchRetrieve

namespace Page

variable {root : Xml.Node} {page : Page}

theorem totalOf_lt {n : Nat} (h : totalOf root = .ok n) : n < UInt64.size := by
  unfold totalOf at h
  split at h
  · simp at h
  · split at h
    · next hn =>
      cases h
      exact (Text.natBelow?_eq_some.1 hn).1
    · simp at h

theorem ofRoot_eq_ok :
    ofRoot root = .ok page ↔
      isPart "searchRetrieveResponse" root = true ∧
        (diagnosticsOf root).find? Diagnostic.isExpiry = none ∧
        totalOf root = .ok page.total ∧
        page = ⟨page.total, resultSetIdOf root, recordsOf root, diagnosticsOf root,
          facetsOf root⟩ := by
  have hthrow (e : PageError) {α : Type} (f : α → Except PageError Page) :
      (throw e >>= f) ≠ .ok page := by
    simp [throw, throwThe, MonadExceptOf.throw, bind, Except.bind]
  unfold ofRoot
  cases hroot : isPart "searchRetrieveResponse" root with
  | false => simp [hthrow]
  | true =>
    cases hexpired : (diagnosticsOf root).find? Diagnostic.isExpiry with
    | some d => simp [hexpired, hthrow]
    | none =>
      cases htotal : totalOf root with
      | error e => simp [hexpired, bind, Except.bind]
      | ok n =>
        simp only [hexpired, pure, bind, Except.pure, Except.bind]
        constructor
        · intro h
          cases h
          simp
        · rintro ⟨-, -, htotal', hpage⟩
          cases htotal'
          simpa using hpage.symm

/-- The page or the error of a response; an expired result set is an error in any case. -/
theorem ofRoot_of_isPart (hpart : isPart "searchRetrieveResponse" root = true) :
    ofRoot root = match (diagnosticsOf root).find? Diagnostic.isExpiry with
      | some expired => .error (.resultSetExpired expired.uri)
      | none => (totalOf root).map fun total =>
          ⟨total, resultSetIdOf root, recordsOf root, diagnosticsOf root, facetsOf root⟩ := by
  unfold ofRoot
  cases hexpired : (diagnosticsOf root).find? Diagnostic.isExpiry with
  | some expired => simp [hpart, hexpired, throw, throwThe, MonadExceptOf.throw, bind, Except.bind]
  | none =>
    cases htotal : totalOf root <;>
      simp [hpart, hexpired, bind, Except.bind, pure, Except.pure, Except.map]

/-- A response without a number of records may be better the next time. -/
theorem totalOf_error_retriable {e : PageError} (h : totalOf root = .error e) :
    e.fault.retriable = true := by
  unfold totalOf at h
  split at h
  · cases h
    cases (diagnosticsOf root).head?.map Diagnostic.uri <;> rfl
  · split at h
    · simp at h
    · cases h
      rfl

theorem ofReply_eq_ok {complaint : Xml.Complaint} {reply : Reply} :
    Page.ofReply complaint reply = .ok page ↔
      ∃ body root, reply = .ok body ∧ Xml.ofText? body = some root ∧ ofRoot root = .ok page := by
  cases reply with
  | error fault => simp [Page.ofReply]
  | ok body =>
    cases hroot : Xml.ofText? body with
    | none => simp [Page.ofReply, Page.ofText, hroot]
    | some root =>
      cases hpage : ofRoot root <;> simp [Page.ofReply, Page.ofText, hroot, hpage]

/-- The number of all records fits into 64 bits. -/
theorem total_lt {complaint : Xml.Complaint} {reply : Reply}
    (h : Page.ofReply complaint reply = .ok page) : page.total < UInt64.size := by
  obtain ⟨_, root, _, _, hroot⟩ := ofReply_eq_ok.1 h
  exact totalOf_lt (ofRoot_eq_ok.1 hroot).2.2.1

end Page

end SearchRetrieve
