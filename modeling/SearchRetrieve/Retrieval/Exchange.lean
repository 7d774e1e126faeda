import SearchRetrieve.Fault

/-!
# Exchanges with a server

A computation that asks a server is a tree: it ends with a result, or it names a URL and goes on
with whatever comes back. Nothing in it says how a server answers; that is chosen when the tree is
run.
-/
namespace SearchRetrieve

/-- What a request brings: the body of the response, or a fault. -/
abbrev Reply := Except Fault String

inductive Exchange (α : Type) where
  | done (result : α)
  | request (url : String) (resume : Reply → Exchange α)

namespace Exchange

variable {α β : Type}

def andThen : Exchange α → (α → Exchange β) → Exchange β
  | done result, next => next result
  | request url resume, next => request url fun reply => (resume reply).andThen next

def map (f : α → β) (e : Exchange α) : Exchange β := e.andThen fun result => done (f result)

/-- The result when a server answers every request by its URL alone. -/
def runWith (server : String → Reply) : Exchange α → α
  | done result => result
  | request url resume => runWith server (resume (server url))

structure Outcome (α : Type) where
  result : α
  urls : List String
  left : List Reply

/-- Runs an exchange with prepared replies; when they have run out, every request fails. -/
def run (closed : Fault) : List Reply → Exchange α → Outcome α
  | replies, done result => ⟨result, [], replies⟩
  | replies, request url resume =>
    let outcome := run closed replies.tail (resume (replies.headD (.error closed)))
    { outcome with urls := url :: outcome.urls }

end Exchange

end SearchRetrieve
