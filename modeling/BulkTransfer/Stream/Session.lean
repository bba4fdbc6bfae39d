import BulkTransfer.Remote.Service

/-!
# Sessions with a store

A stream is transferred by one thread that talks to one store. The session keeps what was asked
and answered; a call that panics ends the thread.
-/

namespace BulkTransfer

/-- A store with what it was asked, latest first. -/
structure Session (σ : Type) where
  state : σ
  exchanges : List (Call × Answer) := []

/-- Why a thread stopped before its end. -/
inductive Halt where
  | failed (error : Failure)
  | panicked
  deriving DecidableEq, Repr

namespace Session

variable {σ : Type}

/-- Makes a call. A reply that does not fit the call is a failure. -/
def ask (service : Service σ) (session : Session σ) (call : Call) :
    Except Halt Reply × Session σ :=
  let result := service.answer session.state call
  let answer := match result.1 with
    | .reply reply => reply.fitted call
    | other => other
  (match answer with
    | .reply reply => .ok reply
    | .failed error => .error (.failed error)
    | .panicked _ => .error .panicked,
   ⟨result.2, (call, answer) :: session.exchanges⟩)

/-- The calls of a session, first to last. -/
def calls (session : Session σ) : List Call :=
  session.exchanges.reverse.map Prod.fst

end Session
end BulkTransfer
