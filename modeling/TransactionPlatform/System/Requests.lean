import TransactionPlatform.Application.IdempotentOrchestrator
import TransactionPlatform.Common.Idempotency
import TransactionPlatform.Infrastructure.Coordination

/-!
# Requests — any number of `handle_authorization` coroutines on one database

`handle_authorization` (`src/transaction_platform/application/idempotent_orchestrator.py`) is cut at
its `await`s.  Between two of them a coroutine computes only with its own values, so a request is a
phase, and its two coordinator calls are sessions of the coordination system: request `r` calls
`reserve` as session `.reserve r` and `complete` as session `.complete r`.

Everything outside the process is an event: how a statement ends, what the payment network answers,
when a task is cancelled and when the process dies.  `sent` lists the calls of
`payment_network.authorize` in order.
-/

namespace TransactionPlatform
namespace System

open Text Domain Ports Common Application Infrastructure ReadCommitted

/-! ## Requests and their phases -/

structure Request where
  command : AuthorizeTransactionCommand
  idempotencyKey : PyStr
  deriving DecidableEq, Repr

/-- The five fields the fingerprint covers. -/
def Request.payload (request : Request) : Payload :=
  { amount := request.command.amount
    currency := request.command.currency
    merchantId := request.command.merchantId
    paymentToken := request.command.paymentToken
    transactionId := request.command.transactionId }

/-- What `handle_authorization` computes before its first `await`. -/
def Request.reserveArgs (request : Request) : Except Exc ReserveArgs :=
  match computeKeyHash request.idempotencyKey with
  | .error e => .error e
  | .ok keyHash =>
      match computeRequestFingerprint request.payload with
      | .error e => .error e
      | .ok requestFingerprint =>
          .ok { keyHash := keyHash
                requestFingerprint := requestFingerprint
                transactionId := request.command.transactionId
                merchantId := request.command.merchantId
                amount := request.command.amount
                currency := request.command.currency }

/-- The sessions of the requests. -/
inductive CallId
  | reserve (r : Nat)
  | complete (r : Nat)
  deriving DecidableEq, Repr

inductive Phase
  | idle
  | reserving
  | acquired (keyHash : PyStr)
  | awaiting (keyHash : PyStr)
  | completing (envelope : ResponseEnvelope)
  | finished (answer : Except Exc ResponseEnvelope)
  | crashed

namespace Phase

def isIdle : Phase → Bool
  | .idle => true
  | _ => false

/-- The request waits for the payment network. -/
def isAwaiting : Phase → Bool
  | .awaiting _ => true
  | _ => false

/-- The envelope the request has returned. -/
def returned : Phase → Option ResponseEnvelope
  | .finished (.ok envelope) => some envelope
  | _ => none

theorem eq_idle {p : Phase} (h : p.isIdle = true) : p = .idle := by
  cases p <;> first | rfl | cases h

theorem eq_awaiting {p : Phase} (h : p.isAwaiting = true) : ∃ keyHash, p = .awaiting keyHash := by
  cases p with
  | awaiting keyHash =>
      exact ⟨keyHash, rfl⟩
  | _ =>
      cases h

theorem eq_finished {p : Phase} {envelope : ResponseEnvelope} (h : p.returned = some envelope) :
    p = .finished (.ok envelope) := by
  unfold returned at h
  split at h
  · cases h
    rfl
  · cases h

end Phase

structure Requests where
  calls : Coordination CallId
  phase : Nat → Phase
  sent : List (Nat × PaymentNetworkAuthorizationRequest)

/-! ## Events -/

/-- What the database does with a call. -/
inductive DatabaseEvent
  | step (c : CallId) (now : Timestamp)
  | fail (c : CallId) (fault : Fault)
  | land (c : CallId)
  | reap (c : CallId)

def DatabaseEvent.event : DatabaseEvent → CoordinatorEvent CallId
  | .step c now => .step c now
  | .fail c fault => .fail c fault
  | .land c => .land c
  | .reap c => .reap c

inductive Event
  | arrive (r : Nat)
  | database (e : DatabaseEvent)
  | resume (r : Nat)
  | invoke (r : Nat)
  | respond (r : Nat) (outcome : PortOutcome)
  | finish (r : Nat)
  | cancel (r : Nat)
  | crash (r : Nat)

/-- The request an event belongs to; a statement of the database belongs to a call. -/
def Event.request : Event → Option Nat
  | .arrive r => some r
  | .database _ => none
  | .resume r => some r
  | .invoke r => some r
  | .respond r _ => some r
  | .finish r => some r
  | .cancel r => some r
  | .crash r => some r

/-! ## The transition system -/

namespace Requests

def init (T : Tables) : Requests :=
  { calls := Coordination.init T
    phase := fun _ => .idle
    sent := [] }

def tables (s : Requests) : Tables :=
  s.calls.tables

def setPhase (s : Requests) (r : Nat) (phase : Phase) : Requests :=
  { s with phase := Function.update s.phase r phase }

/-- Start a coordinator call and wait for it. -/
def await (s : Requests) (r : Nat) (c : CallId) (call : CoordinatorCall) (phase : Phase) :
    Option Requests :=
  match s.calls.step (.start c call) with
  | some calls => some { (s.setPhase r phase) with calls := calls }
  | none => none

/-- Compute the digests and call `reserve`. -/
def arrive (request : Request) (s : Requests) (r : Nat) : Option Requests :=
  match s.phase r with
  | .idle =>
      match request.reserveArgs with
      | .ok a => s.await r (.reserve r) (.reserve a) .reserving
      | .error e => some (s.setPhase r (.finished (.error e)))
  | _ => none

/-- `reserve` has returned: answer, or go on to the payment network. -/
def resume (s : Requests) (r : Nat) : Option Requests :=
  match s.phase r, s.calls.call (.reserve r) with
  | .reserving, .reserve a (.done (.ok reservation)) =>
      match answerReservation reservation with
      | some answer => some (s.setPhase r (.finished answer))
      | none => some (s.setPhase r (.acquired a.keyHash))
  | .reserving, .reserve _ (.done (.error e)) => some (s.setPhase r (.finished (.error e)))
  | _, _ => none

/-- `AuthorizeTransactionService.execute` up to its call of the port: the entity is constructed
first. -/
def invoke (request : Request) (s : Requests) (r : Nat) : Option Requests :=
  match s.phase r with
  | .acquired keyHash =>
      match Transaction.new request.command.transactionId with
      | .ok _ =>
          some { (s.setPhase r (.awaiting keyHash)) with
                  sent := s.sent ++ [(r, portRequest request.command)] }
      | .error e => some (s.setPhase r (.finished (.error (.transaction e))))
  | _ => none

/-- The port has answered: settle the outcome and call `complete`. -/
def respond (request : Request) (s : Requests) (r : Nat) (outcome : PortOutcome) :
    Option Requests :=
  match s.phase r with
  | .awaiting keyHash =>
      match completion request.command keyHash outcome with
      | .ok a => s.await r (.complete r) (.complete a) (.completing a.envelope)
      | .error e => some (s.setPhase r (.finished (.error e)))
  | _ => none

/-- `complete` has returned. -/
def finish (s : Requests) (r : Nat) : Option Requests :=
  match s.phase r, s.calls.call (.complete r) with
  | .completing envelope, .complete _ (.done (.ok ())) =>
      some (s.setPhase r (.finished (.ok envelope)))
  | .completing _, .complete _ (.done (.error e)) => some (s.setPhase r (.finished (.error e)))
  | _, _ => none

def cancelled : Exc :=
  .foreign (py "CancelledError")

/-- A cancellation outside the coordinator's statements; one that hits a statement is a `fail` of
the call. -/
def cancel (s : Requests) (r : Nat) : Option Requests :=
  match s.phase r, s.calls.call (.reserve r), s.calls.call (.complete r) with
  | .reserving, .reserve _ (.done _), _ => some (s.setPhase r (.finished (.error cancelled)))
  | .acquired _, _, _ | .awaiting _, _, _ => some (s.setPhase r (.finished (.error cancelled)))
  | .completing _, _, .complete _ (.done _) => some (s.setPhase r (.finished (.error cancelled)))
  | _, _, _ => none

/-- The call of a request whose process dies goes with it, if it is still running. -/
def killed (s : Requests) (c : CallId) : Coordination CallId :=
  (s.calls.step (.kill c)).getD s.calls

def crash (s : Requests) (r : Nat) : Option Requests :=
  match s.phase r with
  | .idle | .finished _ | .crashed => none
  | .reserving => some { (s.setPhase r .crashed) with calls := s.killed (.reserve r) }
  | .completing _ => some { (s.setPhase r .crashed) with calls := s.killed (.complete r) }
  | _ => some (s.setPhase r .crashed)

def step (requests : Nat → Request) (s : Requests) : Event → Option Requests
  | .arrive r => s.arrive (requests r) r
  | .database e =>
      match s.calls.step e.event with
      | some calls => some { s with calls := calls }
      | none => none
  | .resume r => s.resume r
  | .invoke r => s.invoke (requests r) r
  | .respond r outcome => s.respond (requests r) r outcome
  | .finish r => s.finish r
  | .cancel r => s.cancel r
  | .crash r => s.crash r

end Requests

/-! ## A sample run -/

def sampleRequest : Request :=
  { command :=
      { transactionId := py "txn_1"
        merchantId := py "m_1"
        paymentToken := py "tok_test_1"
        amount := 100
        currency := py "USD"
        correlationId := py "c-1" }
    idempotencyKey := py "key-1" }

/-- The sample request with another payment token. -/
def withToken (paymentToken : PyStr) : Request :=
  { sampleRequest with command := { sampleRequest.command with paymentToken := paymentToken } }

/-- Request 0 runs alone up to its call of the port. -/
def sampleRun : List Event :=
  [.arrive 0, .database (.step (.reserve 0) 1), .database (.step (.reserve 0) 1),
    .database (.step (.reserve 0) 1), .database (.step (.reserve 0) 1), .resume 0, .invoke 0]

end System
end TransactionPlatform
