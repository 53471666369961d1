import TransactionPlatform.Infrastructure.Renaming
import TransactionPlatform.System.Requests
import TransactionPlatform.Application.Outcomes

/-!
# Alike — requests that cannot tell digests and clocks apart

What `Renaming` says of the coordinator's calls carries over to the requests that make them: between
two `await`s `handle_authorization` only looks at the status of a reservation and at what the port
answered.  Two systems of requests that are alike stay alike along the same events.
-/

namespace TransactionPlatform
namespace System

open Text Domain Ports Common Application Infrastructure ReadCommitted Transition

/-- The request a call belongs to. -/
def CallId.request : CallId → Nat
  | .reserve r => r
  | .complete r => r

/-- The request an event belongs to, the statements of its calls included. -/
def Event.owner : Event → Nat
  | .arrive r => r
  | .database e => e.event.id.request
  | .resume r => r
  | .invoke r => r
  | .respond r _ => r
  | .finish r => r
  | .cancel r => r
  | .crash r => r

/-! ## What corresponds -/

inductive LikeResults {α : Type} (R : Renaming) (rel : α → α → Prop) :
    Except Exc α → Except Exc α → Prop
  | ok {x x' : α} (h : rel x x') : LikeResults R rel (.ok x) (.ok x')
  | error {e e' : Exc} (he : R.LikeExceptions e e') : LikeResults R rel (.error e) (.error e')

/-- Two requests with the same transaction whose reservations correspond. -/
structure LikeRequests (R : Renaming) (request request' : Request) : Prop where
  transactionId : request'.command.transactionId = request.command.transactionId
  in_view : R.ids request.command.transactionId
  reserveArgs : LikeResults R R.LikeReserve request.reserveArgs request'.reserveArgs

inductive LikePhases (R : Renaming) : Phase → Phase → Prop
  | idle : LikePhases R .idle .idle
  | reserving : LikePhases R .reserving .reserving
  | acquired {k k' : PyStr} (hk : R.keyHash k k') : LikePhases R (.acquired k) (.acquired k')
  | awaiting {k k' : PyStr} (hk : R.keyHash k k') : LikePhases R (.awaiting k) (.awaiting k')
  | completing (envelope : ResponseEnvelope) :
      LikePhases R (.completing envelope) (.completing envelope)
  | finished {answer answer' : Except Exc ResponseEnvelope} (h : LikeResults R Eq answer answer') :
      LikePhases R (.finished answer) (.finished answer')
  | crashed : LikePhases R .crashed .crashed

inductive LikeSteps (R : Renaming) : Event → Event → Prop
  | arrive (r : Nat) : LikeSteps R (.arrive r) (.arrive r)
  | database {e e' : DatabaseEvent} (h : R.LikeEvents e.event e'.event) :
      LikeSteps R (.database e) (.database e')
  | resume (r : Nat) : LikeSteps R (.resume r) (.resume r)
  | invoke (r : Nat) : LikeSteps R (.invoke r) (.invoke r)
  | respond (r : Nat) (outcome : PortOutcome) : LikeSteps R (.respond r outcome) (.respond r outcome)
  | finish (r : Nat) : LikeSteps R (.finish r) (.finish r)
  | cancel (r : Nat) : LikeSteps R (.cancel r) (.cancel r)
  | crash (r : Nat) : LikeSteps R (.crash r) (.crash r)

/-- The requests in `V` and their calls are where their counterparts are. -/
structure LikeSystems (R : Renaming) (V : Nat → Prop) (s s' : Requests) : Prop where
  calls : R.LikeCoordinations (fun c => V c.request) s.calls s'.calls
  phase : ∀ r, V r → LikePhases R (s.phase r) (s'.phase r)

/-! ## What a request computes -/

section

variable {R : Renaming} {V : Nat → Prop}

theorem LikeResults.errorSame {α : Type} {rel : α → α → Prop} (e : Exc) :
    LikeResults R rel (.error e) (.error e) :=
  .error (.same e)

theorem LikeResults.same {α : Type} (x : Except Exc α) : LikeResults R Eq x x := by
  cases x with
  | ok a =>
      exact .ok rfl
  | error e =>
      exact .errorSame e

theorem completion_like {request request' : Request} (h : LikeRequests R request request')
    {k k' : PyStr} (hk : R.keyHash k k') (outcome : PortOutcome) :
    LikeResults R R.LikeComplete (completion request.command k outcome)
      (completion request'.command k' outcome) := by
  -- the command decides by its transaction id only
  have hexecute : execute request'.command outcome = execute request.command outcome := by
    unfold execute
    rw [h.transactionId]
  have hid : ∀ a, completion request.command k outcome = .ok a →
      R.ids a.transaction.transactionId := by
    intro a ha
    rw [(settlement_ok (completion_ok ha).2).2.1]
    exact h.in_view
  unfold completion at hid ⊢
  rw [hexecute]
  split
  · rename_i result hresult
    rw [hresult] at hid
    exact .ok (.intro k' hk (hid _ rfl))
  · rename_i txn retryAfter hresult
    simp only [hresult] at hid
    -- the waiting time prints for both or for neither
    cases henvelope : rateLimitedEnvelope retryAfter with
    | ok envelope =>
        rw [henvelope] at hid
        exact .ok (.intro k' hk (hid _ rfl))
    | error e =>
        exact .errorSame e
  · rename_i txn hresult
    rw [hresult] at hid
    exact .ok (.intro k' hk (hid _ rfl))
  · exact .errorSame _

namespace LikeSystems

variable {requests requests' : Nat → Request} {s s' : Requests} {r : Nat}

theorem init {T T' : Tables} (h : (R.likeness fun c : CallId => V c.request).Stores T T') :
    LikeSystems R V (Requests.init T) (Requests.init T') where
  calls := .init h
  phase := fun _ _ => .idle

/-- A request moves on, perhaps with a new call. -/
theorem setPhase (h : LikeSystems R V s s') {p p' : Phase} (hp : LikePhases R p p')
    {calls calls' : Coordination CallId}
    (hcalls : R.LikeCoordinations (fun c => V c.request) calls calls')
    (sent sent' : List (Nat × PaymentNetworkAuthorizationRequest)) :
    LikeSystems R V { (s.setPhase r p) with calls := calls, sent := sent }
      { (s'.setPhase r p') with calls := calls', sent := sent' } where
  calls := hcalls
  phase := by
    intro r₁ hr₁
    by_cases heq : r₁ = r
    · subst heq
      simpa [Requests.setPhase] using hp
    · simpa [Requests.setPhase, heq] using h.phase r₁ hr₁

/-- A request moves on by itself. -/
theorem moved (h : LikeSystems R V s s') {p p' : Phase} (hp : LikePhases R p p') :
    LikeSystems R V (s.setPhase r p) (s'.setPhase r p') :=
  h.setPhase hp h.calls s.sent s'.sent

theorem await (h : LikeSystems R V s s') {c : CallId} (hc : V c.request)
    {call call' : CoordinatorCall} (hcall : R.LikeCalls call call') {p p' : Phase}
    (hp : LikePhases R p p') :
    Option.Rel (LikeSystems R V) (s.await r c call p) (s'.await r c call' p') := by
  have hstart := h.calls.step (.start c hcall) hc
  unfold Requests.await
  rcases rel_cases hstart with ⟨hx, hx'⟩ | ⟨calls, calls', hx, hx', hlike⟩
  · simp only [hx, hx']
    exact .none
  · simp only [hx, hx']
    exact .some (h.setPhase hp hlike s.sent s'.sent)

theorem arrive (h : LikeSystems R V s s') (hr : V r)
    (hrequest : LikeRequests R (requests r) (requests' r)) :
    Option.Rel (LikeSystems R V) (s.arrive (requests r) r) (s'.arrive (requests' r) r) := by
  have hphase := h.phase r hr
  have hargs := hrequest.reserveArgs
  unfold Requests.arrive
  generalize s.phase r = p at hphase ⊢
  generalize s'.phase r = p' at hphase ⊢
  generalize (requests r).reserveArgs = x at hargs ⊢
  generalize (requests' r).reserveArgs = x' at hargs ⊢
  cases hphase with
  | idle =>
      cases hargs with
      | ok ha =>
          exact h.await (c := .reserve r) hr (.reserve ha) .reserving
      | error he =>
          exact .some (h.moved (.finished (.error he)))
  | _ =>
      exact .none

theorem resume (h : LikeSystems R V s s') (hr : V r) :
    Option.Rel (LikeSystems R V) (s.resume r) (s'.resume r) := by
  have hphase := h.phase r hr
  have hcall := h.calls.call (.reserve r) hr
  -- the step reads the phase and the `reserve` call only, and these correspond
  unfold Requests.resume
  generalize s.phase r = p at hphase ⊢
  generalize s'.phase r = p' at hphase ⊢
  generalize s.calls.call (.reserve r) = cs at hcall ⊢
  generalize s'.calls.call (.reserve r) = cs' at hcall ⊢
  cases hphase with
  | reserving =>
      cases hcall with
      | reserve ha hpc =>
          cases hpc with
          | done result =>
              cases result with
              | ok reservation =>
                  cases hanswer : answerReservation reservation with
                  | some answer =>
                      simp only [hanswer]
                      exact .some (h.moved (.finished (.same answer)))
                  | none =>
                      simp only [hanswer]
                      exact .some (h.moved (.acquired ha.keyHash))
              | error e =>
                  exact .some (h.moved (.finished (.errorSame e)))
          | _ =>
              exact .none
      | _ =>
          exact .none
  | _ =>
      exact .none

theorem invoke (h : LikeSystems R V s s') (hr : V r)
    (hrequest : LikeRequests R (requests r) (requests' r)) :
    Option.Rel (LikeSystems R V) (s.invoke (requests r) r) (s'.invoke (requests' r) r) := by
  have hphase := h.phase r hr
  unfold Requests.invoke
  rw [hrequest.transactionId]
  generalize s.phase r = p at hphase ⊢
  generalize s'.phase r = p' at hphase ⊢
  cases hphase with
  | acquired hk =>
      cases Transaction.new (requests r).command.transactionId with
      | ok t =>
          exact .some (h.setPhase (.awaiting hk) h.calls _ _)
      | error e =>
          exact .some (h.moved (.finished (.errorSame _)))
  | _ =>
      exact .none

theorem respond (h : LikeSystems R V s s') (hr : V r)
    (hrequest : LikeRequests R (requests r) (requests' r)) (outcome : PortOutcome) :
    Option.Rel (LikeSystems R V) (s.respond (requests r) r outcome)
      (s'.respond (requests' r) r outcome) := by
  have hphase := h.phase r hr
  unfold Requests.respond
  generalize s.phase r = p at hphase ⊢
  generalize s'.phase r = p' at hphase ⊢
  cases hphase with
  | @awaiting k k' hk =>
      have hcompletion := completion_like hrequest hk outcome
      dsimp only
      generalize completion (requests r).command k outcome = x at hcompletion ⊢
      generalize completion (requests' r).command k' outcome = x' at hcompletion ⊢
      cases hcompletion with
      | ok ha =>
          have henvelope := ha.envelope
          dsimp only
          rw [henvelope]
          exact h.await (c := .complete r) hr (.complete ha) (.completing _)
      | error he =>
          exact .some (h.moved (.finished (.error he)))
  | _ =>
      exact .none

theorem finish (h : LikeSystems R V s s') (hr : V r) :
    Option.Rel (LikeSystems R V) (s.finish r) (s'.finish r) := by
  have hphase := h.phase r hr
  have hcall := h.calls.call (.complete r) hr
  unfold Requests.finish
  -- the two sides agree on the phase and on how far the call is
  generalize s.phase r = p at hphase ⊢
  generalize s'.phase r = p' at hphase ⊢
  generalize s.calls.call (.complete r) = cs at hcall ⊢
  generalize s'.calls.call (.complete r) = cs' at hcall ⊢
  cases hphase with
  | completing envelope =>
      cases hcall with
      | complete ha hpc =>
          cases hpc with
          | completed =>
              exact .some (h.moved (.finished (.ok rfl)))
          | raised he =>
              exact .some (h.moved (.finished (.error he)))
          | _ =>
              exact .none
      | _ =>
          exact .none
  | _ =>
      exact .none

theorem killed (h : LikeSystems R V s s') {c : CallId} (hc : V c.request) :
    R.LikeCoordinations (fun c => V c.request) (s.killed c) (s'.killed c) := by
  unfold Requests.killed
  rcases rel_cases (h.calls.step (.kill c) hc) with ⟨hx, hx'⟩ | ⟨calls, calls', hx, hx', hlike⟩
  · rw [hx, hx']
    exact h.calls
  · rw [hx, hx']
    exact hlike

theorem cancel (h : LikeSystems R V s s') (hr : V r) :
    Option.Rel (LikeSystems R V) (s.cancel r) (s'.cancel r) := by
  have hphase := h.phase r hr
  have hreserve := h.calls.call (.reserve r) hr
  have hcomplete := h.calls.call (.complete r) hr
  have hcancelled : LikePhases R (.finished (.error Requests.cancelled))
      (.finished (.error Requests.cancelled)) :=
    .finished (.errorSame _)
  -- the step reads the phase and the two calls only
  unfold Requests.cancel
  generalize s.phase r = p at hphase ⊢
  generalize s'.phase r = p' at hphase ⊢
  generalize s.calls.call (.reserve r) = cs at hreserve ⊢
  generalize s'.calls.call (.reserve r) = cs' at hreserve ⊢
  generalize s.calls.call (.complete r) = ds at hcomplete ⊢
  generalize s'.calls.call (.complete r) = ds' at hcomplete ⊢
  cases hphase with
  | reserving =>
      cases hreserve with
      | reserve ha hpc =>
          cases hpc with
          | done result =>
              exact .some (h.moved hcancelled)
          | _ =>
              exact .none
      | _ =>
          exact .none
  | acquired hk =>
      exact .some (h.moved hcancelled)
  | awaiting hk =>
      exact .some (h.moved hcancelled)
  | completing envelope =>
      cases hcomplete with
      | complete ha hpc =>
          cases hpc with
          | completed =>
              exact .some (h.moved hcancelled)
          | raised he =>
              exact .some (h.moved hcancelled)
          | _ =>
              exact .none
      | _ =>
          exact .none
  | _ =>
      exact .none

theorem crash (h : LikeSystems R V s s') (hr : V r) :
    Option.Rel (LikeSystems R V) (s.crash r) (s'.crash r) := by
  have hphase := h.phase r hr
  unfold Requests.crash
  generalize s.phase r = p at hphase ⊢
  generalize s'.phase r = p' at hphase ⊢
  cases hphase with
  | reserving =>
      exact .some (h.setPhase .crashed (h.killed (c := .reserve r) hr) s.sent s'.sent)
  | completing envelope =>
      exact .some (h.setPhase .crashed (h.killed (c := .complete r) hr) s.sent s'.sent)
  | acquired hk =>
      exact .some (h.moved .crashed)
  | awaiting hk =>
      exact .some (h.moved .crashed)
  | _ =>
      exact .none

/-- An event of a request in view takes systems that are alike to systems that are alike, or can
happen in neither. -/
theorem step (h : LikeSystems R V s s')
    (hrequests : ∀ r, V r → LikeRequests R (requests r) (requests' r)) {e e' : Event}
    (he : LikeSteps R e e') (hv : V e.owner) :
    Option.Rel (LikeSystems R V) (s.step requests e) (s'.step requests' e') := by
  cases he with
  | arrive r =>
      exact h.arrive hv (hrequests r hv)
  | database hd =>
      unfold Requests.step
      rcases rel_cases (h.calls.step hd hv) with ⟨hx, hx'⟩ | ⟨calls, calls', hx, hx', hlike⟩
      · simp only [hx, hx']
        exact .none
      · simp only [hx, hx']
        exact .some { h with calls := hlike }
  | resume r =>
      exact h.resume hv
  | invoke r =>
      exact h.invoke hv (hrequests r hv)
  | respond r outcome =>
      exact h.respond hv (hrequests r hv) outcome
  | finish r =>
      exact h.finish hv
  | cancel r =>
      exact h.cancel hv
  | crash r =>
      exact h.crash hv

end LikeSystems

end

end System
end TransactionPlatform
