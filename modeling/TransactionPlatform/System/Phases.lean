import TransactionPlatform.Infrastructure.Commits
import TransactionPlatform.System.Requests

/-!
# Phases — how a request's phase and its two calls hang together

`Transition` lists what an event does to the requests; `PhaseInv` says for each phase what the
request's `reserve` and `complete` calls are, and what a finished request was told.  Every state of
the requests is one of the coordination system (`calls_reachable`), so all that holds of concurrent
calls holds here.
-/

namespace TransactionPlatform
namespace System

open Text Domain Ports Common Application Infrastructure ReadCommitted Transition

/-! ## The arguments of a call -/

namespace CallArguments

variable {ι : Type} [DecidableEq ι] {s s' : Coordination ι} {e : CoordinatorEvent ι}

/-- Only its start gives a call its arguments. -/
theorem of_step (hstep : s.step e = some s') {c : ι} (hstart : ∀ call, e ≠ .start c call) :
    (s'.call c).call = (s.call c).call := by
  -- a call changes its program counter, never its arguments
  by_cases hc : c = e.id
  · subst hc
    cases Coordination.transition_of_step hstep with
    | start c call hcall =>
        exact absurd rfl (hstart call)
    | reserve c now a pc pc' server hcall hs =>
        simp [CoordinatorEvent.id, Coordination.setCall, hcall, CallState.call]
    | complete c now a pc pc' server hcall hs =>
        simp [CoordinatorEvent.id, Coordination.setCall, hcall, CallState.call]
    | reserveFail c fault a pc pc' o hcall hfail =>
        simp [CoordinatorEvent.id, Coordination.setCall, hcall, CallState.call]
    | completeFail c fault a pc pc' o hcall hfail =>
        simp [CoordinatorEvent.id, Coordination.setCall, hcall, CallState.call]
    | reserveKill c a pc o hcall hkill =>
        simp [CoordinatorEvent.id, Coordination.setCall, hcall, CallState.call]
    | completeKill c a pc o hcall hkill =>
        simp [CoordinatorEvent.id, Coordination.setCall, hcall, CallState.call]
    | land c now call ho hcall =>
        rfl
    | reap c ho =>
        rfl
  · rw [(Coordination.step_frame hstep hc).1]

theorem of_start {c : ι} {call : CoordinatorCall} (hstep : s.step (.start c call) = some s') :
    s.call c = .idle ∧ (s'.call c).call = some call := by
  cases Coordination.transition_of_step hstep with
  | start c call hcall =>
      refine ⟨hcall, ?_⟩
      cases call with
      | reserve a =>
          simp [Coordination.setCall, CoordinatorCall.begin, CallState.call]
      | complete a =>
          simp [Coordination.setCall, CoordinatorCall.begin, CallState.call]

/-- A call keeps its arguments. -/
theorem kept (hstep : s.step e = some s') {c : ι} {call : CoordinatorCall}
    (h : (s.call c).call = some call) : (s'.call c).call = some call := by
  rw [of_step hstep, h]
  rintro call' rfl
  rw [(of_start hstep).1] at h
  cases h

theorem eq_idle {cs : CallState} (h : cs.call = none) : cs = .idle := by
  cases cs <;> first | rfl | cases h

theorem eq_reserve {cs : CallState} {a : ReserveArgs} (h : cs.call = some (.reserve a)) :
    ∃ pc, cs = .reserve a pc := by
  cases cs with
  | reserve a' pc =>
      cases h
      exact ⟨pc, rfl⟩
  | _ =>
      cases h

theorem eq_complete {cs : CallState} {a : CompleteArgs} (h : cs.call = some (.complete a)) :
    ∃ pc, cs = .complete a pc := by
  cases cs with
  | complete a' pc =>
      cases h
      exact ⟨pc, rfl⟩
  | _ =>
      cases h

end CallArguments

/-! ## Transitions -/

namespace Requests

variable {requests : Nat → Request}

/-- The step function as a relation with one constructor for each way an event can go. -/
inductive Transition (requests : Nat → Request) (s : Requests) : Event → Requests → Prop
  | arrive (r : Nat) (a : ReserveArgs) (calls : Coordination CallId) (hphase : s.phase r = .idle)
      (hargs : (requests r).reserveArgs = .ok a)
      (hstart : s.calls.step (.start (.reserve r) (.reserve a)) = some calls) :
      Transition requests s (.arrive r) { (s.setPhase r .reserving) with calls := calls }
  | refused (r : Nat) (e : Exc) (hphase : s.phase r = .idle)
      (hargs : (requests r).reserveArgs = .error e) :
      Transition requests s (.arrive r) (s.setPhase r (.finished (.error e)))
  | database (e : DatabaseEvent) (calls : Coordination CallId)
      (hcalls : s.calls.step e.event = some calls) :
      Transition requests s (.database e) { s with calls := calls }
  | answered (r : Nat) (a : ReserveArgs) (reservation : IdempotencyReservation)
      (answer : Except Exc ResponseEnvelope) (hphase : s.phase r = .reserving)
      (hcall : s.calls.call (.reserve r) = .reserve a (.done (.ok reservation)))
      (hanswer : answerReservation reservation = some answer) :
      Transition requests s (.resume r) (s.setPhase r (.finished answer))
  | acquired (r : Nat) (a : ReserveArgs) (reservation : IdempotencyReservation)
      (hphase : s.phase r = .reserving)
      (hcall : s.calls.call (.reserve r) = .reserve a (.done (.ok reservation)))
      (hanswer : answerReservation reservation = none) :
      Transition requests s (.resume r) (s.setPhase r (.acquired a.keyHash))
  | reserveError (r : Nat) (a : ReserveArgs) (e : Exc) (hphase : s.phase r = .reserving)
      (hcall : s.calls.call (.reserve r) = .reserve a (.done (.error e))) :
      Transition requests s (.resume r) (s.setPhase r (.finished (.error e)))
  | invoke (r : Nat) (keyHash : PyStr) (t : Transaction) (hphase : s.phase r = .acquired keyHash)
      (hnew : Transaction.new (requests r).command.transactionId = .ok t) :
      Transition requests s (.invoke r)
        { (s.setPhase r (.awaiting keyHash)) with
          sent := s.sent ++ [(r, portRequest (requests r).command)] }
  | invalid (r : Nat) (keyHash : PyStr) (e : TransactionError)
      (hphase : s.phase r = .acquired keyHash)
      (hnew : Transaction.new (requests r).command.transactionId = .error e) :
      Transition requests s (.invoke r) (s.setPhase r (.finished (.error (.transaction e))))
  | respond (r : Nat) (keyHash : PyStr) (outcome : PortOutcome) (a : CompleteArgs)
      (calls : Coordination CallId) (hphase : s.phase r = .awaiting keyHash)
      (hargs : completion (requests r).command keyHash outcome = .ok a)
      (hstart : s.calls.step (.start (.complete r) (.complete a)) = some calls) :
      Transition requests s (.respond r outcome)
        { (s.setPhase r (.completing a.envelope)) with calls := calls }
  | escaped (r : Nat) (keyHash : PyStr) (outcome : PortOutcome) (e : Exc)
      (hphase : s.phase r = .awaiting keyHash)
      (hargs : completion (requests r).command keyHash outcome = .error e) :
      Transition requests s (.respond r outcome) (s.setPhase r (.finished (.error e)))
  | finish (r : Nat) (envelope : ResponseEnvelope) (a : CompleteArgs)
      (hphase : s.phase r = .completing envelope)
      (hcall : s.calls.call (.complete r) = .complete a (.done (.ok ()))) :
      Transition requests s (.finish r) (s.setPhase r (.finished (.ok envelope)))
  | completeError (r : Nat) (envelope : ResponseEnvelope) (a : CompleteArgs) (e : Exc)
      (hphase : s.phase r = .completing envelope)
      (hcall : s.calls.call (.complete r) = .complete a (.done (.error e))) :
      Transition requests s (.finish r) (s.setPhase r (.finished (.error e)))
  | cancel (r : Nat) (hphase : s.phase r ≠ .idle) :
      Transition requests s (.cancel r) (s.setPhase r (.finished (.error cancelled)))
  | crash (r : Nat) (calls : Coordination CallId) (hphase : s.phase r ≠ .idle)
      (hcalls : calls = s.calls ∨
        ∃ c, (c = .reserve r ∨ c = .complete r) ∧ s.calls.step (.kill c) = some calls) :
      Transition requests s (.crash r) { (s.setPhase r .crashed) with calls := calls }

theorem killed_cases (s : Requests) (c : CallId) :
    s.killed c = s.calls ∨ s.calls.step (.kill c) = some (s.killed c) := by
  unfold killed
  cases hstep : s.calls.step (.kill c) with
  | none =>
      exact .inl rfl
  | some calls =>
      exact .inr rfl

section Handlers

variable {s s' : Requests} {r : Nat}

/-- The arguments are made before the call, and may raise. -/
theorem transition_of_arrive (h : s.arrive (requests r) r = some s') :
    Transition requests s (.arrive r) s' := by
  simp only [Requests.arrive] at h
  split at h
  · rename_i hphase
    split at h
    · rename_i a hargs
      simp only [await] at h
      split at h
      · rename_i calls hstart
        cases h
        exact .arrive r a calls hphase hargs hstart
      · cases h
    · rename_i e hargs
      cases h
      exact .refused r e hphase hargs
  · cases h

/-- `reserve` has returned: its answer is final, or the request owns the key. -/
theorem transition_of_resume (h : s.resume r = some s') : Transition requests s (.resume r) s' := by
  simp only [Requests.resume] at h
  split at h
  · rename_i a reservation hphase hcall
    split at h
    · rename_i answer hanswer
      cases h
      exact .answered r a reservation answer hphase hcall hanswer
    · rename_i hanswer
      cases h
      exact .acquired r a reservation hphase hcall hanswer
  · rename_i a e hphase hcall
    cases h
    exact .reserveError r a e hphase hcall
  · cases h

theorem transition_of_invoke (h : s.invoke (requests r) r = some s') :
    Transition requests s (.invoke r) s' := by
  simp only [Requests.invoke] at h
  split at h
  · rename_i keyHash hphase
    split at h
    · rename_i t hnew
      cases h
      exact .invoke r keyHash t hphase hnew
    · rename_i e hnew
      cases h
      exact .invalid r keyHash e hphase hnew
  · cases h

/-- The outcome is settled before `complete` is called, and may raise. -/
theorem transition_of_respond {outcome : PortOutcome}
    (h : s.respond (requests r) r outcome = some s') :
    Transition requests s (.respond r outcome) s' := by
  simp only [Requests.respond] at h
  split at h
  · rename_i keyHash hphase
    split at h
    · rename_i a hargs
      simp only [await] at h
      split at h
      · rename_i calls hstart
        cases h
        exact .respond r keyHash outcome a calls hphase hargs hstart
      · cases h
    · rename_i e hargs
      cases h
      exact .escaped r keyHash outcome e hphase hargs
  · cases h

theorem transition_of_finish (h : s.finish r = some s') : Transition requests s (.finish r) s' := by
  simp only [Requests.finish] at h
  split at h
  · rename_i envelope a hphase hcall
    cases h
    exact .finish r envelope a hphase hcall
  · rename_i envelope a e hphase hcall
    cases h
    exact .completeError r envelope a e hphase hcall
  · cases h

theorem transition_of_cancel (h : s.cancel r = some s') : Transition requests s (.cancel r) s' := by
  simp only [Requests.cancel] at h
  split at h
  all_goals cases h
  all_goals
    rename_i hphase
    exact .cancel r (by simp [*])

/-- A request that is inside a call takes its session down with it. -/
theorem transition_of_crash (h : s.crash r = some s') : Transition requests s (.crash r) s' := by
  simp only [Requests.crash] at h
  split at h
  · cases h
  · cases h
  · cases h
  · rename_i hphase
    cases h
    exact .crash r _ (by simp [hphase])
      ((killed_cases s _).imp_right fun hkill => ⟨_, .inl rfl, hkill⟩)
  · rename_i envelope hphase
    cases h
    exact .crash r _ (by simp [hphase])
      ((killed_cases s _).imp_right fun hkill => ⟨_, .inr rfl, hkill⟩)
  · rename_i hidle _ _ _ _
    cases h
    exact .crash r _ hidle (.inl rfl)

end Handlers

theorem transition_of_step {s s' : Requests} {e : Event} (h : s.step requests e = some s') :
    Transition requests s e s' := by
  cases e with
  | arrive r =>
      exact transition_of_arrive h
  | database e =>
      simp only [step] at h
      split at h
      · rename_i calls hcalls
        cases h
        exact .database e calls hcalls
      · cases h
  | resume r =>
      exact transition_of_resume h
  | invoke r =>
      exact transition_of_invoke h
  | respond r outcome =>
      exact transition_of_respond h
  | finish r =>
      exact transition_of_finish h
  | cancel r =>
      exact transition_of_cancel h
  | crash r =>
      exact transition_of_crash h

/-! ## Runs of requests are runs of calls -/

/-- The coordinator's part in an event of the requests. -/
inductive Causes : Event → CoordinatorEvent CallId → Prop
  | arrive (r : Nat) (a : ReserveArgs) : Causes (.arrive r) (.start (.reserve r) (.reserve a))
  | database (e : DatabaseEvent) : Causes (.database e) e.event
  | respond (r : Nat) (outcome : PortOutcome) (a : CompleteArgs) :
      Causes (.respond r outcome) (.start (.complete r) (.complete a))
  | crash (r : Nat) (c : CallId) (hc : c = .reserve r ∨ c = .complete r) :
      Causes (.crash r) (.kill c)

theorem step_causes {s s' : Requests} {e : Event} (h : s.step requests e = some s') :
    s'.calls = s.calls ∨ ∃ ce, Causes e ce ∧ s.calls.step ce = some s'.calls := by
  cases transition_of_step h with
  | arrive r a calls _ _ hstart =>
      exact .inr ⟨_, .arrive r a, hstart⟩
  | database e calls hcalls =>
      exact .inr ⟨_, .database e, hcalls⟩
  | respond r keyHash outcome a calls _ _ hstart =>
      exact .inr ⟨_, .respond r outcome a, hstart⟩
  | crash r calls _ hcalls =>
      rcases hcalls with hsame | ⟨c, hc, hkill⟩
      · exact .inl hsame
      · exact .inr ⟨_, .crash r c hc, hkill⟩
  | _ =>
      exact .inl rfl

theorem step_calls {s s' : Requests} {e : Event} (h : s.step requests e = some s') :
    s'.calls = s.calls ∨ ∃ ce, s.calls.step ce = some s'.calls := by
  rcases step_causes h with hsame | ⟨ce, _, hce⟩
  · exact .inl hsame
  · exact .inr ⟨ce, hce⟩

/-- A fault of a call is an event of the database. -/
theorem Causes.fail {e : Event} {c : CallId} {fault : Fault} (h : Causes e (.fail c fault)) :
    e = .database (.fail c fault) := by
  generalize hce : CoordinatorEvent.fail c fault = ce at h
  cases h with
  | database d =>
      cases d <;> cases hce
      rfl
  | _ =>
      cases hce

/-- A call only goes away with the process of its request. -/
theorem Causes.kill {e : Event} {c : CallId} (h : Causes e (.kill c)) :
    ∃ r, e = .crash r ∧ (c = .reserve r ∨ c = .complete r) := by
  generalize hce : CoordinatorEvent.kill c = ce at h
  cases h with
  | database d =>
      cases d <;> cases hce
  | crash r c' hc =>
      cases hce
      exact ⟨r, rfl, hc⟩
  | _ =>
      cases hce

theorem calls_reachable {T : Tables} {s : Requests}
    (h : Reachable (Requests.step requests) (init T) s) :
    Reachable Coordination.step (Coordination.init T) s.calls := by
  refine h.invariant (I := fun m => Reachable Coordination.step (Coordination.init T) m.calls) ?_
    (Reachable.refl _)
  intro m e m' hm hstep
  rcases step_calls hstep with hsame | ⟨ce, hce⟩
  · rwa [hsame]
  · exact hm.next hce

/-! ## Phases and calls -/

/-- `reserve` has returned `ACQUIRED` to request `r`. -/
def Acquired (requests : Nat → Request) (s : Requests) (r : Nat) (a : ReserveArgs) : Prop :=
  (requests r).reserveArgs = .ok a ∧
    ∃ reservation, s.calls.call (.reserve r) = .reserve a (.done (.ok reservation)) ∧
      reservation.status = .acquired

/-- Request `r` has called `complete` with the arguments of some outcome. -/
def Completing (requests : Nat → Request) (s : Requests) (r : Nat) (a : CompleteArgs) : Prop :=
  ∃ reserved outcome, Acquired requests s r reserved ∧
    completion (requests r).command reserved.keyHash outcome = .ok a ∧
    (s.calls.call (.complete r)).call = some (.complete a)

/-- Where an exception that ends a request comes from. -/
inductive ErrorSource (requests : Nat → Request) (s : Requests) (r : Nat) (e : Exc) : Prop
  | arguments (h : (requests r).reserveArgs = .error e)
  | reserve (a : ReserveArgs) (h : s.calls.call (.reserve r) = .reserve a (.done (.error e)))
  | replay (a : ReserveArgs) (reservation : IdempotencyReservation)
      (hcall : s.calls.call (.reserve r) = .reserve a (.done (.ok reservation)))
      (h : answerReservation reservation = some (.error e))
  | entity (a : ReserveArgs) (hacquired : Acquired requests s r a) (t : TransactionError)
      (h : Transaction.new (requests r).command.transactionId = .error t) (he : e = .transaction t)
  | outcome (a : ReserveArgs) (hacquired : Acquired requests s r a) (outcome : PortOutcome)
      (h : completion (requests r).command a.keyHash outcome = .error e)
  | complete (a : CompleteArgs) (hcompleting : Completing requests s r a)
      (h : s.calls.call (.complete r) = .complete a (.done (.error e)))
  | cancelled (he : e = cancelled)

/-- Where an envelope that a request returns comes from. -/
inductive AnswerSource (requests : Nat → Request) (s : Requests) (r : Nat)
    (envelope : ResponseEnvelope) : Prop
  | reservation (a : ReserveArgs) (reservation : IdempotencyReservation)
      (hargs : (requests r).reserveArgs = .ok a)
      (hcall : s.calls.call (.reserve r) = .reserve a (.done (.ok reservation)))
      (h : answerReservation reservation = some (.ok envelope))
  | completed (a : CompleteArgs) (hcompleting : Completing requests s r a)
      (hcall : s.calls.call (.complete r) = .complete a (.done (.ok ())))
      (henvelope : a.envelope = envelope)

def PhaseInv (requests : Nat → Request) (s : Requests) (r : Nat) : Phase → Prop
  | .idle => s.calls.call (.reserve r) = .idle ∧ s.calls.call (.complete r) = .idle
  | .reserving => s.calls.call (.complete r) = .idle ∧
      ∃ a, (requests r).reserveArgs = .ok a ∧
        (s.calls.call (.reserve r)).call = some (.reserve a)
  | .acquired keyHash | .awaiting keyHash => s.calls.call (.complete r) = .idle ∧
      ∃ a, Acquired requests s r a ∧ a.keyHash = keyHash
  | .completing envelope => ∃ a, Completing requests s r a ∧ a.envelope = envelope
  | .finished (.ok envelope) => AnswerSource requests s r envelope
  | .finished (.error e) => ErrorSource requests s r e
  | .crashed => True

/-- What holds of the calls of a request whatever its phase. -/
structure CallsInv (requests : Nat → Request) (s : Requests) (r : Nat) : Prop where
  reserve : s.calls.call (.reserve r) = .idle ∨
    ∃ a, (requests r).reserveArgs = .ok a ∧ (s.calls.call (.reserve r)).call = some (.reserve a)
  complete : s.calls.call (.complete r) = .idle ∨ ∃ a, Completing requests s r a
  phase : PhaseInv requests s r (s.phase r)

/-- A request runs `reserve` with its own arguments only. -/
theorem CallsInv.reserve_of_call {s : Requests} {r : Nat} (h : CallsInv requests s r)
    {call : CoordinatorCall} (hcall : (s.calls.call (.reserve r)).call = some call) :
    ∃ a, call = .reserve a ∧ (requests r).reserveArgs = .ok a := by
  rcases h.reserve with hidle | ⟨a, hargs, hcall'⟩
  · rw [hidle] at hcall
    cases hcall
  · exact ⟨a, Option.some.inj (hcall.symm.trans hcall'), hargs⟩

/-- A request runs `complete` with the arguments of its own outcome only. -/
theorem CallsInv.complete_of_call {s : Requests} {r : Nat} (h : CallsInv requests s r)
    {call : CoordinatorCall} (hcall : (s.calls.call (.complete r)).call = some call) :
    ∃ a, call = .complete a ∧ Completing requests s r a := by
  rcases h.complete with hidle | ⟨a, hcompleting⟩
  · rw [hidle] at hcall
    cases hcall
  · rcases hcompleting with ⟨reserved, outcome, hacquired, hargs, hcall'⟩
    exact ⟨a, Option.some.inj (hcall.symm.trans hcall'), reserved, outcome, hacquired, hargs, hcall'⟩

theorem CallsInv.reserveArgs_eq {s : Requests} {r : Nat} (h : CallsInv requests s r)
    {a : ReserveArgs} {pc : ReservePc} (hcall : s.calls.call (.reserve r) = .reserve a pc) :
    (requests r).reserveArgs = .ok a := by
  have hown : (s.calls.call (.reserve r)).call = some (.reserve a) := by rw [hcall]; rfl
  rcases h.reserve_of_call hown with ⟨a', heq, hargs⟩
  cases heq
  exact hargs

/-- A request that has called `complete` returns the envelope it gave that call. -/
theorem PhaseInv.completing_of_call {s : Requests} {r : Nat} {envelope : ResponseEnvelope}
    (h : PhaseInv requests s r (.completing envelope)) {a : CompleteArgs} {pc : CompletePc}
    (hcall : s.calls.call (.complete r) = .complete a pc) :
    Completing requests s r a ∧ a.envelope = envelope := by
  have hown : (s.calls.call (.complete r)).call = some (.complete a) := by rw [hcall]; rfl
  rcases h with ⟨a', ⟨reserved, outcome, hacquired, hargs, hcall'⟩, henvelope⟩
  cases hown.symm.trans hcall'
  exact ⟨⟨reserved, outcome, hacquired, hargs, hcall'⟩, henvelope⟩

theorem answerReservation_eq_none {reservation : IdempotencyReservation}
    (h : answerReservation reservation = none) : reservation.status = .acquired := by
  unfold answerReservation at h
  split at h
  · split at h <;> cases h
  · cases h
  · cases h
  · cases h
  · assumption

/-- From `s` to `s'` no call of request `r` is started, and those that are over are kept. -/
structure SameCalls (s s' : Requests) (r : Nat) : Prop where
  reserve_over : (s.calls.call (.reserve r)).over = true →
    s'.calls.call (.reserve r) = s.calls.call (.reserve r)
  reserve_args : (s'.calls.call (.reserve r)).call = (s.calls.call (.reserve r)).call
  complete_over : (s.calls.call (.complete r)).over = true →
    s'.calls.call (.complete r) = s.calls.call (.complete r)
  complete_args : (s'.calls.call (.complete r)).call = (s.calls.call (.complete r)).call

namespace SameCalls

variable {s s' : Requests} {r : Nat}

theorem of_eq (h : s'.calls = s.calls) : SameCalls s s' r := by
  constructor <;> simp [h]

theorem of_step {ce : CoordinatorEvent CallId} (h : s.calls.step ce = some s'.calls)
    (hreserve : ∀ call, ce ≠ .start (.reserve r) call)
    (hcomplete : ∀ call, ce ≠ .start (.complete r) call) : SameCalls s s' r where
  reserve_over := Coordination.over_call_eq h
  reserve_args := CallArguments.of_step h hreserve
  complete_over := Coordination.over_call_eq h
  complete_args := CallArguments.of_step h hcomplete

theorem reserve_idle (h : SameCalls s s' r) (hidle : s.calls.call (.reserve r) = .idle) :
    s'.calls.call (.reserve r) = .idle :=
  CallArguments.eq_idle (by rw [h.reserve_args, hidle]; rfl)

theorem complete_idle (h : SameCalls s s' r) (hidle : s.calls.call (.complete r) = .idle) :
    s'.calls.call (.complete r) = .idle :=
  CallArguments.eq_idle (by rw [h.complete_args, hidle]; rfl)

theorem reserve_done (h : SameCalls s s' r) {a : ReserveArgs}
    {result : Except Exc IdempotencyReservation}
    (hdone : s.calls.call (.reserve r) = .reserve a (.done result)) :
    s'.calls.call (.reserve r) = .reserve a (.done result) := by
  rw [h.reserve_over (by rw [hdone]; rfl), hdone]

theorem complete_done (h : SameCalls s s' r) {a : CompleteArgs} {result : Except Exc Unit}
    (hdone : s.calls.call (.complete r) = .complete a (.done result)) :
    s'.calls.call (.complete r) = .complete a (.done result) := by
  rw [h.complete_over (by rw [hdone]; rfl), hdone]

theorem acquired (h : SameCalls s s' r) {a : ReserveArgs} (ha : Acquired requests s r a) :
    Acquired requests s' r a := by
  rcases ha with ⟨hargs, reservation, hcall, hstatus⟩
  exact ⟨hargs, reservation, h.reserve_done hcall, hstatus⟩

theorem completing (h : SameCalls s s' r) {a : CompleteArgs} (ha : Completing requests s r a) :
    Completing requests s' r a := by
  rcases ha with ⟨reserved, outcome, hacquired, hargs, hcall⟩
  exact ⟨reserved, outcome, h.acquired hacquired, hargs, by rw [h.complete_args, hcall]⟩

theorem errorSource (h : SameCalls s s' r) {e : Exc} (he : ErrorSource requests s r e) :
    ErrorSource requests s' r e := by
  cases he with
  | arguments hargs =>
      exact .arguments hargs
  | reserve a hcall =>
      exact .reserve a (h.reserve_done hcall)
  | replay a reservation hcall hanswer =>
      exact .replay a reservation (h.reserve_done hcall) hanswer
  | entity a hacquired t hnew he =>
      exact .entity a (h.acquired hacquired) t hnew he
  | outcome a hacquired outcome hargs =>
      exact .outcome a (h.acquired hacquired) outcome hargs
  | complete a hcompleting hcall =>
      exact .complete a (h.completing hcompleting) (h.complete_done hcall)
  | cancelled he =>
      exact .cancelled he

theorem answerSource (h : SameCalls s s' r) {envelope : ResponseEnvelope}
    (he : AnswerSource requests s r envelope) : AnswerSource requests s' r envelope := by
  cases he with
  | reservation a reservation hargs hcall hanswer =>
      exact .reservation a reservation hargs (h.reserve_done hcall) hanswer
  | completed a hcompleting hcall henvelope =>
      exact .completed a (h.completing hcompleting) (h.complete_done hcall) henvelope

theorem phaseInv (h : SameCalls s s' r) {phase : Phase} (hp : PhaseInv requests s r phase) :
    PhaseInv requests s' r phase := by
  cases phase with
  | idle =>
      exact ⟨h.reserve_idle hp.1, h.complete_idle hp.2⟩
  | reserving =>
      rcases hp with ⟨hidle, a, hargs, hcall⟩
      exact ⟨h.complete_idle hidle, a, hargs, by rw [h.reserve_args, hcall]⟩
  | acquired keyHash =>
      rcases hp with ⟨hidle, a, hacquired, hkey⟩
      exact ⟨h.complete_idle hidle, a, h.acquired hacquired, hkey⟩
  | awaiting keyHash =>
      rcases hp with ⟨hidle, a, hacquired, hkey⟩
      exact ⟨h.complete_idle hidle, a, h.acquired hacquired, hkey⟩
  | completing envelope =>
      rcases hp with ⟨a, hcompleting, henvelope⟩
      exact ⟨a, h.completing hcompleting, henvelope⟩
  | finished answer =>
      cases answer with
      | ok envelope =>
          exact h.answerSource hp
      | error e =>
          exact h.errorSource hp
  | crashed =>
      trivial

/-- The calls of a request satisfy their invariant again once the new phase does. -/
theorem callsInv (h : SameCalls s s' r) (hinv : CallsInv requests s r)
    (hphase : PhaseInv requests s' r (s'.phase r)) : CallsInv requests s' r where
  reserve := by
    rcases hinv.reserve with hidle | ⟨a, hargs, hcall⟩
    · exact .inl (h.reserve_idle hidle)
    · exact .inr ⟨a, hargs, by rw [h.reserve_args, hcall]⟩
  complete := by
    rcases hinv.complete with hidle | ⟨a, hcompleting⟩
    · exact .inl (h.complete_idle hidle)
    · exact .inr ⟨a, h.completing hcompleting⟩
  phase := hphase

end SameCalls

/-- A step of the request alone: its calls stay, and its new phase fits them. -/
theorem CallsInv.withPhase {s s' : Requests} {r : Nat} (h : CallsInv requests s r)
    (hcalls : s'.calls = s.calls) (hphase : PhaseInv requests s r (s'.phase r)) :
    CallsInv requests s' r :=
  (SameCalls.of_eq hcalls).callsInv h ((SameCalls.of_eq hcalls).phaseInv hphase)

theorem ne_start (e : DatabaseEvent) (c : CallId) (call : CoordinatorCall) :
    e.event ≠ .start c call := by
  cases e <;> simp [DatabaseEvent.event]

@[simp] theorem setPhase_phase_self (s : Requests) (r : Nat) (phase : Phase) :
    (s.setPhase r phase).phase r = phase := by
  simp [setPhase]

theorem setPhase_phase_of_ne (s : Requests) {r r' : Nat} (h : r' ≠ r) (phase : Phase) :
    (s.setPhase r phase).phase r' = s.phase r' := by
  simp [setPhase, h]

@[simp] theorem setPhase_calls (s : Requests) (r : Nat) (phase : Phase) :
    (s.setPhase r phase).calls = s.calls := rfl

/-- The phase of one request is no matter of another. -/
theorem setPhase_frame (s : Requests) {r r₀ : Nat} (h : some r₀ ≠ some r) (phase : Phase) :
    (s.setPhase r₀ phase).phase r = s.phase r ∧ SameCalls s (s.setPhase r₀ phase) r := by
  have hne : r ≠ r₀ := fun heq => h (congrArg some heq.symm)
  exact ⟨setPhase_phase_of_ne s hne phase, .of_eq rfl⟩

/-- An event of another request, or of the database, leaves a request's phase alone and starts none
of its calls. -/
theorem step_frame {s s' : Requests} {e : Event} (h : s.step requests e = some s') {r : Nat}
    (hr : e.request ≠ some r) : s'.phase r = s.phase r ∧ SameCalls s s' r := by
  cases transition_of_step h with
  | arrive r₀ a calls _ _ hstart =>
      -- the call that starts is `reserve r₀`
      have hne : r₀ ≠ r := fun heq => hr (congrArg some heq)
      exact ⟨(setPhase_frame s hr _).1, .of_step hstart (by simp [hne]) (by simp)⟩
  | database e calls hcalls =>
      exact ⟨rfl, .of_step hcalls (ne_start e _) (ne_start e _)⟩
  | respond r₀ keyHash outcome a calls _ _ hstart =>
      -- the call that starts is `complete r₀`
      have hne : r₀ ≠ r := fun heq => hr (congrArg some heq)
      exact ⟨(setPhase_frame s hr _).1, .of_step hstart (by simp) (by simp [hne])⟩
  | crash r₀ calls _ hcalls =>
      refine ⟨(setPhase_frame s hr _).1, ?_⟩
      rcases hcalls with hsame | ⟨c, _, hkill⟩
      · exact .of_eq hsame
      · exact .of_step hkill (by simp) (by simp)
  | invoke r₀ =>
      exact ⟨(setPhase_frame s hr _).1, .of_eq rfl⟩
  | refused r₀ =>
      exact setPhase_frame s hr _
  | answered r₀ =>
      exact setPhase_frame s hr _
  | acquired r₀ =>
      exact setPhase_frame s hr _
  | reserveError r₀ =>
      exact setPhase_frame s hr _
  | invalid r₀ =>
      exact setPhase_frame s hr _
  | escaped r₀ =>
      exact setPhase_frame s hr _
  | finish r₀ =>
      exact setPhase_frame s hr _
  | completeError r₀ =>
      exact setPhase_frame s hr _
  | cancel r₀ =>
      exact setPhase_frame s hr _

/-! ## The invariant along runs -/

theorem callsInv_init (T : Tables) (r : Nat) : CallsInv requests (init T) r where
  reserve := .inl rfl
  complete := .inl rfl
  phase := ⟨rfl, rfl⟩

section OwnEvents

variable {s : Requests} {r : Nat}

/-- A request may end with an exception that has a source. -/
theorem CallsInv.failed (h : CallsInv requests s r) {e : Exc} (he : ErrorSource requests s r e) :
    CallsInv requests (s.setPhase r (.finished (.error e))) r := by
  refine h.withPhase rfl ?_
  rw [setPhase_phase_self]
  exact he

theorem CallsInv.answered (h : CallsInv requests s r) {envelope : ResponseEnvelope}
    (henvelope : AnswerSource requests s r envelope) :
    CallsInv requests (s.setPhase r (.finished (.ok envelope))) r := by
  refine h.withPhase rfl ?_
  rw [setPhase_phase_self]
  exact henvelope

/-- The start of `reserve` is no start of `complete`. -/
theorem CallsInv.arrived (h : CallsInv requests s r) (hidle : s.phase r = .idle) {a : ReserveArgs}
    (hargs : (requests r).reserveArgs = .ok a) {calls : Coordination CallId}
    (hstart : s.calls.step (.start (.reserve r) (.reserve a)) = some calls) :
    CallsInv requests { (s.setPhase r .reserving) with calls := calls } r := by
  have hphase := h.phase
  rw [hidle] at hphase
  rcases CallArguments.of_start hstart with ⟨_, hcall⟩
  have hcomplete : calls.call (.complete r) = .idle := by
    apply CallArguments.eq_idle
    rw [CallArguments.of_step hstart (by simp), hphase.2]
    rfl
  refine ⟨.inr ⟨a, hargs, hcall⟩, .inl hcomplete, ?_⟩
  simp only [setPhase_phase_self]
  exact ⟨hcomplete, a, hargs, hcall⟩

/-- The request goes on to the payment network only after `ACQUIRED`. -/
theorem CallsInv.reserved (h : CallsInv requests s r) (hreserving : s.phase r = .reserving)
    {a : ReserveArgs} {reservation : IdempotencyReservation}
    (hcall : s.calls.call (.reserve r) = .reserve a (.done (.ok reservation)))
    (hanswer : answerReservation reservation = none) :
    CallsInv requests (s.setPhase r (.acquired a.keyHash)) r := by
  have hphase := h.phase
  rw [hreserving] at hphase
  refine h.withPhase rfl ?_
  simp only [setPhase_phase_self]
  exact ⟨hphase.1, a,
    ⟨h.reserveArgs_eq hcall, reservation, hcall, answerReservation_eq_none hanswer⟩, rfl⟩

/-- The start of `complete` leaves the `reserve` that is over. -/
theorem Acquired.kept {reserved : ReserveArgs} (h : Acquired requests s r reserved)
    {a : CompleteArgs} {calls : Coordination CallId}
    (hstart : s.calls.step (.start (.complete r) (.complete a)) = some calls) (phase : Phase) :
    Acquired requests { (s.setPhase r phase) with calls := calls } r reserved := by
  rcases h with ⟨hok, reservation, hdone, hstatus⟩
  have hsame : calls.call (.reserve r) = s.calls.call (.reserve r) :=
    Coordination.over_call_eq hstart (by rw [hdone]; rfl)
  exact ⟨hok, reservation, hsame.trans hdone, hstatus⟩

theorem CallsInv.responded (h : CallsInv requests s r) {keyHash : PyStr}
    (hawaiting : s.phase r = .awaiting keyHash) {outcome : PortOutcome} {a : CompleteArgs}
    (hargs : completion (requests r).command keyHash outcome = .ok a)
    {calls : Coordination CallId}
    (hstart : s.calls.step (.start (.complete r) (.complete a)) = some calls) :
    CallsInv requests { (s.setPhase r (.completing a.envelope)) with calls := calls } r := by
  have hphase := h.phase
  rw [hawaiting] at hphase
  rcases hphase with ⟨_, reserved, hacquired, rfl⟩
  have hkept := hacquired.kept hstart (.completing a.envelope)
  have hcompleting : Completing requests
      { (s.setPhase r (.completing a.envelope)) with calls := calls } r a :=
    ⟨reserved, outcome, hkept, hargs, (CallArguments.of_start hstart).2⟩
  refine ⟨?_, .inr ⟨a, hcompleting⟩, ?_⟩
  · rcases hkept with ⟨hok, reservation, hdone, _⟩
    exact .inr ⟨reserved, hok, congrArg CallState.call hdone⟩
  · simp only [setPhase_phase_self]
    exact ⟨a, hcompleting, rfl⟩

theorem CallsInv.crashed (h : CallsInv requests s r) {calls : Coordination CallId}
    (hcalls : calls = s.calls ∨
      ∃ c, (c = .reserve r ∨ c = .complete r) ∧ s.calls.step (.kill c) = some calls) :
    CallsInv requests { (s.setPhase r .crashed) with calls := calls } r := by
  have hsame : SameCalls s { (s.setPhase r .crashed) with calls := calls } r := by
    rcases hcalls with hsame | ⟨c, _, hkill⟩
    · exact .of_eq hsame
    · exact .of_step hkill (by simp) (by simp)
  refine hsame.callsInv h ?_
  simp [PhaseInv]

end OwnEvents

/-- The request's own event keeps its invariant. -/
theorem own_callsInv {s s' : Requests} {e : Event} {r : Nat} (h : CallsInv requests s r)
    (hstep : s.step requests e = some s') (hr : e.request = some r) : CallsInv requests s' r := by
  have hphase := h.phase
  cases transition_of_step hstep with
  | database e calls hcalls =>
      cases hr
  | arrive r₀ a calls hidle hargs hstart =>
      cases hr
      exact h.arrived hidle hargs hstart
  | refused r₀ e hidle hargs =>
      cases hr
      exact h.failed (.arguments hargs)
  | answered r₀ a reservation answer hreserving hcall hanswer =>
      cases hr
      -- a returned envelope is a replay; the other answers are raised
      cases answer with
      | ok envelope =>
          exact h.answered (.reservation a reservation (h.reserveArgs_eq hcall) hcall hanswer)
      | error e =>
          exact h.failed (.replay a reservation hcall hanswer)
  | acquired r₀ a reservation hreserving hcall hanswer =>
      cases hr
      exact h.reserved hreserving hcall hanswer
  | reserveError r₀ a e hreserving hcall =>
      cases hr
      exact h.failed (.reserve a hcall)
  | invoke r₀ keyHash t hacquired hnew =>
      cases hr
      refine h.withPhase rfl ?_
      rw [hacquired] at hphase
      simp only [setPhase_phase_self]
      exact hphase
  | invalid r₀ keyHash e hacquired hnew =>
      cases hr
      rw [hacquired] at hphase
      rcases hphase with ⟨_, a, ha, _⟩
      exact h.failed (.entity a ha e hnew rfl)
  | respond r₀ keyHash outcome a calls hawaiting hargs hstart =>
      cases hr
      exact h.responded hawaiting hargs hstart
  | escaped r₀ keyHash outcome e hawaiting hargs =>
      cases hr
      rw [hawaiting] at hphase
      rcases hphase with ⟨_, reserved, hacquired, rfl⟩
      exact h.failed (.outcome reserved hacquired outcome hargs)
  | finish r₀ envelope a hcompleting hcall =>
      cases hr
      rw [hcompleting] at hphase
      rcases hphase.completing_of_call hcall with ⟨hc, henvelope⟩
      exact h.answered (.completed a hc hcall henvelope)
  | completeError r₀ envelope a e hcompleting hcall =>
      cases hr
      rw [hcompleting] at hphase
      exact h.failed (.complete a (hphase.completing_of_call hcall).1 hcall)
  | cancel r₀ _ =>
      cases hr
      exact h.failed (.cancelled rfl)
  | crash r₀ calls _ hcalls =>
      cases hr
      exact h.crashed hcalls

theorem step_callsInv {s s' : Requests} {e : Event} (h : ∀ r, CallsInv requests s r)
    (hstep : s.step requests e = some s') (r : Nat) : CallsInv requests s' r := by
  by_cases hr : e.request = some r
  · exact own_callsInv (h r) hstep hr
  · rcases step_frame hstep hr with ⟨hphase, hsame⟩
    refine hsame.callsInv (h r) ?_
    rw [hphase]
    exact hsame.phaseInv (h r).phase

theorem callsInv_of_reachable {T : Tables} {s : Requests}
    (h : Reachable (Requests.step requests) (init T) s) (r : Nat) : CallsInv requests s r :=
  h.invariant (I := fun m => ∀ r, CallsInv requests m r)
    (fun _ _ _ hm hstep => step_callsInv hm hstep) (callsInv_init T) r

end Requests

end System
end TransactionPlatform
