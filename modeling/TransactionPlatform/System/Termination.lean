import Mathlib.Algebra.Order.BigOperators.Group.List
import TransactionPlatform.Infrastructure.Deadlock
import TransactionPlatform.System.Alike
import TransactionPlatform.System.Phases

/-!
# Termination — without faults every request finishes

A request takes at most 15 steps (`stepsLeft`).  As long as one has not finished, some request can
take its next step: a call that waits for a lock waits, directly or through others, for one that can
go on, and at its other steps a request waits for nothing.
-/

namespace TransactionPlatform

open Text Domain Ports Common Application Infrastructure ReadCommitted Transition

/-! ## Statements of a call -/

namespace Infrastructure

variable {ι : Type} [DecidableEq ι]

/-- The statements a `reserve` takes at most until it returns. -/
def ReservePc.left : ReservePc → Nat
  | .select => 7
  | .insertTransaction _ => 6
  | .insertRecord _ => 5
  | .rollbackConflict => 4
  | .requery => 3
  | .requeryTransaction => 2
  | .commitAcquired _ | .commitResult _ | .commitUnexplained | .rollback _ => 1
  | .done _ | .gone => 0

def CompletePc.left : CompletePc → Nat
  | .updateTransaction => 3
  | .updateRecord _ => 2
  | .commit _ | .rollback _ => 1
  | .done _ | .gone => 0

def CallState.left : CallState → Nat
  | .idle => 0
  | .reserve _ pc => pc.left
  | .complete _ pc => pc.left

/-- The process of the call has died. -/
def CallState.dead : CallState → Bool
  | .reserve _ .gone | .complete _ .gone => true
  | _ => false

theorem reserveStep_lowers {s s' : Server Row ι} {c : ι} {a : ReserveArgs} {now : Timestamp}
    {pc pc' : ReservePc} (h : reserveStep s c a now pc = some (s', pc')) :
    pc'.left < pc.left ∧ (CallState.reserve a pc').dead = false := by
  have hclassify : ∀ r, (afterClassify r).left = 1 ∧
      (CallState.reserve a (afterClassify r)).dead = false := by
    intro r
    cases r <;> exact ⟨rfl, rfl⟩
  -- every statement leads to one further down the list
  cases reserveStatement_of_step h with
  | found existing _ | foundAgain existing _ =>
      exact ⟨by rw [(hclassify _).1]; decide, (hclassify _).2⟩
  | _ =>
      exact ⟨by simp [ReservePc.left], rfl⟩

theorem completeStep_lowers {s s' : Server Row ι} {c : ι} {a : CompleteArgs} {now : Timestamp}
    {pc pc' : CompletePc} (h : completeStep s c a now pc = some (s', pc')) :
    pc'.left < pc.left ∧ (CallState.complete a pc').dead = false := by
  cases completeStatement_of_step h with
  | _ =>
      exact ⟨by simp [CompletePc.left], rfl⟩

theorem completeStart_left (a : CompleteArgs) :
    (completeStart a).left ≤ 3 ∧ (CallState.complete a (completeStart a)).dead = false := by
  unfold completeStart
  split
  · exact ⟨Nat.zero_le 3, rfl⟩
  · exact ⟨Nat.le_refl 3, rfl⟩

theorem CoordinatorCall.begin_dead (call : CoordinatorCall) : call.begin.dead = false := by
  cases call with
  | reserve a =>
      rfl
  | complete a =>
      exact (completeStart_left a).2

namespace Coordination

theorem begun {s s' : Coordination ι} {c : ι} {call : CoordinatorCall}
    (h : s.step (.start c call) = some s') : s'.call c = call.begin := by
  cases transition_of_step h with
  | start c call hcall =>
      simp [setCall]

/-- A statement brings its call closer to its end. -/
theorem statement_lowers {s s' : Coordination ι} {c : ι} {now : Timestamp}
    (h : s.step (.step c now) = some s') :
    (s'.call c).left < (s.call c).left ∧ (s'.call c).dead = false := by
  cases transition_of_step h with
  | reserve c now a pc pc' server hcall hs =>
      rw [hcall]
      simpa [setCall, CallState.left] using reserveStep_lowers hs
  | complete c now a pc pc' server hcall hs =>
      rw [hcall]
      simpa [setCall, CallState.left] using completeStep_lowers hs

end Coordination
end Infrastructure

namespace System

/-! ## Runs without faults -/

/-- An event without a fault, in a run in which the network answers request `r` with `answer r`. -/
inductive FaultFree (answer : Nat → PortOutcome) : Event → Prop
  | arrive (r : Nat) : FaultFree answer (.arrive r)
  | statement (c : CallId) (now : Timestamp) : FaultFree answer (.database (.step c now))
  | resume (r : Nat) : FaultFree answer (.resume r)
  | invoke (r : Nat) : FaultFree answer (.invoke r)
  | respond (r : Nat) : FaultFree answer (.respond r (answer r))
  | finish (r : Nat) : FaultFree answer (.finish r)

/-- The events are steps of the requests in `order`, without faults. -/
def Undisturbed (answer : Nat → PortOutcome) (order : List Nat) (es : List Event) : Prop :=
  ∀ e ∈ es, FaultFree answer e ∧ e.owner ∈ order

def AllFinished (order : List Nat) (s : Requests) : Prop :=
  ∀ r ∈ order, ∃ answer, s.phase r = .finished answer

namespace Requests

variable {requests : Nat → Request} {order : List Nat} {answer : Nat → PortOutcome}

theorem owner_of_request {e : Event} {r : Nat} (h : e.request = some r) : e.owner = r := by
  cases e with
  | database d =>
      cases h
  | _ =>
      exact Option.some.inj h

theorem Causes.owner {e : Event} {ce : CoordinatorEvent CallId} (h : Causes e ce) :
    ce.id.request = e.owner := by
  cases h with
  | arrive r a =>
      rfl
  | database d =>
      rfl
  | respond r outcome a =>
      rfl
  | crash r c hc =>
      rcases hc with rfl | rfl <;> rfl

/-- Without faults calls only begin and run their statements. -/
theorem FaultFree.causes {e : Event} {ce : CoordinatorEvent CallId} (hfree : FaultFree answer e)
    (h : Causes e ce) : (∃ c call, ce = .start c call) ∨ ∃ c now, ce = .step c now := by
  cases h with
  | arrive r a =>
      exact .inl ⟨_, _, rfl⟩
  | respond r outcome a =>
      exact .inl ⟨_, _, rfl⟩
  | database d =>
      cases hfree with
      | statement c now =>
          exact .inr ⟨c, now, rfl⟩
  | crash r c hc =>
      cases hfree

/-! ## Calls at rest -/

/-- A call that has not been made, or that is over. -/
def Rests (cs : CallState) : Prop :=
  cs = .idle ∨ cs.over = true

/-- Without faults a request that has finished has no call running. -/
def QuietInv (s : Requests) : Prop :=
  ∀ r, (∃ answer, s.phase r = .finished answer) ∨ s.phase r = .crashed →
    Rests (s.calls.call (.reserve r)) ∧ Rests (s.calls.call (.complete r))

theorem Rests.kept {s s' : Requests} {r : Nat} (hsame : SameCalls s s' r)
    (h : Rests (s.calls.call (.reserve r)) ∧ Rests (s.calls.call (.complete r))) :
    Rests (s'.calls.call (.reserve r)) ∧ Rests (s'.calls.call (.complete r)) := by
  constructor
  · rcases h.1 with hidle | hover
    · exact .inl (hsame.reserve_idle hidle)
    · exact .inr (by rw [hsame.reserve_over hover, hover])
  · rcases h.2 with hidle | hover
    · exact .inl (hsame.complete_idle hidle)
    · exact .inr (by rw [hsame.complete_over hover, hover])

theorem Acquired.rests {s : Requests} {r : Nat} {a : ReserveArgs} (h : Acquired requests s r a) :
    Rests (s.calls.call (.reserve r)) := by
  rcases h with ⟨_, reservation, hcall, _⟩
  rw [hcall]
  exact .inr rfl

theorem own_quiet {s s' : Requests} {e : Event} {r : Nat} (hinv : CallsInv requests s r)
    (hstep : s.step requests e = some s') (hfree : FaultFree answer e) (hr : e.request = some r)
    (hfinished : (∃ answer, s'.phase r = .finished answer) ∨ s'.phase r = .crashed) :
    Rests (s'.calls.call (.reserve r)) ∧ Rests (s'.calls.call (.complete r)) := by
  have hphase := hinv.phase
  -- the request finishes where it has no call, or where its last call has returned
  cases transition_of_step hstep with
  | database e calls hcalls =>
      cases hr
  | cancel r₀ _ =>
      cases hfree
  | crash r₀ calls _ _ =>
      cases hfree
  | refused r₀ e hidle hargs =>
      cases hr
      rw [hidle] at hphase
      exact ⟨.inl hphase.1, .inl hphase.2⟩
  | answered r₀ a reservation answer hreserving hcall hanswer =>
      cases hr
      rw [hreserving] at hphase
      exact ⟨.inr (by rw [setPhase_calls, hcall]; rfl), .inl hphase.1⟩
  | reserveError r₀ a e hreserving hcall =>
      cases hr
      rw [hreserving] at hphase
      exact ⟨.inr (by rw [setPhase_calls, hcall]; rfl), .inl hphase.1⟩
  | invalid r₀ keyHash e hacquired hnew =>
      cases hr
      rw [hacquired] at hphase
      rcases hphase with ⟨hidle, a, ha, _⟩
      exact ⟨ha.rests, .inl hidle⟩
  | escaped r₀ keyHash outcome e hawaiting hargs =>
      cases hr
      rw [hawaiting] at hphase
      rcases hphase with ⟨hidle, a, ha, _⟩
      exact ⟨ha.rests, .inl hidle⟩
  | finish r₀ envelope a hcompleting hcall =>
      cases hr
      rw [hcompleting] at hphase
      rcases hphase with ⟨_, ⟨reserved, _, ha, _⟩, _⟩
      exact ⟨ha.rests, .inr (by rw [setPhase_calls, hcall]; rfl)⟩
  | completeError r₀ envelope a e hcompleting hcall =>
      cases hr
      rw [hcompleting] at hphase
      rcases hphase with ⟨_, ⟨reserved, _, ha, _⟩, _⟩
      exact ⟨ha.rests, .inr (by rw [setPhase_calls, hcall]; rfl)⟩
  | arrive r₀ a calls _ _ _ =>
      cases hr
      simp at hfinished
  | acquired r₀ a reservation _ _ _ =>
      cases hr
      simp at hfinished
  | invoke r₀ keyHash t _ _ =>
      cases hr
      simp at hfinished
  | respond r₀ keyHash outcome a calls _ _ _ =>
      cases hr
      simp at hfinished

theorem step_quiet {T : Tables} {s s' : Requests} {e : Event}
    (hreach : Reachable (Requests.step requests) (init T) s) (h : QuietInv s)
    (hfree : FaultFree answer e) (hstep : s.step requests e = some s') : QuietInv s' := by
  intro r hfinished
  by_cases hr : e.request = some r
  · exact own_quiet (callsInv_of_reachable hreach r) hstep hfree hr hfinished
  · rcases step_frame hstep hr with ⟨hphase, hsame⟩
    rw [hphase] at hfinished
    exact Rests.kept hsame (h r hfinished)

/-- Only the call a request waits for can be running. -/
theorem rests_of_phase {T : Tables} {s : Requests}
    (hreach : Reachable (Requests.step requests) (init T) s) (hquiet : QuietInv s) (r : Nat) :
    (s.phase r = .reserving ∨ Rests (s.calls.call (.reserve r))) ∧
      ((∃ envelope, s.phase r = .completing envelope) ∨ Rests (s.calls.call (.complete r))) := by
  have hinv := (callsInv_of_reachable hreach r).phase
  -- the phase says which call is waited for
  cases hphase : s.phase r with
  | idle =>
      rw [hphase] at hinv
      exact ⟨.inr (.inl hinv.1), .inr (.inl hinv.2)⟩
  | reserving =>
      rw [hphase] at hinv
      exact ⟨.inl rfl, .inr (.inl hinv.1)⟩
  | acquired keyHash =>
      rw [hphase] at hinv
      rcases hinv with ⟨hidle, a, ha, _⟩
      exact ⟨.inr ha.rests, .inr (.inl hidle)⟩
  | awaiting keyHash =>
      rw [hphase] at hinv
      rcases hinv with ⟨hidle, a, ha, _⟩
      exact ⟨.inr ha.rests, .inr (.inl hidle)⟩
  | completing envelope =>
      rw [hphase] at hinv
      rcases hinv with ⟨_, ⟨reserved, _, ha, _⟩, _⟩
      exact ⟨.inr ha.rests, .inl ⟨envelope, rfl⟩⟩
  | finished answer =>
      rcases hquiet r (.inl ⟨answer, hphase⟩) with ⟨hreserve, hcomplete⟩
      exact ⟨.inr hreserve, .inr hcomplete⟩
  | crashed =>
      rcases hquiet r (.inr hphase) with ⟨hreserve, hcomplete⟩
      exact ⟨.inr hreserve, .inr hcomplete⟩

/-- A call that takes a step is running. -/
theorem not_rests_of_step {s s' : Coordination CallId} {c : CallId} {now : Timestamp}
    (h : s.step (.step c now) = some s') : ¬ Rests (s.call c) := by
  rintro (hidle | hover)
  · cases Coordination.transition_of_step h with
    | reserve c now a pc pc' server hcall hs =>
        cases hidle.symm.trans hcall
    | complete c now a pc pc' server hcall hs =>
        cases hidle.symm.trans hcall
  · cases Coordination.transition_of_step h with
    | reserve c now a pc pc' server hcall hs =>
        rw [hcall] at hover
        cases (Coordination.reserveStep_running hs).symm.trans hover
    | complete c now a pc pc' server hcall hs =>
        rw [hcall] at hover
        cases (Coordination.completeStep_running hs).symm.trans hover

/-! ## What holds along runs without faults -/

/-- Along runs without faults of the requests in `order`: no transaction and no call has lost its client,
and no other request has begun. -/
structure CalmInv (order : List Nat) (s : Requests) : Prop where
  quiet : QuietInv s
  orphan : ∀ c, s.calls.orphan c = .none
  living : ∀ c, (s.calls.call c).dead = false
  running : ∀ r, s.phase r ≠ .crashed
  outside : ∀ r, r ∉ order → s.phase r = .idle

theorem calm_init (order : List Nat) (T : Tables) : CalmInv order (init T) where
  quiet := by
    rintro r (⟨answer, hphase⟩ | hphase) <;> cases hphase
  orphan := fun _ => rfl
  living := fun _ => rfl
  running := fun _ => by simp [init]
  outside := fun _ _ => rfl

theorem step_orphan {s s' : Requests} {e : Event} (hfree : FaultFree answer e)
    (hstep : s.step requests e = some s') (c : CallId) :
    s'.calls.orphan c = s.calls.orphan c := by
  rcases step_causes hstep with hsame | ⟨ce, hcauses, hce⟩
  · rw [hsame]
  · generalize s'.calls = calls at hce
    rcases FaultFree.causes hfree hcauses with ⟨_, _, rfl⟩ | ⟨_, _, rfl⟩
    · cases Coordination.transition_of_step hce
      rfl
    · cases Coordination.transition_of_step hce <;> rfl

theorem step_dead {s s' : Requests} {e : Event} (hfree : FaultFree answer e)
    (hstep : s.step requests e = some s') {c : CallId} (h : (s.calls.call c).dead = false) :
    (s'.calls.call c).dead = false := by
  rcases step_causes hstep with hsame | ⟨ce, hcauses, hce⟩
  · rw [hsame]
    exact h
  · by_cases hc : c = ce.id
    · rcases FaultFree.causes hfree hcauses with ⟨c', call, rfl⟩ | ⟨c', now, rfl⟩
      · obtain rfl : c = c' := hc
        rw [Coordination.begun hce]
        exact call.begin_dead
      · obtain rfl : c = c' := hc
        exact (Coordination.statement_lowers hce).2
    · rw [(Coordination.step_frame hce hc).1]
      exact h

theorem step_calm {T : Tables} {s s' : Requests} {e : Event}
    (hreach : Reachable (Requests.step requests) (init T) s) (h : CalmInv order s)
    (hfree : FaultFree answer e) (howner : e.owner ∈ order)
    (hstep : s.step requests e = some s') : CalmInv order s' where
  quiet := step_quiet hreach h.quiet hfree hstep
  orphan := fun c => by rw [step_orphan hfree hstep, h.orphan]
  living := fun c => step_dead hfree hstep (h.living c)
  running := by
    intro r
    -- a request of another name keeps its phase
    by_cases hr : e.request = some r
    · cases transition_of_step hstep with
      | database e calls hcalls =>
          cases hr
      | crash r₀ calls _ _ =>
          cases hfree
      | _ =>
          cases hr
          simp
    · rw [(step_frame hstep hr).1]
      exact h.running r
  outside := by
    intro r hr
    have hne : e.request ≠ some r := by
      intro hrequest
      exact hr (owner_of_request hrequest ▸ howner)
    rw [(step_frame hstep hne).1]
    exact h.outside r hr

/-! ## The steps of a request -/

/-- The steps request `r` takes at most until it has finished. -/
def stepsLeft (s : Requests) (r : Nat) : Nat :=
  match s.phase r with
  | .idle => 15
  | .reserving => (s.calls.call (.reserve r)).left + 7
  | .acquired _ => 6
  | .awaiting _ => 5
  | .completing _ => (s.calls.call (.complete r)).left + 1
  | .finished _ => 0
  | .crashed => 0

theorem stepsLeft_frame {s s' : Requests} {e : Event} (hstep : s.step requests e = some s') {r : Nat}
    (hr : e.owner ≠ r) : s'.stepsLeft r = s.stepsLeft r := by
  have hphase : s'.phase r = s.phase r :=
    (step_frame hstep fun hrequest => hr (owner_of_request hrequest)).1
  have hcalls : ∀ c : CallId, c.request = r → s'.calls.call c = s.calls.call c := by
    intro c hc
    rcases step_causes hstep with hsame | ⟨ce, hcauses, hce⟩
    · rw [hsame]
    · refine (Coordination.step_frame hce ?_).1
      rintro rfl
      exact hr (hcauses.owner.symm.trans hc)
  simp only [stepsLeft, hphase, hcalls (.reserve r) rfl, hcalls (.complete r) rfl]

/-- Every step of a request brings it closer to its end. -/
theorem stepsLeft_lt {T : Tables} {s s' : Requests} {e : Event}
    (hreach : Reachable (Requests.step requests) (init T) s) (hquiet : QuietInv s)
    (hfree : FaultFree answer e) (hstep : s.step requests e = some s') :
    s'.stepsLeft e.owner < s.stepsLeft e.owner := by
  cases transition_of_step hstep with
  | arrive r a calls hphase _ hstart =>
      simp [stepsLeft, Event.owner, hphase, Coordination.begun hstart, CoordinatorCall.begin,
        CallState.left, ReservePc.left]
  -- a statement belongs to the call its request waits for
  | database d calls hcalls =>
      cases hfree with
      | statement c now =>
          have hrunning := not_rests_of_step hcalls
          have hlow := (Coordination.statement_lowers hcalls).1
          cases c with
          | reserve r =>
              rcases (rests_of_phase hreach hquiet r).1 with hphase | hrests
              · simpa [stepsLeft, Event.owner, DatabaseEvent.event, CoordinatorEvent.id,
                  CallId.request, hphase] using hlow
              · exact absurd hrests hrunning
          | complete r =>
              rcases (rests_of_phase hreach hquiet r).2 with ⟨envelope, hphase⟩ | hrests
              · simpa [stepsLeft, Event.owner, DatabaseEvent.event, CoordinatorEvent.id,
                  CallId.request, hphase] using hlow
              · exact absurd hrests hrunning
  | respond r keyHash outcome a calls hphase _ hstart =>
      have hleft := (completeStart_left a).1
      simp [stepsLeft, Event.owner, hphase, Coordination.begun hstart, CoordinatorCall.begin,
        CallState.left]
      omega
  | cancel r _ =>
      cases hfree
  | crash r calls _ _ =>
      cases hfree
  | _ =>
      simp [stepsLeft, Event.owner, *]

/-! ## There is always a next step -/

theorem arrive_runs {s : Requests} {r : Nat} (hphase : s.phase r = .idle)
    (hidle : s.calls.call (.reserve r) = .idle) :
    ∃ t, s.step requests (.arrive r) = some t := by
  cases hargs : (requests r).reserveArgs with
  | error e =>
      simp [step, arrive, hphase, hargs]
  | ok a =>
      simp [step, arrive, await, Coordination.step, Coordination.start, hphase, hargs, hidle]

theorem resume_runs {s : Requests} {r : Nat} {a : ReserveArgs}
    {result : Except Exc IdempotencyReservation} (hphase : s.phase r = .reserving)
    (hcall : s.calls.call (.reserve r) = .reserve a (.done result)) :
    ∃ t, s.step requests (.resume r) = some t := by
  cases result with
  | error e =>
      simp [step, resume, hphase, hcall]
  | ok reservation =>
      cases hanswer : answerReservation reservation with
      | none =>
          simp [step, resume, hphase, hcall, hanswer]
      | some answer =>
          simp [step, resume, hphase, hcall, hanswer]

theorem invoke_runs {s : Requests} {r : Nat} {keyHash : PyStr}
    (hphase : s.phase r = .acquired keyHash) : ∃ t, s.step requests (.invoke r) = some t := by
  cases hnew : Transaction.new (requests r).command.transactionId with
  | error e =>
      simp [step, invoke, hphase, hnew]
  | ok t =>
      simp [step, invoke, hphase, hnew]

theorem respond_runs {s : Requests} {r : Nat} {keyHash : PyStr} (outcome : PortOutcome)
    (hphase : s.phase r = .awaiting keyHash) (hidle : s.calls.call (.complete r) = .idle) :
    ∃ t, s.step requests (.respond r outcome) = some t := by
  cases hargs : completion (requests r).command keyHash outcome with
  | error e =>
      simp [step, respond, hphase, hargs]
  | ok a =>
      simp [step, respond, await, Coordination.step, Coordination.start, hphase, hargs, hidle]

theorem finish_runs {s : Requests} {r : Nat} {envelope : ResponseEnvelope} {a : CompleteArgs}
    {result : Except Exc Unit} (hphase : s.phase r = .completing envelope)
    (hcall : s.calls.call (.complete r) = .complete a (.done result)) :
    ∃ t, s.step requests (.finish r) = some t := by
  cases result with
  | error e =>
      simp [step, finish, hphase, hcall]
  | ok u =>
      simp [step, finish, hphase, hcall]

/-- Where no call is running, each request that has not finished can take a step. -/
theorem next_at_rest {T : Tables} {s : Requests}
    (hreach : Reachable (Requests.step requests) (init T) s) (h : CalmInv order s)
    (hrest : ∀ c, ¬ s.calls.Unfinished c) {r : Nat}
    (hopen : ∀ result, s.phase r ≠ .finished result) :
    ∃ e t, FaultFree answer e ∧ e.owner = r ∧ s.step requests e = some t := by
  have hinv := (callsInv_of_reachable hreach r).phase
  -- a call that is at rest and has been made has returned
  have hover : ∀ c, s.calls.call c ≠ .idle → (s.calls.call c).over = true := by
    intro c hbegun
    by_contra hrunning
    exact hrest c ⟨hbegun, by simpa using hrunning⟩
  cases hphase : s.phase r with
  | idle =>
      rw [hphase] at hinv
      rcases arrive_runs hphase hinv.1 with ⟨t, ht⟩
      exact ⟨_, t, .arrive r, rfl, ht⟩
  | reserving =>
      rw [hphase] at hinv
      rcases hinv with ⟨_, a, _, hcall⟩
      rcases CallArguments.eq_reserve hcall with ⟨pc, hpc⟩
      have hdone := hover (.reserve r) (by rw [hpc]; simp)
      have hliving := h.living (.reserve r)
      rw [hpc] at hdone hliving
      cases pc with
      | done result =>
          rcases resume_runs hphase hpc with ⟨t, ht⟩
          exact ⟨_, t, .resume r, rfl, ht⟩
      | gone =>
          cases hliving
      | _ =>
          cases hdone
  | acquired keyHash =>
      rcases invoke_runs hphase with ⟨t, ht⟩
      exact ⟨_, t, .invoke r, rfl, ht⟩
  | awaiting keyHash =>
      rw [hphase] at hinv
      rcases respond_runs (answer r) hphase hinv.1 with ⟨t, ht⟩
      exact ⟨_, t, .respond r, rfl, ht⟩
  | completing envelope =>
      rw [hphase] at hinv
      rcases hinv with ⟨a, ⟨_, _, _, _, hcall⟩, _⟩
      rcases CallArguments.eq_complete hcall with ⟨pc, hpc⟩
      have hdone := hover (.complete r) (by rw [hpc]; simp)
      have hliving := h.living (.complete r)
      rw [hpc] at hdone hliving
      cases pc with
      | done result =>
          rcases finish_runs hphase hpc with ⟨t, ht⟩
          exact ⟨_, t, .finish r, rfl, ht⟩
      | gone =>
          cases hliving
      | _ =>
          cases hdone
  | finished result =>
      exact absurd hphase (hopen result)
  | crashed =>
      exact absurd hphase (h.running r)

/-- As long as a request has not finished, some request can take a step. -/
theorem exists_next {T : Tables} {s : Requests}
    (hreach : Reachable (Requests.step requests) (init T) s) (h : CalmInv order s)
    (hopen : ¬ AllFinished order s) :
    ∃ e t, (FaultFree answer e ∧ e.owner ∈ order) ∧ s.step requests e = some t := by
  by_cases hrest : ∀ c, ¬ s.calls.Unfinished c
  · -- at rest a request goes on by itself
    have hsome : ∃ r ∈ order, ∀ result, s.phase r ≠ .finished result := by
      simpa [AllFinished] using hopen
    rcases hsome with ⟨r, hr, hphase⟩
    have hnext : ∃ e t, FaultFree answer e ∧ e.owner = r ∧ s.step requests e = some t :=
      next_at_rest hreach h hrest hphase
    rcases hnext with ⟨e, t, hfree, howner, ht⟩
    exact ⟨e, t, ⟨hfree, howner ▸ hr⟩, ht⟩
  · -- some call is running, so one of them is not waiting
    rcases not_forall.mp hrest with ⟨c, hrunning⟩
    have hinv := Coordination.inv_of_reachable (calls_reachable hreach)
    rcases Coordination.waits_end hinv (not_not.mp hrunning) with
      ⟨c', _, ⟨⟨hbegun, _⟩, hmoves⟩ | horphan⟩
    · rcases Option.isSome_iff_exists.mp (hmoves 0) with ⟨calls, hcalls⟩
      have howner : c'.request ∈ order := by
        by_contra hnot
        have hidle := (callsInv_of_reachable hreach c'.request).phase
        rw [h.outside c'.request hnot] at hidle
        cases c' with
        | reserve r =>
            exact hbegun hidle.1
        | complete r =>
            exact hbegun hidle.2
      refine ⟨.database (.step c' 0), { s with calls := calls }, ⟨.statement c' 0, howner⟩, ?_⟩
      simp [step, DatabaseEvent.event, hcalls]
    · exact absurd (h.orphan c') horphan

/-! ## Every request finishes -/

/-- Every step lowers the number of steps left to all requests together. -/
theorem sum_stepsLeft_lt {T : Tables} {s s' : Requests} {e : Event}
    (hreach : Reachable (Requests.step requests) (init T) s) (hcalm : CalmInv order s)
    (hfree : FaultFree answer e) (howner : e.owner ∈ order) (hstep : s.step requests e = some s') :
    (order.map s'.stepsLeft).sum < (order.map s.stepsLeft).sum := by
  have hlow := stepsLeft_lt hreach hcalm.quiet hfree hstep
  refine List.sum_lt_sum _ _ ?_ ⟨e.owner, howner, hlow⟩
  intro r _
  by_cases hr : e.owner = r
  · exact Nat.le_of_lt (hr ▸ hlow)
  · exact Nat.le_of_eq (stepsLeft_frame hstep hr)

theorem sum_stepsLeft_init (order : List Nat) (T : Tables) :
    (order.map (init T).stepsLeft).sum = 15 * order.length := by
  have hall : order.map (init T).stepsLeft = order.map (fun _ => 15) := rfl
  rw [hall, List.map_const', List.sum_replicate_nat, Nat.mul_comm]

/-- Without faults every run of the requests in `order` has at most 15 steps for each of them, and
goes on to a state where all of them have finished. -/
theorem all_finish {T : Tables} {es : List Event} (hes : Undisturbed answer order es) {s : Requests}
    (hrun : exec (Requests.step requests) (init T) es = some s) :
    es.length ≤ 15 * order.length ∧
      ∃ more t, Undisturbed answer order more ∧
        exec (Requests.step requests) s more = some t ∧ AllFinished order t := by
  -- the measure is the sum of the steps that are left to the requests
  have hkept : ∀ m e m', (Reachable (Requests.step requests) (init T) m ∧ CalmInv order m) →
      (FaultFree answer e ∧ e.owner ∈ order) → m.step requests e = some m' →
      Reachable (Requests.step requests) (init T) m' ∧ CalmInv order m' := by
    rintro m e m' ⟨hreach, hcalm⟩ ⟨hfree, howner⟩ hstep
    exact ⟨hreach.next hstep, step_calm hreach hcalm hfree howner hstep⟩
  have hless : ∀ m e m', (Reachable (Requests.step requests) (init T) m ∧ CalmInv order m) →
      (FaultFree answer e ∧ e.owner ∈ order) → m.step requests e = some m' →
      (order.map m'.stepsLeft).sum < (order.map m.stepsLeft).sum := by
    rintro m e m' ⟨hreach, hcalm⟩ ⟨hfree, howner⟩ hstep
    exact sum_stepsLeft_lt hreach hcalm hfree howner hstep
  have hinit : Reachable (Requests.step requests) (init T) (init T) ∧ CalmInv order (init T) :=
    ⟨Reachable.refl _, calm_init order T⟩
  constructor
  · have hlength := exec_length_le hkept hless hinit hes hrun
    rw [sum_stepsLeft_init] at hlength
    omega
  · refine exists_exec hkept hless ?_ (exec_invariant_of hkept hinit hes hrun)
    rintro m ⟨hreach, hcalm⟩ hopen
    exact exists_next hreach hcalm hopen

end Requests

end System
end TransactionPlatform
