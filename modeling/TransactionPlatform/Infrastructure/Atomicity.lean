import TransactionPlatform.Infrastructure.Sessions

/-!
# Atomicity — the tables change by whole calls

`Transition` lists what an event of the coordination system can do, and every later argument
starts from it; `ReserveOrigin` and `CompleteOrigin` turn it round and list where the state of a call
can come from.  The main results are `step_inv` (the session invariant holds along every run) and
`step_effect` (a step leaves tables and log alone, or appends one call to the log and applies that
call to the tables in one piece).
-/

namespace TransactionPlatform
namespace Infrastructure

open Text Domain Ports ReadCommitted Transition

variable {ι : Type}

namespace Coordination

/-! ## Transitions -/

variable [DecidableEq ι]

/-- The step function as a relation with one constructor for each kind of transition. -/
inductive Transition (s : Coordination ι) : CoordinatorEvent ι → Coordination ι → Prop
  | start (c : ι) (call : CoordinatorCall) (hcall : s.call c = .idle) :
      Transition s (.start c call) (s.setCall c call.begin)
  | reserve (c : ι) (now : Timestamp) (a : ReserveArgs) (pc pc' : ReservePc)
      (server : Server Row ι) (hcall : s.call c = .reserve a pc)
      (hstep : reserveStep s.server c a now pc = some (server, pc')) :
      Transition s (.step c now)
        { (s.setCall c (.reserve a pc')) with
          server := server
          log := s.log ++ reserveLogged c a pc }
  | complete (c : ι) (now : Timestamp) (a : CompleteArgs) (pc pc' : CompletePc)
      (server : Server Row ι) (hcall : s.call c = .complete a pc)
      (hstep : completeStep s.server c a now pc = some (server, pc')) :
      Transition s (.step c now)
        { (s.setCall c (.complete a pc')) with
          server := server
          log := s.log ++ completeLogged c a pc }
  | reserveFail (c : ι) (fault : Fault) (a : ReserveArgs) (pc pc' : ReservePc) (o : Orphan)
      (hcall : s.call c = .reserve a pc)
      (hfail : reserveFail (fault.during reservationFailed) pc = some (pc', o)) :
      Transition s (.fail c fault)
        { (s.setCall c (.reserve a pc')) with orphan := Function.update s.orphan c o }
  | completeFail (c : ι) (fault : Fault) (a : CompleteArgs) (pc pc' : CompletePc) (o : Orphan)
      (hcall : s.call c = .complete a pc)
      (hfail : completeFail (fault.during completionFailed) pc = some (pc', o)) :
      Transition s (.fail c fault)
        { (s.setCall c (.complete a pc')) with orphan := Function.update s.orphan c o }
  | reserveKill (c : ι) (a : ReserveArgs) (pc : ReservePc) (o : Orphan)
      (hcall : s.call c = .reserve a pc) (hkill : reserveKill pc = some o) :
      Transition s (.kill c)
        { (s.setCall c (.reserve a .gone)) with orphan := Function.update s.orphan c o }
  | completeKill (c : ι) (a : CompleteArgs) (pc : CompletePc) (o : Orphan)
      (hcall : s.call c = .complete a pc) (hkill : completeKill pc = some o) :
      Transition s (.kill c)
        { (s.setCall c (.complete a .gone)) with orphan := Function.update s.orphan c o }
  | land (c : ι) (now : Timestamp) (call : CoordinatorCall)
      (horphan : s.orphan c = .inFlight now) (hcall : (s.call c).call = some call) :
      Transition s (.land c)
        { s with
          server := s.server.commit c
          orphan := Function.update s.orphan c .none
          log := s.log ++ [⟨c, call, now⟩] }
  | reap (c : ι) (horphan : s.orphan c ≠ .none) :
      Transition s (.reap c)
        { s with
          server := s.server.rollback c
          orphan := Function.update s.orphan c .none }

section Handlers

variable {s s' : Coordination ι} {c : ι}

theorem transition_of_start {call : CoordinatorCall} (h : s.start c call = some s') :
    Transition s (.start c call) s' := by
  cases hcall : s.call c with
  | idle =>
      simp only [Coordination.start, hcall, Option.some.injEq] at h
      subst h
      exact .start c call hcall
  | _ =>
      simp [Coordination.start, hcall] at h

theorem transition_of_stepCall {now : Timestamp} (h : s.stepCall c now = some s') :
    Transition s (.step c now) s' := by
  cases hcall : s.call c with
  | idle =>
      simp [stepCall, hcall] at h
  | reserve a pc =>
      cases hstep : reserveStep s.server c a now pc with
      | none =>
          simp [stepCall, hcall, hstep] at h
      | some next =>
          simp only [stepCall, hcall, hstep, Option.some.injEq] at h
          subst h
          exact .reserve c now a pc next.2 next.1 hcall hstep
  | complete a pc =>
      cases hstep : completeStep s.server c a now pc with
      | none =>
          simp [stepCall, hcall, hstep] at h
      | some next =>
          simp only [stepCall, hcall, hstep, Option.some.injEq] at h
          subst h
          exact .complete c now a pc next.2 next.1 hcall hstep

theorem transition_of_failCall {fault : Fault} (h : s.failCall c fault = some s') :
    Transition s (.fail c fault) s' := by
  cases hcall : s.call c with
  | idle =>
      simp [failCall, hcall] at h
  | reserve a pc =>
      cases hfail : Infrastructure.reserveFail (fault.during reservationFailed) pc with
      | none =>
          simp [failCall, hcall, hfail] at h
      | some next =>
          simp only [failCall, hcall, hfail, Option.some.injEq] at h
          subst h
          exact .reserveFail c fault a pc next.1 next.2 hcall hfail
  | complete a pc =>
      cases hfail : Infrastructure.completeFail (fault.during completionFailed) pc with
      | none =>
          simp [failCall, hcall, hfail] at h
      | some next =>
          simp only [failCall, hcall, hfail, Option.some.injEq] at h
          subst h
          exact .completeFail c fault a pc next.1 next.2 hcall hfail

theorem transition_of_killCall (h : s.killCall c = some s') : Transition s (.kill c) s' := by
  cases hcall : s.call c with
  | idle =>
      simp [killCall, hcall] at h
  | reserve a pc =>
      cases hkill : Infrastructure.reserveKill pc with
      | none =>
          simp [killCall, hcall, hkill] at h
      | some o =>
          simp only [killCall, hcall, hkill, Option.some.injEq] at h
          subst h
          exact .reserveKill c a pc o hcall hkill
  | complete a pc =>
      cases hkill : Infrastructure.completeKill pc with
      | none =>
          simp [killCall, hcall, hkill] at h
      | some o =>
          simp only [killCall, hcall, hkill, Option.some.injEq] at h
          subst h
          exact .completeKill c a pc o hcall hkill

theorem transition_of_land (h : s.land c = some s') : Transition s (.land c) s' := by
  cases horphan : s.orphan c with
  | inFlight now =>
      cases hcall : (s.call c).call with
      | none =>
          simp [Coordination.land, horphan, hcall] at h
      | some call =>
          simp only [Coordination.land, horphan, hcall, Option.some.injEq] at h
          subst h
          exact .land c now call horphan hcall
  | _ =>
      simp [Coordination.land, horphan] at h

theorem transition_of_reap (h : s.reap c = some s') : Transition s (.reap c) s' := by
  cases horphan : s.orphan c with
  | none =>
      simp [Coordination.reap, horphan] at h
  | _ =>
      simp only [Coordination.reap, horphan, Option.some.injEq] at h
      subst h
      exact .reap c (by simp [horphan])

end Handlers

theorem transition_of_step {s s' : Coordination ι} {e : CoordinatorEvent ι}
    (h : s.step e = some s') : Transition s e s' := by
  cases e with
  | start c call =>
      exact transition_of_start h
  | step c now =>
      exact transition_of_stepCall h
  | fail c fault =>
      exact transition_of_failCall h
  | kill c =>
      exact transition_of_killCall h
  | land c =>
      exact transition_of_land h
  | reap c =>
      exact transition_of_reap h

end Coordination

/-- The call an event belongs to. -/
def CoordinatorEvent.id : CoordinatorEvent ι → ι
  | .start c _ => c
  | .step c _ => c
  | .fail c _ => c
  | .kill c => c
  | .land c => c
  | .reap c => c

/-- The call has returned, or its process is gone. -/
def CallState.over : CallState → Bool
  | .reserve _ (.done _) | .reserve _ .gone => true
  | .complete _ (.done _) | .complete _ .gone => true
  | _ => false

namespace Coordination

section Steps

variable [DecidableEq ι]

/-- An event leaves the state of every other call alone. -/
theorem step_frame {s s' : Coordination ι} {e : CoordinatorEvent ι} (h : s.step e = some s') {c : ι}
    (hc : c ≠ e.id) : s'.call c = s.call c ∧ s'.orphan c = s.orphan c := by
  cases transition_of_step h <;> simp only [CoordinatorEvent.id] at hc <;>
    simp [setCall, Function.update_of_ne hc]

/-- Without a fault and without an orphan, an event of a `reserve` call runs its next
statement. -/
theorem reserve_own_step {s s' : Coordination ι} {e : CoordinatorEvent ι} (h : s.step e = some s')
    {a : ReserveArgs} {pc : ReservePc} (hcall : s.call e.id = .reserve a pc)
    (horphan : s.orphan e.id = .none) (hfail : ∀ fault, e ≠ .fail e.id fault)
    (hkill : e ≠ .kill e.id) :
    ∃ now pc', e = .step e.id now ∧
      reserveStep s.server e.id a now pc = some (s'.server, pc') ∧
      s'.call e.id = .reserve a pc' ∧ s'.orphan e.id = .none := by
  -- faults and kills are excluded, and the call has no orphan to land
  cases transition_of_step h with
  | start c call hidle =>
      simp [CoordinatorEvent.id, hidle] at hcall
  | reserve c now a' pc₀ pc' server hcall' hs =>
      rw [CoordinatorEvent.id, hcall'] at hcall
      cases hcall
      exact ⟨now, pc', rfl, hs, by simp [CoordinatorEvent.id, setCall], horphan⟩
  | complete c now a' pc₀ pc' server hcall' hs =>
      simp [CoordinatorEvent.id, hcall'] at hcall
  | reserveFail c fault a' pc₀ pc' o hcall' hf =>
      exact absurd rfl (hfail fault)
  | completeFail c fault a' pc₀ pc' o hcall' hf =>
      exact absurd rfl (hfail fault)
  | reserveKill c a' pc₀ o hcall' hk =>
      exact absurd rfl hkill
  | completeKill c a' pc₀ o hcall' hk =>
      exact absurd rfl hkill
  | land c now call ho hcall' =>
      simp [CoordinatorEvent.id, ho] at horphan
  | reap c ho =>
      exact absurd horphan ho

/-! ## Where the state of a call comes from -/

/-- How the `reserve` call `c` came to `pc'` in a step from `s` to `s'`. -/
inductive ReserveOrigin (s s' : Coordination ι) (e : CoordinatorEvent ι) (c : ι) (a : ReserveArgs)
    (pc' : ReservePc) : Prop
  | kept (hcall : s.call c = .reserve a pc')
  | started (hidle : s.call c = .idle) (hpc : pc' = .select)
  | statement (now : Timestamp) (pc : ReservePc) (he : e = .step c now)
      (hcall : s.call c = .reserve a pc)
      (hstep : reserveStep s.server c a now pc = some (s'.server, pc'))
  | fault (fault : Fault) (pc : ReservePc) (o : Orphan) (he : e = .fail c fault)
      (hcall : s.call c = .reserve a pc)
      (hfail : reserveFail (fault.during reservationFailed) pc = some (pc', o))
  | killed (he : e = .kill c) (hpc : pc' = .gone)

/-- How the `complete` call `c` came to `pc'` in a step from `s` to `s'`. -/
inductive CompleteOrigin (s s' : Coordination ι) (e : CoordinatorEvent ι) (c : ι)
    (a : CompleteArgs) (pc' : CompletePc) : Prop
  | kept (hcall : s.call c = .complete a pc')
  | started (hidle : s.call c = .idle) (hpc : pc' = completeStart a)
  | statement (now : Timestamp) (pc : CompletePc) (he : e = .step c now)
      (hcall : s.call c = .complete a pc)
      (hstep : completeStep s.server c a now pc = some (s'.server, pc'))
  | fault (fault : Fault) (pc : CompletePc) (o : Orphan) (he : e = .fail c fault)
      (hcall : s.call c = .complete a pc)
      (hfail : completeFail (fault.during completionFailed) pc = some (pc', o))
  | killed (he : e = .kill c) (hpc : pc' = .gone)

theorem reserveOrigin_of_step {s s' : Coordination ι} {e : CoordinatorEvent ι}
    (h : s.step e = some s') {c : ι} {a : ReserveArgs} {pc' : ReservePc}
    (hcall' : s'.call c = .reserve a pc') : ReserveOrigin s s' e c a pc' := by
  by_cases hc : c = e.id
  · subst hc
    -- every transition but the server's own sets the state of its call
    cases transition_of_step h with
    | start c call hidle =>
        cases call with
        | reserve a' =>
            simp only [CoordinatorEvent.id, setCall, CoordinatorCall.begin, Function.update_self,
              CallState.reserve.injEq] at hcall'
            rcases hcall' with ⟨rfl, rfl⟩
            exact .started hidle rfl
        | complete a' =>
            simp [CoordinatorEvent.id, setCall, CoordinatorCall.begin] at hcall'
    | reserve c now a' pc pc₁ server hcall hs =>
        simp only [CoordinatorEvent.id, setCall, Function.update_self, CallState.reserve.injEq]
          at hcall'
        rcases hcall' with ⟨rfl, rfl⟩
        exact .statement now pc rfl hcall hs
    | reserveFail c fault a' pc pc₁ o hcall hfail =>
        simp only [CoordinatorEvent.id, setCall, Function.update_self, CallState.reserve.injEq]
          at hcall'
        rcases hcall' with ⟨rfl, rfl⟩
        exact .fault fault pc o rfl hcall hfail
    | reserveKill c a' pc o hcall hkill =>
        simp only [CoordinatorEvent.id, setCall, Function.update_self, CallState.reserve.injEq]
          at hcall'
        rcases hcall' with ⟨rfl, rfl⟩
        exact .killed rfl rfl
    | complete c now a' pc pc₁ server hcall hs =>
        simp [CoordinatorEvent.id, setCall] at hcall'
    | completeFail c fault a' pc pc₁ o hcall hfail =>
        simp [CoordinatorEvent.id, setCall] at hcall'
    | completeKill c a' pc o hcall hkill =>
        simp [CoordinatorEvent.id, setCall] at hcall'
    | land c now call ho hcall =>
        exact .kept hcall'
    | reap c ho =>
        exact .kept hcall'
  · rw [(step_frame h hc).1] at hcall'
    exact .kept hcall'

theorem completeOrigin_of_step {s s' : Coordination ι} {e : CoordinatorEvent ι}
    (h : s.step e = some s') {c : ι} {a : CompleteArgs} {pc' : CompletePc}
    (hcall' : s'.call c = .complete a pc') : CompleteOrigin s s' e c a pc' := by
  by_cases hc : c = e.id
  · subst hc
    -- an event of another kind of call cannot leave a `complete` behind
    cases transition_of_step h with
    | start c call hidle =>
        cases call with
        | reserve a' =>
            simp [CoordinatorEvent.id, setCall, CoordinatorCall.begin] at hcall'
        | complete a' =>
            simp only [CoordinatorEvent.id, setCall, CoordinatorCall.begin, Function.update_self,
              CallState.complete.injEq] at hcall'
            rcases hcall' with ⟨rfl, rfl⟩
            exact .started hidle rfl
    | complete c now a' pc pc₁ server hcall hs =>
        simp only [CoordinatorEvent.id, setCall, Function.update_self, CallState.complete.injEq]
          at hcall'
        rcases hcall' with ⟨rfl, rfl⟩
        exact .statement now pc rfl hcall hs
    | completeFail c fault a' pc pc₁ o hcall hfail =>
        simp only [CoordinatorEvent.id, setCall, Function.update_self, CallState.complete.injEq]
          at hcall'
        rcases hcall' with ⟨rfl, rfl⟩
        exact .fault fault pc o rfl hcall hfail
    | completeKill c a' pc o hcall hkill =>
        simp only [CoordinatorEvent.id, setCall, Function.update_self, CallState.complete.injEq]
          at hcall'
        rcases hcall' with ⟨rfl, rfl⟩
        exact .killed rfl rfl
    | reserve c now a' pc pc₁ server hcall hs =>
        simp [CoordinatorEvent.id, setCall] at hcall'
    | reserveFail c fault a' pc pc₁ o hcall hfail =>
        simp [CoordinatorEvent.id, setCall] at hcall'
    | reserveKill c a' pc o hcall hkill =>
        simp [CoordinatorEvent.id, setCall] at hcall'
    | land c now call ho hcall =>
        exact .kept hcall'
    | reap c ho =>
        exact .kept hcall'
  · rw [(step_frame h hc).1] at hcall'
    exact .kept hcall'

end Steps

/-! ## The invariant along runs -/

structure Inv (s : Coordination ι) : Prop where
  consistent : s.server.Consistent
  session : ∀ c, SessionInv s.tables (s.server.pending c) (s.call c) (s.orphan c)

theorem Inv.reserve_session {s : Coordination ι} (h : Inv s) {c : ι} {a : ReserveArgs}
    {pc : ReservePc} (hcall : s.call c = .reserve a pc) :
    ReserveInv s.tables (s.server.pending c) a (s.orphan c) pc := by
  have hsession := h.session c
  rw [hcall] at hsession
  exact hsession

theorem Inv.complete_session {s : Coordination ι} (h : Inv s) {c : ι} {a : CompleteArgs}
    {pc : CompletePc} (hcall : s.call c = .complete a pc) :
    CompleteInv s.tables (s.server.pending c) a (s.orphan c) pc := by
  have hsession := h.session c
  rw [hcall] at hsession
  exact hsession

theorem inv_init (T : Tables) : Inv (init T : Coordination ι) where
  consistent := Server.consistent_fresh T
  session := fun _ => ⟨rfl, rfl⟩

variable [DecidableEq ι]

/-- The invariant after a move of call `c`: only the session of `c` has to be looked at. -/
theorem Inv.move {s s' : Coordination ι} (h : Inv s) {e : CoordinatorEvent ι}
    (hstep : s.step e = some s') (hmove : Move s.server s'.server e.id)
    (hown : SessionInv s'.tables (s'.server.pending e.id) (s'.call e.id) (s'.orphan e.id)) :
    Inv s' where
  consistent := hmove.consistent
  session := by
    intro c
    by_cases hc : c = e.id
    · subst hc
      exact hown
    · rcases step_frame hstep hc with ⟨hcall, horphan⟩
      rw [hcall, horphan, hmove.others c hc]
      exact (h.session c).mono (hmove.undisturbed h.consistent hc)

theorem completeStart_inv (T : Tables) (a : CompleteArgs) :
    CompleteInv T noRows a .none (completeStart a) := by
  unfold completeStart
  by_cases hv : a.transaction.version = a.expectedVersion + 1
  · simp [hv, CompleteInv]
  · simp [hv, CompleteInv, OrphanInv]

/-- A failing statement leaves a rollback to do, or an orphan that satisfies its invariant. -/
theorem reserveFail_inv {T : Tables} {p : Store Row} {a : ReserveArgs} {o o' : Orphan} {e : Exc}
    {pc pc' : ReservePc} (hinv : ReserveInv T p a o pc)
    (hfail : reserveFail e pc = some (pc', o')) : ReserveInv T p a o' pc' := by
  cases pc with
  | commitAcquired t =>
      simp only [reserveFail, Option.some.injEq, Prod.mk.injEq] at hfail
      rcases hfail with ⟨rfl, rfl⟩
      exact hinv.2
  | done r =>
      simp [reserveFail] at hfail
  | gone =>
      simp [reserveFail] at hfail
  | _ =>
      simp only [reserveFail, Option.some.injEq, Prod.mk.injEq] at hfail
      rcases hfail with ⟨rfl, rfl⟩
      simp [ReserveInv, OrphanInv]

theorem completeFail_inv {T : Tables} {p : Store Row} {a : CompleteArgs} {o o' : Orphan} {e : Exc}
    {pc pc' : CompletePc} (hinv : CompleteInv T p a o pc)
    (hfail : completeFail e pc = some (pc', o')) : CompleteInv T p a o' pc' := by
  cases pc with
  | commit t =>
      simp only [completeFail, Option.some.injEq, Prod.mk.injEq] at hfail
      rcases hfail with ⟨rfl, rfl⟩
      exact hinv.2
  | done r =>
      simp [completeFail] at hfail
  | gone =>
      simp [completeFail] at hfail
  | _ =>
      simp only [completeFail, Option.some.injEq, Prod.mk.injEq] at hfail
      rcases hfail with ⟨rfl, rfl⟩
      simp [CompleteInv, OrphanInv]

theorem reserveKill_inv {T : Tables} {p : Store Row} {a : ReserveArgs} {o o' : Orphan}
    {pc : ReservePc} (hinv : ReserveInv T p a o pc) (hkill : reserveKill pc = some o') :
    ReserveInv T p a o' .gone := by
  cases pc with
  | commitAcquired t =>
      simp only [reserveKill, Option.some.injEq] at hkill
      subst hkill
      exact hinv.2
  | done r =>
      simp [reserveKill] at hkill
  | gone =>
      simp [reserveKill] at hkill
  | _ =>
      simp only [reserveKill, Option.some.injEq] at hkill
      subst hkill
      simp [ReserveInv, OrphanInv]

theorem completeKill_inv {T : Tables} {p : Store Row} {a : CompleteArgs} {o o' : Orphan}
    {pc : CompletePc} (hinv : CompleteInv T p a o pc) (hkill : completeKill pc = some o') :
    CompleteInv T p a o' .gone := by
  cases pc with
  | commit t =>
      simp only [completeKill, Option.some.injEq] at hkill
      subst hkill
      exact hinv.2
  | done r =>
      simp [completeKill] at hkill
  | gone =>
      simp [completeKill] at hkill
  | _ =>
      simp only [completeKill, Option.some.injEq] at hkill
      subst hkill
      simp [CompleteInv, OrphanInv]

/-- An orphan belongs to a call that has returned or whose process is gone. -/
theorem SessionInv.orphaned {T : Tables} {p : Store Row} {cs : CallState} {o : Orphan}
    (h : SessionInv T p cs o) (ho : o ≠ .none) :
    (∃ a r, cs = .reserve a (.done r)) ∨ (∃ a, cs = .reserve a .gone) ∨
      (∃ a r, cs = .complete a (.done r)) ∨ (∃ a, cs = .complete a .gone) := by
  -- a session in progress has no orphan
  cases cs with
  | idle =>
      exact absurd h.1 ho
  | reserve a pc =>
      cases pc with
      | done r =>
          exact .inl ⟨a, r, rfl⟩
      | gone =>
          exact .inr (.inl ⟨a, rfl⟩)
      | rollback e =>
          exact absurd h ho
      | _ =>
          exact absurd h.1 ho
  | complete a pc =>
      cases pc with
      | done r =>
          exact .inr (.inr (.inl ⟨a, r, rfl⟩))
      | gone =>
          exact .inr (.inr (.inr ⟨a, rfl⟩))
      | rollback e =>
          exact absurd h ho
      | _ =>
          exact absurd h.1 ho

/-- Once its orphan is gone a call has nothing pending. -/
theorem SessionInv.cleared {T T' : Tables} {p : Store Row} {cs : CallState} {o : Orphan}
    (h : SessionInv T p cs o) (ho : o ≠ .none) : SessionInv T' noRows cs .none := by
  rcases SessionInv.orphaned h ho with ⟨a, r, rfl⟩ | ⟨a, rfl⟩ | ⟨a, r, rfl⟩ | ⟨a, rfl⟩ <;> rfl

/-- The call an orphaned commit belongs to is ready. -/
theorem SessionInv.ready {T : Tables} {p : Store Row} {cs : CallState} {now : Timestamp}
    {call : CoordinatorCall} (h : SessionInv T p cs (.inFlight now)) (hcall : cs.call = some call) :
    Ready T p now call := by
  rcases SessionInv.orphaned h (by simp) with ⟨a, r, rfl⟩ | ⟨a, rfl⟩ | ⟨a, r, rfl⟩ | ⟨a, rfl⟩ <;>
    · simp only [CallState.call, Option.some.injEq] at hcall
      subst hcall
      exact h

/-- Every step keeps the session invariant. -/
theorem step_inv {s s' : Coordination ι} {e : CoordinatorEvent ι} (h : Inv s)
    (hstep : s.step e = some s') : Inv s' := by
  -- the call of the event gets its invariant back; `Inv.move` frames the others
  cases transition_of_step hstep with
  | start c call hcall =>
      have hidle : SessionInv s.tables (s.server.pending c) .idle (s.orphan c) := by
        simpa [hcall] using h.session c
      refine h.move hstep (Move.refl h.consistent) ?_
      rcases hidle with ⟨ho, hp⟩
      cases call with
      | reserve a =>
          simp [CoordinatorEvent.id, setCall, CoordinatorCall.begin, SessionInv, ReserveInv, ho, hp]
      | complete a =>
          simpa [CoordinatorEvent.id, setCall, CoordinatorCall.begin, SessionInv, ho, hp, tables]
            using completeStart_inv s.server.committed a
  | reserve c now a pc pc' server hcall hs =>
      have hown := h.reserve_session hcall
      rcases reserveStep_inv h.consistent hown hs with ⟨ho, hmove, hinv⟩
      refine h.move hstep hmove ?_
      simpa [CoordinatorEvent.id, setCall, SessionInv, ho, tables] using hinv
  | complete c now a pc pc' server hcall hs =>
      have hown := h.complete_session hcall
      rcases completeStep_inv h.consistent hown hs with ⟨ho, hmove, hinv⟩
      refine h.move hstep hmove ?_
      simpa [CoordinatorEvent.id, setCall, SessionInv, ho, tables] using hinv
  | reserveFail c fault a pc pc' o hcall hfail =>
      have hown := h.reserve_session hcall
      refine h.move hstep (Move.refl h.consistent) ?_
      simpa [CoordinatorEvent.id, setCall, SessionInv, tables] using reserveFail_inv hown hfail
  | completeFail c fault a pc pc' o hcall hfail =>
      have hown := h.complete_session hcall
      refine h.move hstep (Move.refl h.consistent) ?_
      simpa [CoordinatorEvent.id, setCall, SessionInv, tables] using completeFail_inv hown hfail
  | reserveKill c a pc o hcall hkill =>
      have hown := h.reserve_session hcall
      refine h.move hstep (Move.refl h.consistent) ?_
      simpa [CoordinatorEvent.id, setCall, SessionInv, tables] using reserveKill_inv hown hkill
  | completeKill c a pc o hcall hkill =>
      have hown := h.complete_session hcall
      refine h.move hstep (Move.refl h.consistent) ?_
      simpa [CoordinatorEvent.id, setCall, SessionInv, tables] using completeKill_inv hown hkill
  | land c now call horphan hcall =>
      refine h.move hstep (Move.commit h.consistent) ?_
      -- the server ends a transaction whose client is gone
      have hcleared : SessionInv (s.server.commit c).committed noRows (s.call c) .none :=
        SessionInv.cleared (h.session c) (by simp [horphan])
      simp only [CoordinatorEvent.id, Function.update_self, Server.commit_pending_self]
      exact hcleared
  | reap c horphan =>
      refine h.move hstep (Move.rollback h.consistent) ?_
      have hcleared : SessionInv s.tables noRows (s.call c) .none :=
        SessionInv.cleared (h.session c) horphan
      simp only [CoordinatorEvent.id, Function.update_self, Server.rollback_pending_self]
      exact hcleared

/-! ## Effect of a step on the tables -/

/-- A call that is over and has left nothing on the server. -/
def Settled (s : Coordination ι) (c : ι) : Prop :=
  (s.call c).over = true ∧ s.orphan c = .none

/-- A step leaves tables and log alone, or appends a call to the log and applies it; that call was
not settled before the step and is settled after it. -/
inductive Effect (s s' : Coordination ι) : Prop
  | quiet (htables : s'.tables = s.tables) (hlog : s'.log = s.log)
  | commits (c : ι) (call : CoordinatorCall) (now : Timestamp)
      (hcall : (s.call c).call = some call ∧ (s'.call c).call = some call)
      (hsettled : ¬ s.Settled c ∧ s'.Settled c) (hlog : s'.log = s.log ++ [⟨c, call, now⟩])
      (happlies : Applies call now s.tables s'.tables)

/-- No statement of `reserve` but its `COMMIT` after both inserts changes the tables. -/
theorem reserveStep_quiet {s s' : Server Row ι} {c : ι} {a : ReserveArgs} {now : Timestamp}
    {o : Orphan} {pc pc' : ReservePc} (hinv : ReserveInv s.committed (s.pending c) a o pc)
    (hpc : ∀ t, pc ≠ .commitAcquired t) (hstep : reserveStep s c a now pc = some (s', pc')) :
    s'.committed = s.committed := by
  cases reserveStatement_of_step hstep with
  | acquired t =>
      exact absurd rfl (hpc t)
  | returned r =>
      -- a commit with nothing pending
      simp [hinv.2.1]
  | unexplained =>
      simp [hinv.2]
  | _ =>
      -- every other statement reads, writes pending rows or rolls back
      rfl

theorem completeStep_quiet {s s' : Server Row ι} {c : ι} {a : CompleteArgs} {now : Timestamp}
    {pc pc' : CompletePc} (hpc : ∀ t, pc ≠ .commit t)
    (hstep : completeStep s c a now pc = some (s', pc')) : s'.committed = s.committed := by
  cases completeStatement_of_step hstep with
  | committed t =>
      exact absurd rfl (hpc t)
  | _ =>
      rfl

theorem step_effect {s s' : Coordination ι} {e : CoordinatorEvent ι} (h : Inv s)
    (hstep : s.step e = some s') : Effect s s' := by
  cases transition_of_step hstep with
  | reserve c now a pc pc' server hcall hs =>
      have hown := h.reserve_session hcall
      -- the commit of an acquired reservation is the only statement that shows
      by_cases hpc : ∃ t, pc = .commitAcquired t
      · rcases hpc with ⟨t, rfl⟩
        cases hs
        refine .commits c (.reserve a) t (by simp [hcall, CallState.call, setCall]) ⟨?_, ?_⟩ rfl
          ⟨s.server.pending c, hown.2, rfl⟩
        · simp [Settled, hcall, CallState.over]
        · exact ⟨by simp [setCall, CallState.over], hown.1⟩
      · have hne : ∀ t, pc ≠ .commitAcquired t := fun t heq => hpc ⟨t, heq⟩
        have hlog : reserveLogged c a pc = [] := by
          cases pc <;> first | rfl | exact absurd rfl (hne _)
        exact .quiet (reserveStep_quiet hown hne hs) (by simp [hlog])
  | complete c now a pc pc' server hcall hs =>
      have hown := h.complete_session hcall
      by_cases hpc : ∃ t, pc = .commit t
      · rcases hpc with ⟨t, rfl⟩
        cases hs
        refine .commits c (.complete a) t (by simp [hcall, CallState.call, setCall]) ⟨?_, ?_⟩ rfl
          ⟨s.server.pending c, hown.2, rfl⟩
        · simp [Settled, hcall, CallState.over]
        · exact ⟨by simp [setCall, CallState.over], hown.1⟩
      · have hne : ∀ t, pc ≠ .commit t := fun t heq => hpc ⟨t, heq⟩
        have hlog : completeLogged c a pc = [] := by
          cases pc <;> first | rfl | exact absurd rfl (hne _)
        exact .quiet (completeStep_quiet hne hs) (by simp [hlog])
  | land c now call horphan hcall =>
      -- an orphan that lands commits what its call had ready
      have hown := h.session c
      rw [horphan] at hown
      have hover : (s.call c).over = true := by
        rcases SessionInv.orphaned hown (by simp) with
          ⟨a, r, heq⟩ | ⟨a, heq⟩ | ⟨a, r, heq⟩ | ⟨a, heq⟩ <;> simp [heq, CallState.over]
      refine .commits c call now ⟨hcall, hcall⟩ ⟨?_, ?_⟩ rfl
        ⟨s.server.pending c, SessionInv.ready hown hcall, rfl⟩
      · simp [Settled, horphan]
      · exact ⟨hover, by simp⟩
  | _ =>
      exact .quiet rfl rfl

end Coordination

end Infrastructure
end TransactionPlatform
