import TransactionPlatform.Infrastructure.Results

/-!
# Locks — which rows a call can make others wait for

A `reserve` only locks primary keys that have no committed row, a `complete` only the two rows it
names, and that stays so when the call fails or its client goes away.  A statement on a row that no
other call may have locked never waits.
-/

namespace TransactionPlatform
namespace Infrastructure

open Text Domain Ports ReadCommitted Transition

variable {ι : Type}

/-- The keys a call may have locked while the committed tables are `T`. -/
def MayLock (T : Tables) : CallState → Pk → Prop
  | .idle, _ => False
  | .reserve _ _, k => T k = none
  | .complete a _, k => k = .transaction a.transaction.transactionId ∨ k = .record a.keyHash

/-! ## What one statement locks -/

theorem view_eq_none {s : Server Row ι} {c : ι} {k : Pk} (h : s.view c k = none) :
    s.committed k = none := by
  simp only [Server.view, Option.or_eq_none_iff] at h
  exact h.2

section Statement

variable [DecidableEq ι]

/-- A version that a write leaves pending was there before, or is the one just written. -/
theorem pending_of_write {s : Server Row ι} {c : ι} {k k' : Pk} {row : Row k}
    (h : ((s.write c k row).pending c k').isSome) : (s.pending c k').isSome ∨ k' = k := by
  by_cases hk : k' = k
  · exact .inr hk
  · left
    rw [Server.write_pending_self, Function.update_of_ne hk] at h
    exact h

/-- While `reserve` still has a row pending, nothing of it is committed, and the row is new. -/
theorem reserveStep_locks {s s' : Server Row ι} {c : ι} {a : ReserveArgs} {now : Timestamp}
    {pc pc' : ReservePc} (hstep : reserveStep s c a now pc = some (s', pc')) {k : Pk}
    (hk : (s'.pending c k).isSome) :
    s'.committed = s.committed ∧ ((s.pending c k).isSome ∨ s.committed k = none) := by
  cases reserveStatement_of_step hstep with
  | insertedTransaction t row _ _ _ hview =>
      -- the insert found the primary key free
      refine ⟨rfl, ?_⟩
      rcases pending_of_write hk with hold | rfl
      · exact .inl hold
      · exact .inr (view_eq_none hview)
  | insertedRecord t record _ _ _ hview =>
      refine ⟨rfl, ?_⟩
      rcases pending_of_write hk with hold | rfl
      · exact .inl hold
      · exact .inr (view_eq_none hview)
  | acquired t | returned r | unexplained =>
      rw [Server.commit_pending_self] at hk
      cases hk
  | rolledBack | raised e =>
      rw [Server.rollback_pending_self] at hk
      cases hk
  | _ =>
      -- the remaining statements only read
      exact ⟨rfl, .inl hk⟩

theorem completeStep_locks {s s' : Server Row ι} {c : ι} {a : CompleteArgs} {now : Timestamp}
    {pc pc' : CompletePc} (hstep : completeStep s c a now pc = some (s', pc')) {k : Pk}
    (hk : (s'.pending c k).isSome) :
    (s.pending c k).isSome ∨ k = .transaction a.transaction.transactionId ∨
      k = .record a.keyHash := by
  -- only the two updates write, each the row it names
  cases completeStatement_of_step hstep with
  | updatedTransaction set row =>
      exact (pending_of_write hk).imp_right .inl
  | updatedRecord t set record =>
      exact (pending_of_write hk).imp_right .inr
  | committed t =>
      rw [Server.commit_pending_self] at hk
      cases hk
  | raised e =>
      rw [Server.rollback_pending_self] at hk
      cases hk
  | _ =>
      exact .inl hk

end Statement

/-! ## The invariant -/

namespace Coordination

def LocksInv (s : Coordination ι) : Prop :=
  ∀ c k, (s.server.pending c k).isSome → MayLock s.tables (s.call c) k

/-- The call an event belongs to keeps to its locks. -/
theorem LocksInv.own {s : Coordination ι} (h : LocksInv s) {c : ι} {cs : CallState}
    (hcall : s.call c = cs) {k : Pk} (hk : (s.server.pending c k).isSome) :
    MayLock s.tables cs k := by
  rw [← hcall]
  exact h c k hk

variable [DecidableEq ι]

/-- Every event is a move of the session it belongs to. -/
theorem step_move {s s' : Coordination ι} {e : CoordinatorEvent ι} (h : Inv s)
    (hstep : s.step e = some s') : Move s.server s'.server e.id := by
  cases transition_of_step hstep with
  | reserve c now a pc pc' server hcall hs =>
      exact (reserveStep_inv h.consistent (h.reserve_session hcall) hs).2.1
  | complete c now a pc pc' server hcall hs =>
      exact (completeStep_inv h.consistent (h.complete_session hcall) hs).2.1
  | land c now call ho hcall =>
      exact Move.commit h.consistent
  | reap c ho =>
      exact Move.rollback h.consistent
  | _ =>
      exact Move.refl h.consistent

theorem own_locks {s s' : Coordination ι} {e : CoordinatorEvent ι} (h : LocksInv s)
    (hstep : s.step e = some s') {k : Pk} (hk : (s'.server.pending e.id k).isSome) :
    MayLock s'.tables (s'.call e.id) k := by
  cases transition_of_step hstep with
  | start c call hidle =>
      cases h.own hidle hk
  | reserve c now a pc pc' server hcall hs =>
      rcases reserveStep_locks hs hk with ⟨hcommitted, hold | hnew⟩
      · have hlock := h.own hcall hold
        simpa [CoordinatorEvent.id, setCall, MayLock, tables, hcommitted] using hlock
      · simpa [CoordinatorEvent.id, setCall, MayLock, tables, hcommitted] using hnew
  | complete c now a pc pc' server hcall hs =>
      rcases completeStep_locks hs hk with hold | hnamed
      · have hlock := h.own hcall hold
        simpa [CoordinatorEvent.id, setCall, MayLock, tables] using hlock
      · simpa [CoordinatorEvent.id, setCall, MayLock] using hnamed
  | reserveFail c fault a pc pc' o hcall hfail =>
      -- a fault leaves the open transaction as it is, and the arguments with it
      have hlock := h.own hcall hk
      simpa [CoordinatorEvent.id, setCall, MayLock, tables] using hlock
  | completeFail c fault a pc pc' o hcall hfail =>
      have hlock := h.own hcall hk
      simpa [CoordinatorEvent.id, setCall, MayLock, tables] using hlock
  | reserveKill c a pc o hcall hkill =>
      have hlock := h.own hcall hk
      simpa [CoordinatorEvent.id, setCall, MayLock, tables] using hlock
  | completeKill c a pc o hcall hkill =>
      have hlock := h.own hcall hk
      simpa [CoordinatorEvent.id, setCall, MayLock, tables] using hlock
  | land c now call ho hcall =>
      -- nothing is pending once the transaction has ended
      simp [CoordinatorEvent.id] at hk
  | reap c ho =>
      simp [CoordinatorEvent.id] at hk

theorem step_locksInv {s s' : Coordination ι} {e : CoordinatorEvent ι} (hinv : Inv s)
    (h : LocksInv s) (hstep : s.step e = some s') : LocksInv s' := by
  intro c k hk
  by_cases hc : c = e.id
  · subst hc
    exact own_locks h hstep hk
  · have hmove := step_move hinv hstep
    rw [hmove.others c hc] at hk
    have hlock := h c k hk
    -- nobody commits a row that `c` has locked
    have hsame : s'.tables k = s.tables k := (hmove.undisturbed hinv.consistent hc).locked_eq k hk
    rw [(step_frame hstep hc).1]
    cases hcall : s.call c with
    | idle =>
        rw [hcall] at hlock
        exact hlock
    | reserve a pc =>
        rw [hcall] at hlock
        exact hsame.trans hlock
    | complete a pc =>
        rw [hcall] at hlock
        exact hlock

theorem locksInv_of_reachable {T : Tables} {s : Coordination ι}
    (hreach : Reachable Coordination.step (init T) s) : LocksInv s := by
  have hboth : Inv s ∧ LocksInv s := by
    refine hreach.invariant (I := fun m => Inv m ∧ LocksInv m) ?_ ⟨inv_init T, ?_⟩
    · rintro m e m' ⟨hm, hlocks⟩ hstep
      exact ⟨step_inv hm hstep, step_locksInv hm hlocks hstep⟩
    · intro c k hk
      cases hk
  exact hboth.2

/-- A row that no other call may lock is free. -/
theorem free_of_others {T : Tables} {s : Coordination ι}
    (hreach : Reachable Coordination.step (init T) s) {c : ι} {k : Pk}
    (hothers : ∀ c', c' ≠ c → ¬ MayLock s.tables (s.call c') k) :
    s.server.blocked c k = false := by
  have hconsistent := (inv_of_reachable hreach).consistent
  unfold Server.blocked
  cases hholder : s.server.holder k with
  | none =>
      rfl
  | some c' =>
      by_cases hc : c' = c
      · simp [hc]
      · have hsome : (s.server.pending c' k).isSome := (hconsistent c' k).mp hholder
        exact absurd (locksInv_of_reachable hreach c' k hsome) (hothers c' hc)

end Coordination

end Infrastructure
end TransactionPlatform
