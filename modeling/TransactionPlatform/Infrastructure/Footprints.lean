import TransactionPlatform.Infrastructure.Locks
import TransactionPlatform.Infrastructure.Renaming

/-!
# Footprints — the rows a call can touch

Whatever a call has pending stands under the keys its arguments name.  So a call that names no key
of a likeness leaves the systems alike: this is the frame rule for concurrent calls.
-/

namespace TransactionPlatform
namespace Infrastructure

open Text Domain Ports ReadCommitted Transition

variable {ι : Type}

/-- The primary keys of a call, as the columns take them. -/
def CoordinatorCall.names : CoordinatorCall → Pk → Prop
  | .reserve a, .transaction id => varchar 128 a.transactionId = some id
  | .reserve a, .record k => varchar 64 a.keyHash = some k
  | .complete a, .transaction id => id = a.transaction.transactionId
  | .complete a, .record k => k = a.keyHash

/-! ## One statement -/

section Statement

variable [DecidableEq ι]

theorem reserveStep_names {s s' : Server Row ι} {c : ι} {a : ReserveArgs} {now : Timestamp}
    {pc pc' : ReservePc} (hstep : reserveStep s c a now pc = some (s', pc')) {k : Pk}
    (hk : (s'.pending c k).isSome) :
    (s.pending c k).isSome ∨ (CoordinatorCall.reserve a).names k := by
  cases reserveStatement_of_step hstep with
  | insertedTransaction t row hinsert _ _ _ =>
      rcases pending_of_write hk with hold | rfl
      · exact .inl hold
      · exact .inr (transactionInsert_fields hinsert).1
  | insertedRecord t record hinsert _ _ _ =>
      rcases pending_of_write hk with hold | rfl
      · exact .inl hold
      · exact .inr (recordInsert_fields hinsert).1
  | acquired t | returned r | unexplained =>
      -- the transaction ends and nothing stays pending
      rw [Server.commit_pending_self] at hk
      cases hk
  | rolledBack | raised e =>
      rw [Server.rollback_pending_self] at hk
      cases hk
  | _ =>
      exact .inl hk

theorem completeStep_names {s s' : Server Row ι} {c : ι} {a : CompleteArgs} {now : Timestamp}
    {pc pc' : CompletePc} (hstep : completeStep s c a now pc = some (s', pc')) {k : Pk}
    (hk : (s'.pending c k).isSome) :
    (s.pending c k).isSome ∨ (CoordinatorCall.complete a).names k := by
  rcases completeStep_locks hstep hk with hold | rfl | rfl
  · exact .inl hold
  · exact .inr rfl
  · exact .inr rfl

end Statement

/-! ## The invariant -/

namespace Coordination

/-- What a session has pending stands under the keys of its call. -/
def NamesInv (s : Coordination ι) : Prop :=
  ∀ c k, (s.server.pending c k).isSome → ∃ call, (s.call c).call = some call ∧ call.names k

theorem NamesInv.own {s : Coordination ι} (h : NamesInv s) {c : ι} {call : CoordinatorCall}
    (hcall : (s.call c).call = some call) {k : Pk} (hk : (s.server.pending c k).isSome) :
    call.names k := by
  rcases h c k hk with ⟨call', hcall', hnames⟩
  cases hcall.symm.trans hcall'
  exact hnames

variable [DecidableEq ι]

theorem own_names {s s' : Coordination ι} {e : CoordinatorEvent ι} (h : NamesInv s)
    (hstep : s.step e = some s') {k : Pk} (hk : (s'.server.pending e.id k).isSome) :
    ∃ call, (s'.call e.id).call = some call ∧ call.names k := by
  -- a call starts with nothing pending, and each statement writes rows the call names
  cases transition_of_step hstep with
  | start c call hidle =>
      rcases h c k hk with ⟨call', hcall', _⟩
      rw [hidle] at hcall'
      cases hcall'
  | reserve c now a pc pc' server hcall hs =>
      refine ⟨.reserve a, by simp [CoordinatorEvent.id, setCall, CallState.call], ?_⟩
      rcases reserveStep_names hs hk with hold | hnames
      · exact h.own (by rw [hcall]; rfl) hold
      · exact hnames
  | complete c now a pc pc' server hcall hs =>
      refine ⟨.complete a, by simp [CoordinatorEvent.id, setCall, CallState.call], ?_⟩
      rcases completeStep_names hs hk with hold | hnames
      · exact h.own (by rw [hcall]; rfl) hold
      · exact hnames
  | land c now call ho hcall =>
      simp [CoordinatorEvent.id] at hk
  | reap c ho =>
      simp [CoordinatorEvent.id] at hk
  | reserveFail c fault a pc pc' o hcall hfail =>
      exact ⟨.reserve a, by simp [CoordinatorEvent.id, setCall, CallState.call],
        h.own (by simp [CoordinatorEvent.id, hcall, CallState.call]) hk⟩
  | completeFail c fault a pc pc' o hcall hfail =>
      exact ⟨.complete a, by simp [CoordinatorEvent.id, setCall, CallState.call],
        h.own (by simp [CoordinatorEvent.id, hcall, CallState.call]) hk⟩
  | reserveKill c a pc o hcall hkill =>
      exact ⟨.reserve a, by simp [CoordinatorEvent.id, setCall, CallState.call],
        h.own (by simp [CoordinatorEvent.id, hcall, CallState.call]) hk⟩
  | completeKill c a pc o hcall hkill =>
      exact ⟨.complete a, by simp [CoordinatorEvent.id, setCall, CallState.call],
        h.own (by simp [CoordinatorEvent.id, hcall, CallState.call]) hk⟩

theorem step_namesInv {s s' : Coordination ι} {e : CoordinatorEvent ι} (hinv : Inv s)
    (h : NamesInv s) (hstep : s.step e = some s') : NamesInv s' := by
  intro c k hk
  by_cases hc : c = e.id
  · subst hc
    exact own_names h hstep hk
  · rw [(step_move hinv hstep).others c hc] at hk
    rw [(step_frame hstep hc).1]
    exact h c k hk

theorem namesInv_of_reachable {T : Tables} {s : Coordination ι}
    (hreach : Reachable Coordination.step (init T) s) : NamesInv s := by
  have hboth : Inv s ∧ NamesInv s := by
    refine hreach.invariant (I := fun m => Inv m ∧ NamesInv m) ?_ ⟨inv_init T, ?_⟩
    · rintro m e m' ⟨hm, hnames⟩ hstep
      exact ⟨step_inv hm hstep, step_namesInv hm hnames hstep⟩
    · intro c k hk
      cases hk
  exact hboth.2

/-- The committed row of a key changes only when a call that names the key commits. -/
theorem step_committed {s s' : Coordination ι} {e : CoordinatorEvent ι} (hinv : Inv s)
    (h : NamesInv s) (hstep : s.step e = some s') {k : Pk}
    (hnames : ∀ call, (s.call e.id).call = some call → ¬ call.names k) :
    s'.tables k = s.tables k := by
  rcases (step_move hinv hstep).committed_eq with heq | heq
  · rw [tables, heq]
    rfl
  · cases hpending : s.server.pending e.id k with
    | none =>
        simp [tables, heq, overlay, hpending]
    | some row =>
        rcases h e.id k (by rw [hpending]; rfl) with ⟨call, hcall, hk⟩
        exact absurd hk (hnames call hcall)

/-- The frame rule: the step of a call out of view, whose keys are out of view as well, keeps two
systems alike. -/
theorem like_frame {R : Renaming} {C : ι → Prop} {s t s' : Coordination ι} {e : CoordinatorEvent ι}
    (h : R.LikeCoordinations C s s') (hinv : Inv s) (hnames : NamesInv s) (hstep : s.step e = some t)
    (hc : ¬ C e.id)
    (hbefore : ∀ call, (s.call e.id).call = some call → ∀ k k', R.keys k k' → ¬ call.names k)
    (hafter : ∀ call, (t.call e.id).call = some call → ∀ k k', R.keys k k' → ¬ call.names k) :
    R.LikeCoordinations C t s' := by
  have hmove := step_move hinv hstep
  have hframe : ∀ c, C c → t.call c = s.call c ∧ t.orphan c = s.orphan c := by
    intro c hview
    refine step_frame hstep ?_
    rintro rfl
    exact hc hview
  -- the pending rows of the call are out of view before and after its step
  refine ⟨?_, ?_, ?_⟩
  · refine h.server.frame hinv.consistent hmove.consistent hc hmove.others hmove.committed_eq ?_ ?_
    · intro k k' hk
      by_contra hsome
      rcases hnames e.id k (Option.isSome_iff_ne_none.mpr hsome) with ⟨call, hcall, hk'⟩
      exact hbefore call hcall k k' hk hk'
    · intro k k' hk
      by_contra hsome
      rcases step_namesInv hinv hnames hstep e.id k (Option.isSome_iff_ne_none.mpr hsome) with
        ⟨call, hcall, hk'⟩
      exact hafter call hcall k k' hk hk'
  · intro c hview
    rw [(hframe c hview).1]
    exact h.call c hview
  · intro c hview
    rw [(hframe c hview).2]
    exact h.orphan c hview

end Coordination

end Infrastructure
end TransactionPlatform
