import TransactionPlatform.System.Replay

/-!
# Stranded — the crash window

A request whose process dies, or that ends with an exception, after its reservation and before the
commit of its `complete` leaves a `CREATED` transaction and an `IN_PROGRESS` record behind.  Nothing
in the platform ever picks them up: both rows stay as they are, the network is not called for them
again, and every later request with the key is told to wait.
-/

namespace TransactionPlatform

open Text Domain Ports Common Application Infrastructure ReadCommitted Transition

/-! ## Calls that cannot commit any more -/

namespace Infrastructure
namespace Coordination

variable {ι : Type} [DecidableEq ι]

/-- The call has no statement left to run, and no `COMMIT` of it is on its way to the server. -/
def Grounded (s : Coordination ι) (c : ι) : Prop :=
  (s.call c = .idle ∨ (s.call c).over = true) ∧ ∀ now, s.orphan c ≠ .inFlight now

/-- The only event of a grounded call, once it cannot start, is that the server discards what it has
left. -/
theorem grounded_event {s s' : Coordination ι} {e : CoordinatorEvent ι} (h : s.Grounded e.id)
    (hstart : ∀ call, e ≠ .start e.id call) (hstep : s.step e = some s') :
    e = .reap e.id ∧ s'.call e.id = s.call e.id ∧ s'.orphan e.id = .none ∧ s'.log = s.log := by
  have hrunning : ∀ {cs : CallState}, s.call e.id = cs → cs ≠ .idle → cs.over = false → False := by
    intro cs hcs hidle hover
    rcases h.1 with heq | heq
    · exact hidle (hcs.symm.trans heq)
    · rw [hcs, hover] at heq
      cases heq
  cases transition_of_step hstep with
  | start c call hcall =>
      exact absurd rfl (hstart call)
  | reserve c now a pc pc' server hcall hs =>
      exact (hrunning hcall (by simp) (reserveStep_running hs)).elim
  | complete c now a pc pc' server hcall hs =>
      exact (hrunning hcall (by simp) (completeStep_running hs)).elim
  | reserveFail c fault a pc pc' o hcall hfail =>
      exact (hrunning hcall (by simp) (reserveFail_running hfail)).elim
  | completeFail c fault a pc pc' o hcall hfail =>
      exact (hrunning hcall (by simp) (completeFail_running hfail)).elim
  | reserveKill c a pc o hcall hkill =>
      exact (hrunning hcall (by simp) (reserveKill_running hkill)).elim
  | completeKill c a pc o hcall hkill =>
      exact (hrunning hcall (by simp) (completeKill_running hkill)).elim
  | land c now call ho hcall =>
      exact absurd ho (h.2 now)
  | reap c ho =>
      exact ⟨rfl, rfl, by simp [CoordinatorEvent.id], rfl⟩

/-- A grounded call stays grounded and commits nothing, unless it is started. -/
theorem Grounded.step {s s' : Coordination ι} {c : ι} (h : s.Grounded c) (hinv : Inv s)
    {e : CoordinatorEvent ι} (hstart : ∀ call, e ≠ .start c call) (hstep : s.step e = some s') :
    s'.Grounded c ∧ ∀ entry ∈ s'.log, entry.id = c → entry ∈ s.log := by
  by_cases hc : c = e.id
  · subst hc
    rcases grounded_event h hstart hstep with ⟨_, hcall, horphan, hlog⟩
    refine ⟨⟨?_, ?_⟩, ?_⟩
    · rw [hcall]
      exact h.1
    · simp [horphan]
    · intro entry hentry _
      rwa [hlog] at hentry
  · rcases step_frame hstep hc with ⟨hcall, horphan⟩
    refine ⟨⟨?_, ?_⟩, ?_⟩
    · rw [hcall]
      exact h.1
    · rw [horphan]
      exact h.2
    · intro entry hentry hid
      cases step_effect hinv hstep with
      | quiet _ hlog =>
          rwa [hlog] at hentry
      | commits c₀ call now _ hsettled hlog _ =>
          rw [hlog, List.mem_append, List.mem_singleton] at hentry
          rcases hentry with hold | rfl
          · exact hold
          · -- the call that commits was not settled before, and its state has not changed
            exfalso
            have hid' : c₀ = c := hid
            subst hid'
            apply hsettled.1
            rw [Settled, ← hcall, ← horphan]
            exact hsettled.2

end Coordination
end Infrastructure

namespace System
namespace Requests

variable {requests : Nat → Request}

/-! ## Requests that have ended -/

/-- The request has returned or raised, or its process has died. -/
def Ended : Phase → Prop
  | .finished _ | .crashed => True
  | _ => False

/-- A request that has ended takes no step any more. -/
theorem request_ne_of_ended {s s' : Requests} {e : Event} (hstep : s.step requests e = some s')
    {r : Nat} (h : Ended (s.phase r)) : e.request ≠ some r := by
  intro hr
  have hphase : (∃ result, s.phase r = .finished result) ∨ s.phase r = .crashed := by
    cases hp : s.phase r with
    | finished result =>
        exact .inl ⟨result, rfl⟩
    | crashed =>
        exact .inr rfl
    | _ =>
        rw [hp] at h
        exact h.elim
  cases e with
  | database d =>
      cases hr
  | arrive r₀ | resume r₀ | invoke r₀ | respond r₀ o | finish r₀ | cancel r₀ | crash r₀ =>
      cases hr
      rcases hphase with ⟨result, hp⟩ | hp <;>
        simp [step, arrive, resume, invoke, respond, finish, cancel, crash, hp] at hstep

/-- The `complete` of a request that has ended has not been called, or is over. -/
def EndedInv (s : Requests) : Prop :=
  ∀ r, Ended (s.phase r) →
    s.calls.call (.complete r) = .idle ∨ (s.calls.call (.complete r)).over = true

theorem SameCalls.complete_stopped {s s' : Requests} {r : Nat} (h : SameCalls s s' r)
    (hstopped : s.calls.call (.complete r) = .idle ∨ (s.calls.call (.complete r)).over = true) :
    s'.calls.call (.complete r) = .idle ∨ (s'.calls.call (.complete r)).over = true := by
  rcases hstopped with hidle | hover
  · exact .inl (h.complete_idle hidle)
  · rw [h.complete_over hover]
    exact .inr hover

/-- Killing a call leaves it over. -/
theorem killed_complete {s : Requests} {r : Nat} {a : CompleteArgs} {pc : CompletePc}
    (hcall : s.calls.call (.complete r) = .complete a pc) :
    ((s.killed (.complete r)).call (.complete r)).over = true := by
  cases hkill : completeKill pc with
  | some o =>
      simp [killed, Coordination.step, Coordination.killCall, hcall, hkill, Coordination.setCall,
        CallState.over]
  | none =>
      -- only a call that is over has nothing to kill
      have hover : (CallState.complete a pc).over = true := by
        cases pc <;> first | rfl | cases hkill
      simp [killed, Coordination.step, Coordination.killCall, hcall, hkill, hover]

section Stopping

variable {s s' : Requests} {r : Nat}

/-- A request that can be cancelled has not called `complete`, or that call is over. -/
theorem stopped_of_cancel (hphase : PhaseInv requests s r (s.phase r))
    (hstep : s.cancel r = some s') :
    s.calls.call (.complete r) = .idle ∨ (s.calls.call (.complete r)).over = true := by
  simp only [cancel] at hstep
  split at hstep
  · rename_i hp _
    rw [hp] at hphase
    exact .inl hphase.1
  · rename_i keyHash hp
    rw [hp] at hphase
    exact .inl hphase.1
  · rename_i keyHash hp
    rw [hp] at hphase
    exact .inl hphase.1
  · rename_i envelope a result hp _ hcall
    rw [hcall]
    exact .inr rfl
  · cases hstep

theorem idle_of_killed_reserve (h : s.calls.call (.complete r) = .idle) :
    (s.killed (.reserve r)).call (.complete r) = .idle := by
  rcases killed_cases s (.reserve r) with hsame | hkill
  · rw [hsame]
    exact h
  · exact (Coordination.step_frame hkill (c := .complete r)
      (by simp [CoordinatorEvent.id])).1.trans h

/-- A crash takes a `complete` that is running with it. -/
theorem stopped_of_crash (hphase : PhaseInv requests s r (s.phase r))
    (hstep : s.crash r = some s') :
    s'.calls.call (.complete r) = .idle ∨ (s'.calls.call (.complete r)).over = true := by
  cases hp : s.phase r with
  | idle | finished result | crashed =>
      simp [crash, hp] at hstep
  | reserving =>
      rw [hp] at hphase
      simp only [crash, hp, Option.some.injEq] at hstep
      subst hstep
      exact .inl (idle_of_killed_reserve hphase.1)
  | acquired keyHash | awaiting keyHash =>
      rw [hp] at hphase
      simp only [crash, hp, Option.some.injEq] at hstep
      subst hstep
      exact .inl hphase.1
  | completing envelope =>
      rw [hp] at hphase
      simp only [crash, hp, Option.some.injEq] at hstep
      subst hstep
      rcases hphase with ⟨a, ⟨_, _, _, _, hcall⟩, _⟩
      rcases CallArguments.eq_complete hcall with ⟨pc, hstate⟩
      exact .inr (killed_complete hstate)

end Stopping

theorem own_ended {s s' : Requests} {e : Event} {r : Nat} (hinv : CallsInv requests s r)
    (hstep : s.step requests e = some s') (hr : e.request = some r) (h : Ended (s'.phase r)) :
    s'.calls.call (.complete r) = .idle ∨ (s'.calls.call (.complete r)).over = true := by
  have hphase := hinv.phase
  cases transition_of_step hstep with
  | arrive r₀ a calls hp hargs hstart | acquired r₀ a reservation hp hcall hanswer
  | invoke r₀ keyHash t hp hnew | respond r₀ keyHash o a calls hp hargs hstart =>
      cases hr
      simp [Ended] at h
  | refused r₀ e₀ hp hargs | answered r₀ a reservation answer hp hcall hanswer
  | reserveError r₀ a e₀ hp hcall | invalid r₀ keyHash e₀ hp hnew
  | escaped r₀ keyHash o e₀ hp hargs =>
      -- before its `complete` has been called
      cases hr
      rw [hp] at hphase
      first | exact .inl hphase.2 | exact .inl hphase.1
  | database d calls hcalls =>
      cases hr
  | finish r₀ envelope a hp hcall | completeError r₀ envelope a e₀ hp hcall =>
      cases hr
      right
      rw [setPhase_calls, hcall]
      rfl
  | cancel r₀ hp =>
      cases hr
      rw [setPhase_calls]
      exact stopped_of_cancel hphase hstep
  | crash r₀ calls hp hcalls =>
      cases hr
      exact stopped_of_crash hphase hstep

theorem endedInv_of_reachable {T : Tables} {s : Requests}
    (hreach : Reachable (Requests.step requests) (init T) s) : EndedInv s := by
  have hboth : Reachable (Requests.step requests) (init T) s ∧ EndedInv s := by
    refine hreach.invariant
      (I := fun m => Reachable (Requests.step requests) (init T) m ∧ EndedInv m) ?_
      ⟨.refl _, fun r h => h.elim⟩
    rintro m e m' ⟨hm, hended⟩ hstep
    refine ⟨hm.next hstep, ?_⟩
    intro r h
    by_cases hr : e.request = some r
    · exact own_ended (callsInv_of_reachable hm r) hstep hr h
    · rcases step_frame hstep hr with ⟨hphase, hsame⟩
      rw [hphase] at h
      exact hsame.complete_stopped (hended r h)
  exact hboth.2

/-! ## Stranded reservations -/

/-- The reservation of `r` is committed, its owner has ended, and neither is its `complete` committed
nor can it still be. -/
structure Stranded (requests : Nat → Request) (s : Requests) (r : Nat) (a : ReserveArgs)
    (now : Timestamp) : Prop where
  args : (requests r).reserveArgs = .ok a
  logged : ⟨.reserve r, .reserve a, now⟩ ∈ s.calls.log
  ended : Ended (s.phase r)
  grounded : s.calls.Grounded (.complete r)
  incomplete : ∀ e ∈ s.calls.log, e.id ≠ .complete r

/-- No event ends it. -/
theorem Stranded.step {T : Tables} {s s' : Requests} {e : Event} {r : Nat} {a : ReserveArgs}
    {now : Timestamp} (h : Stranded requests s r a now)
    (hreach : Reachable (Requests.step requests) (init T) s)
    (hstep : s.step requests e = some s') : Stranded requests s' r a now := by
  have hr := request_ne_of_ended hstep h.ended
  have hphase := (step_frame hstep hr).1
  have hinv := Coordination.inv_of_reachable (calls_reachable hreach)
  rcases step_causes hstep with hsame | ⟨ce, hcause, hce⟩
  · exact ⟨h.args, hsame ▸ h.logged, hphase ▸ h.ended, hsame ▸ h.grounded, hsame ▸ h.incomplete⟩
  · -- only an event of the request itself could start its `complete`
    have hstart : ∀ call, ce ≠ .start (.complete r) call := by
      intro call heq
      cases hcause with
      | database d =>
          exact ne_start d _ _ heq
      | respond r₀ o args =>
          cases heq
          exact hr rfl
      | arrive r₀ args | crash r₀ c hc =>
          cases heq
    rcases h.grounded.step hinv hstart hce with ⟨hgrounded, hlog⟩
    exact ⟨h.args, Coordination.step_log_subset hinv hce h.logged, hphase ▸ h.ended, hgrounded,
      fun entry hentry hid => h.incomplete entry (hlog entry hentry hid) hid⟩

theorem Stranded.run {T : Tables} {s s' : Requests} {es : List Event} {r : Nat} {a : ReserveArgs}
    {now : Timestamp} (h : Stranded requests s r a now)
    (hreach : Reachable (Requests.step requests) (init T) s)
    (hrun : exec (Requests.step requests) s es = some s') : Stranded requests s' r a now := by
  have hboth : Reachable (Requests.step requests) (init T) s' ∧ Stranded requests s' r a now := by
    refine exec_invariant (I := fun m => Reachable (Requests.step requests) (init T) m ∧
      Stranded requests m r a now) ?_ ⟨hreach, h⟩ hrun
    rintro m e m' ⟨hm, hstranded⟩ hstep
    exact ⟨hm.next hstep, hstranded.step hm hstep⟩
  exact hboth.2

/-- Its rows are as the reservation has inserted them. -/
theorem Stranded.rows {T : Tables} {s : Requests} {r : Nat} {a : ReserveArgs} {now : Timestamp}
    (h : Stranded requests s r a now) (hreach : Reachable (Requests.step requests) (init T) s)
    {row : TransactionRow} {record : IdempotencyRecord} (hrow : transactionInsert a now = some row)
    (hrecord : recordInsert a now = some record) :
    s.tables (.transaction row.transactionId) = some row ∧
      s.tables (.record a.keyHash) = some record := by
  have hkey := recordInsert_keyHash h.args hrecord
  cases (contents_of_reachable hreach).owned r a now row record h.logged hrow hrecord with
  | fresh _ hrowT hrecordT =>
      exact ⟨hrowT, hkey ▸ hrecordT⟩
  | completed args now' _ _ hlogged _ _ _ _ =>
      exact absurd rfl (h.incomplete _ hlogged)

/-- An ended request calls the network no more. -/
theorem sent_of_ended {s s' : Requests} {es : List Event} {r : Nat} (h : Ended (s.phase r))
    (hrun : exec (Requests.step requests) s es = some s') {p : Nat × PaymentNetworkAuthorizationRequest}
    (hp : p ∈ s'.sent) (hnew : p ∉ s.sent) : p.1 ≠ r := by
  have hboth : Ended (s'.phase r) ∧ ∀ p ∈ s'.sent, p.1 = r → p ∈ s.sent := by
    refine exec_invariant (I := fun m => Ended (m.phase r) ∧ ∀ p ∈ m.sent, p.1 = r → p ∈ s.sent) ?_
      ⟨h, fun p hp _ => hp⟩ hrun
    rintro m e m' ⟨hended, hsent⟩ hstep
    have hr := request_ne_of_ended hstep hended
    refine ⟨(step_frame hstep hr).1 ▸ hended, ?_⟩
    intro p hp hpr
    rcases sent_of_step hstep with hsame | ⟨r₀, keyHash, rfl, _, _, happend⟩
    · exact hsent p (hsame ▸ hp) hpr
    · rw [happend, List.mem_append, List.mem_singleton] at hp
      rcases hp with hold | rfl
      · exact hsent p hold hpr
      · exact absurd (congrArg some hpr) hr
  intro hpr
  exact hnew (hboth.2 p hp hpr)

/-- What a later request with the key of an unfinished record is told. -/
def unfinishedAnswer (a a' : ReserveArgs) : ResponseEnvelope :=
  if a'.requestFingerprint = a.requestFingerprint then inProgressEnvelope
  else idempotencyConflictEnvelope

/-- The reservation `a` of request `r`, with these rows, is never finished: in every continuation both
rows stay, the network is not called for the key or the transaction, and every request that comes
later with the key is refused. -/
structure NeverFinished (requests : Nat → Request) (s : Requests) (a : ReserveArgs)
    (row : TransactionRow) (record : IdempotencyRecord) : Prop where
  created : row.status = py "CREATED" ∧ row.version = 0 ∧
    record.processingStatus = py "IN_PROGRESS" ∧ record.transactionId = row.transactionId
  kept : ∀ after s', exec (Requests.step requests) s after = some s' →
    s'.tables (.transaction row.transactionId) = some row ∧
      s'.tables (.record a.keyHash) = some record
  uncalled : ∀ after s', exec (Requests.step requests) s after = some s' →
    ∀ p ∈ s'.sent, p ∉ s.sent → ∀ a', (requests p.1).reserveArgs = .ok a' →
      a'.keyHash ≠ a.keyHash ∧ a'.transactionId ≠ a.transactionId
  refused : ∀ r' a', s.phase r' = .idle → (requests r').reserveArgs = .ok a' →
    a'.keyHash = a.keyHash → ∀ after s', exec (Requests.step requests) s after = some s' →
      (∀ e ∈ after, SparesReserve r' e) → Returns requests s' r' (unfinishedAnswer a a')

theorem answer_unfinished {record : IdempotencyRecord}
    (hprogress : record.processingStatus = py "IN_PROGRESS") {a : ReserveArgs}
    (hfingerprint : record.requestFingerprint = a.requestFingerprint) (a' : ReserveArgs) :
    ∃ reservation, classifyExisting record a'.requestFingerprint = .ok reservation ∧
      answerReservation reservation = some (.ok (unfinishedAnswer a a')) := by
  by_cases heq : a'.requestFingerprint = a.requestFingerprint
  · refine ⟨reservation .inProgress, ?_, ?_⟩
    · simp [classifyExisting, hfingerprint, heq, hprogress]
    · simp [answerReservation, reservation, unfinishedAnswer, heq]
  · refine ⟨reservation .idempotencyConflict, ?_, ?_⟩
    · have hne : record.requestFingerprint ≠ a'.requestFingerprint := by
        rw [hfingerprint]
        exact fun h => heq h.symm
      simp [classifyExisting, hne]
    · simp [answerReservation, reservation, unfinishedAnswer, heq]

theorem neverFinished_of_stranded {T : Tables} {s : Requests}
    (hreach : Reachable (Requests.step requests) (init T) s) {r : Nat} {a : ReserveArgs}
    {now : Timestamp} (h : Stranded requests s r a now) :
    ∃ row record, NeverFinished requests s a row record := by
  rcases (Coordination.reservationsInv_of_reachable (calls_reachable hreach)).rows _ h.logged a rfl
    with ⟨row, record, _, heq, hrow, hrecord⟩
  cases heq
  rcases transactionInsert_fields hrow with ⟨_, _, _, _, hstatus, _, hversion, _⟩
  have hprogress := (recordInsert_fields hrecord).2.2.2.1
  have hkept : ∀ after s', exec (Requests.step requests) s after = some s' →
      s'.tables (.transaction row.transactionId) = some row ∧
        s'.tables (.record a.keyHash) = some record := by
    intro after s' hrun
    exact (h.run hreach hrun).rows (hreach.trans ⟨after, hrun⟩) hrow hrecord
  refine ⟨row, record, ⟨hstatus, hversion, hprogress, recordInsert_transactionId hrow hrecord⟩, hkept,
    ?_, ?_⟩
  · intro after s' hrun p hp hnew a' hargs'
    have hreach' : Reachable (Requests.step requests) (init T) s' := hreach.trans ⟨after, hrun⟩
    rcases (sentInv_of_reachable hreach').acquired p hp with ⟨_, b, hacquired⟩
    cases hargs'.symm.trans hacquired.1
    rcases hacquired.logged hreach' with ⟨now', hlogged'⟩
    exact logged_distinct hreach' hargs' h.args hlogged' (h.run hreach hrun).logged
      (sent_of_ended h.ended hrun hp hnew)
  · intro r' a' hidle hargs' hkey after s' hrun hspares
    rcases answer_unfinished hprogress (recordInsert_fingerprint h.args hrecord) a'
      with ⟨reservation, hclassified, hanswered⟩
    have hblocked : Blocked requests s a'.keyHash record r' := by
      refine ⟨?_, hidle, ?_⟩
      · intro es m hes
        rw [hkey]
        exact (hkept es m hes).2
      · intro b hb
        cases hargs'.symm.trans hb
        rfl
    exact blocked_returns hreach hblocked ⟨hargs', hclassified, hanswered⟩ hrun hspares

/-- In every state of every run, with faults anywhere: a committed reservation whose owner has returned,
raised or died is completed, or the `COMMIT` of its completion is on its way to the server, or it is
never finished again, whatever the later requests are. -/
theorem ended_reservation {T : Tables} (before : List Event) {s : Requests}
    (hbefore : exec (Requests.step requests) (init T) before = some s) {r : Nat} {a : ReserveArgs}
    {now : Timestamp} (hlogged : ⟨.reserve r, .reserve a, now⟩ ∈ s.calls.log)
    (hended : Ended (s.phase r)) :
    (∃ args t, ⟨.complete r, .complete args, t⟩ ∈ s.calls.log) ∨
      (∃ t, s.calls.orphan (.complete r) = .inFlight t) ∨
      ∃ row record, NeverFinished requests s a row record := by
  have hreach : Reachable (Requests.step requests) (init T) s := ⟨before, hbefore⟩
  by_cases hcomplete : ∃ e ∈ s.calls.log, e.id = .complete r
  · rcases hcomplete with ⟨⟨c, call, t⟩, hmem, hid⟩
    have hid' : c = .complete r := hid
    subst hid'
    rcases log_cases hreach hmem with ⟨_, _, hreserve, _⟩ | ⟨_, args, _, hcall, _⟩
    · cases hreserve
    · have hcall' : call = .complete args := hcall
      subst hcall'
      exact .inl ⟨args, t, hmem⟩
  by_cases hflight : ∃ t, s.calls.orphan (.complete r) = .inFlight t
  · exact .inr (.inl hflight)
  · -- nothing is left that could commit
    have hargs : (requests r).reserveArgs = .ok a := by
      rcases log_cases hreach hlogged with ⟨r', a', hid, hcall, hargs⟩ | ⟨_, _, hid, _⟩
      · cases hid
        cases hcall
        exact hargs
      · cases hid
    have hstranded : Stranded requests s r a now :=
      ⟨hargs, hlogged, hended, ⟨endedInv_of_reachable hreach r hended, fun t ht => hflight ⟨t, ht⟩⟩,
        fun e he hid => hcomplete ⟨e, he, hid⟩⟩
    exact .inr (.inr (neverFinished_of_stranded hreach hstranded))

/-- The process of the sample request dies while it waits for the port. -/
theorem ended_reservation_crash :
    ∃ (s : Requests) (a : ReserveArgs) (row : TransactionRow) (record : IdempotencyRecord),
      exec (Requests.step fun _ => sampleRequest) (init emptyTables) (sampleRun ++ [.crash 0]) =
        some s ∧
      s.sent = [(0, portRequest sampleRequest.command)] ∧
      NeverFinished (fun _ => sampleRequest) s a row record := by
  have hany : (exec (Requests.step fun _ => sampleRequest) (init emptyTables)
      (sampleRun ++ [.crash 0])).any (fun s =>
        s.sent = [(0, portRequest sampleRequest.command)] &&
        s.calls.log.any (fun e => e.id = .reserve 0) && s.calls.log.all (fun e => e.id ≠ .complete 0) &&
        s.calls.orphan (.complete 0) = .none && (match s.phase 0 with
          | .crashed => true
          | _ => false)) = true := by
    decide +kernel
  rcases (Option.any_eq_true _ _).mp hany with ⟨s, hrun, hs⟩
  simp only [Bool.and_eq_true, decide_eq_true_eq, List.any_eq_true, List.all_eq_true] at hs
  rcases hs with ⟨⟨⟨⟨hsent, ⟨⟨c, call, now⟩, hmem, hid⟩⟩, hlog⟩, horphan⟩, hphase⟩
  have hid' : c = .reserve 0 := hid
  subst hid'
  rcases log_cases ⟨_, hrun⟩ hmem with ⟨_, a, _, hcall, _⟩ | ⟨_, _, hcomplete, _⟩
  · have hcall' : call = .reserve a := hcall
    subst hcall'
    have hended : Ended (s.phase 0) := by
      cases hp : s.phase 0 with
      | crashed =>
          exact True.intro
      | _ =>
          rw [hp] at hphase
          cases hphase
    rcases ended_reservation _ hrun hmem hended with
      ⟨args, t, hlogged⟩ | ⟨t, ht⟩ | ⟨row, record, hnever⟩
    · exact absurd rfl (hlog _ hlogged)
    · cases horphan.symm.trans ht
    · exact ⟨s, a, row, record, hrun, hsent, hnever⟩
  · cases hcomplete

end Requests
end System
end TransactionPlatform
