import TransactionPlatform.Infrastructure.Linearizability

/-!
# Commits — what the log of committed calls says

A call stands in the log at most once, and only when it is over; a `reserve` that returned
`ACQUIRED` and a `complete` that returned stand in it.  Two reservations in the log have different
keys and different transaction ids, because the rows of the first are there for good.
-/

namespace TransactionPlatform
namespace Infrastructure

open Text Domain Ports ReadCommitted Transition

variable {ι : Type}

namespace Coordination

/-! ## Settled calls -/

section Settled

variable [DecidableEq ι]

theorem reserveStep_running {s : Server Row ι} {c : ι} {a : ReserveArgs} {now : Timestamp}
    {pc : ReservePc} {next : Server Row ι × ReservePc} (h : reserveStep s c a now pc = some next) :
    (CallState.reserve a pc).over = false := by
  rcases next with ⟨s', pc'⟩
  cases reserveStatement_of_step h <;> rfl

theorem completeStep_running {s : Server Row ι} {c : ι} {a : CompleteArgs} {now : Timestamp}
    {pc : CompletePc} {next : Server Row ι × CompletePc}
    (h : completeStep s c a now pc = some next) : (CallState.complete a pc).over = false := by
  rcases next with ⟨s', pc'⟩
  cases completeStatement_of_step h <;> rfl

theorem reserveFail_running {a : ReserveArgs} {e : Exc} {pc : ReservePc}
    {next : ReservePc × Orphan} (h : reserveFail e pc = some next) :
    (CallState.reserve a pc).over = false := by
  cases pc <;> first | rfl | (simp [reserveFail] at h)

theorem completeFail_running {a : CompleteArgs} {e : Exc} {pc : CompletePc}
    {next : CompletePc × Orphan} (h : completeFail e pc = some next) :
    (CallState.complete a pc).over = false := by
  cases pc <;> first | rfl | (simp [completeFail] at h)

theorem reserveKill_running {a : ReserveArgs} {pc : ReservePc} {o : Orphan}
    (h : reserveKill pc = some o) : (CallState.reserve a pc).over = false := by
  cases pc <;> first | rfl | (simp [reserveKill] at h)

theorem completeKill_running {a : CompleteArgs} {pc : CompletePc} {o : Orphan}
    (h : completeKill pc = some o) : (CallState.complete a pc).over = false := by
  cases pc <;> first | rfl | (simp [completeKill] at h)

/-- The only events of a call that is over are those of its orphan. -/
theorem over_event {s s' : Coordination ι} {e : CoordinatorEvent ι} (hstep : s.step e = some s')
    (hover : (s.call e.id).over = true) :
    s.orphan e.id ≠ .none ∧ s'.call e.id = s.call e.id := by
  -- the statements, faults and kills all need a call that runs
  have habsurd : ∀ {cs : CallState}, s.call e.id = cs → cs.over = false → False := by
    intro cs hcs hrunning
    rw [hcs, hrunning] at hover
    cases hover
  cases transition_of_step hstep with
  | start c call hcall =>
      exact (habsurd hcall rfl).elim
  | reserve c now a pc pc' server hcall hs =>
      exact (habsurd hcall (reserveStep_running hs)).elim
  | complete c now a pc pc' server hcall hs =>
      exact (habsurd hcall (completeStep_running hs)).elim
  | reserveFail c fault a pc pc' o hcall hfail =>
      exact (habsurd hcall (reserveFail_running hfail)).elim
  | completeFail c fault a pc pc' o hcall hfail =>
      exact (habsurd hcall (completeFail_running hfail)).elim
  | reserveKill c a pc o hcall hkill =>
      exact (habsurd hcall (reserveKill_running hkill)).elim
  | completeKill c a pc o hcall hkill =>
      exact (habsurd hcall (completeKill_running hkill)).elim
  | land c now call ho hcall =>
      exact ⟨by simp [CoordinatorEvent.id, ho], rfl⟩
  | reap c ho =>
      exact ⟨ho, rfl⟩

/-- No event of a settled call is possible any more. -/
theorem Settled.ne_id {s s' : Coordination ι} {c : ι} (h : s.Settled c) {e : CoordinatorEvent ι}
    (hstep : s.step e = some s') : c ≠ e.id := by
  rintro rfl
  exact (over_event hstep h.1).1 h.2

/-- A call that is over keeps its result. -/
theorem over_call_eq {s s' : Coordination ι} {e : CoordinatorEvent ι} (hstep : s.step e = some s')
    {c : ι} (hover : (s.call c).over = true) : s'.call c = s.call c := by
  by_cases hc : c = e.id
  · subst hc
    exact (over_event hstep hover).2
  · exact (step_frame hstep hc).1

end Settled

/-! ## The log -/

structure LogInv (s : Coordination ι) : Prop where
  entry : ∀ e ∈ s.log, (s.call e.id).call = some e.call ∧ s.Settled e.id
  ids_nodup : (s.log.map Commit.id).Nodup
  acquired : ∀ c a r, s.call c = .reserve a (.done (.ok r)) → r.status = .acquired →
    ∃ now, ⟨c, .reserve a, now⟩ ∈ s.log
  completed : ∀ c a, s.call c = .complete a (.done (.ok ())) →
    ∃ now, ⟨c, .complete a, now⟩ ∈ s.log

theorem logInv_init (T : Tables) : LogInv (init T : Coordination ι) where
  entry := by
    intro e he
    simp [init] at he
  ids_nodup := by
    simp [init]
  acquired := by
    intro c a r hcall
    simp [init] at hcall
  completed := by
    intro c a hcall
    simp [init] at hcall

section Log

variable [DecidableEq ι]

/-- The log only grows. -/
theorem step_log_subset {s s' : Coordination ι} {e : CoordinatorEvent ι} (h : Inv s)
    (hstep : s.step e = some s') {entry : Commit ι} (hmem : entry ∈ s.log) : entry ∈ s'.log := by
  cases step_effect h hstep with
  | quiet _ hlog =>
      rwa [hlog]
  | commits c call now _ _ hlog _ =>
      rw [hlog]
      simp [hmem]

/-- A statement of `reserve` logs what its program counter says. -/
theorem reserve_log {s s' : Coordination ι} {c : ι} {now : Timestamp}
    (hstep : s.step (.step c now) = some s') {a : ReserveArgs} {pc : ReservePc}
    (hcall : s.call c = .reserve a pc) : s'.log = s.log ++ reserveLogged c a pc := by
  cases transition_of_step hstep with
  | reserve _ _ a' pc' _ _ hcall' _ =>
      cases hcall.symm.trans hcall'
      rfl
  | complete _ _ a' pc' _ _ hcall' _ =>
      cases hcall.symm.trans hcall'

theorem complete_log {s s' : Coordination ι} {c : ι} {now : Timestamp}
    (hstep : s.step (.step c now) = some s') {a : CompleteArgs} {pc : CompletePc}
    (hcall : s.call c = .complete a pc) : s'.log = s.log ++ completeLogged c a pc := by
  cases transition_of_step hstep with
  | reserve _ _ a' pc' _ _ hcall' _ =>
      cases hcall.symm.trans hcall'
  | complete _ _ a' pc' _ _ hcall' _ =>
      cases hcall.symm.trans hcall'
      rfl

/-- A reservation that turns out `ACQUIRED` in a step is committed by that step. -/
theorem acquired_logged {s s' : Coordination ι} {e : CoordinatorEvent ι} (h : Inv s)
    (hstep : s.step e = some s') {a : ReserveArgs} {r : IdempotencyReservation}
    (hrunning : (s.call e.id).over = false) (hdone : s'.call e.id = .reserve a (.done (.ok r)))
    (hr : r.status = .acquired) : ∃ now, ⟨e.id, .reserve a, now⟩ ∈ s'.log := by
  cases reserveOrigin_of_step hstep hdone with
  | kept hcall =>
      rw [hcall] at hrunning
      cases hrunning
  | started _ hpc =>
      cases hpc
  | statement now pc he hcall hs =>
      have hown := h.reserve_session hcall
      rw [he] at hstep
      rw [reserve_log hstep hcall]
      -- only the two commits return a reservation, and only the first an acquired one
      generalize hend : ReservePc.done (.ok r) = pc' at hs
      generalize s'.server = server at hs
      cases reserveStatement_of_step hs with
      | acquired t =>
          exact ⟨t, by simp [reserveLogged]⟩
      | returned r' =>
          cases hend
          exact absurd hr hown.2.2
      | found existing _ | foundAgain existing _ =>
          unfold afterClassify at hend
          split at hend <;> cases hend
      | _ =>
          cases hend
  | fault fault pc o _ _ hfail =>
      -- a fault ends in an error
      cases pc <;> simp [Infrastructure.reserveFail] at hfail
  | killed _ hpc =>
      cases hpc

theorem completed_logged {s s' : Coordination ι} {e : CoordinatorEvent ι}
    (hstep : s.step e = some s') {a : CompleteArgs} (hrunning : (s.call e.id).over = false)
    (hdone : s'.call e.id = .complete a (.done (.ok ()))) :
    ∃ now, ⟨e.id, .complete a, now⟩ ∈ s'.log := by
  cases completeOrigin_of_step hstep hdone with
  | kept hcall =>
      rw [hcall] at hrunning
      cases hrunning
  | started _ hpc =>
      unfold completeStart at hpc
      split at hpc <;> cases hpc
  | statement now pc he hcall hs =>
      rw [he] at hstep
      rw [complete_log hstep hcall]
      -- the only statement that returns is the commit
      generalize hend : CompletePc.done (.ok ()) = pc' at hs
      generalize s'.server = server at hs
      cases completeStatement_of_step hs with
      | committed t =>
          exact ⟨t, by simp [completeLogged]⟩
      | _ =>
          cases hend
  | fault fault pc o _ _ hfail =>
      cases pc <;> simp [Infrastructure.completeFail] at hfail
  | killed _ hpc =>
      cases hpc

/-- A settled call stays settled, with its arguments and result. -/
theorem Settled.step {s s' : Coordination ι} {c : ι} (h : s.Settled c) {e : CoordinatorEvent ι}
    (hstep : s.step e = some s') : s'.Settled c ∧ s'.call c = s.call c := by
  rcases step_frame hstep (h.ne_id hstep) with ⟨hcall, horphan⟩
  exact ⟨⟨by rw [hcall]; exact h.1, horphan.trans h.2⟩, hcall⟩

theorem step_logInv {s s' : Coordination ι} {e : CoordinatorEvent ι} (hinv : Inv s) (h : LogInv s)
    (hstep : s.step e = some s') : LogInv s' where
  entry := by
    intro entry hmem
    have hold : entry ∈ s.log → (s'.call entry.id).call = some entry.call ∧ s'.Settled entry.id := by
      intro hentry
      rcases h.entry entry hentry with ⟨hcall, hsettled⟩
      rcases hsettled.step hstep with ⟨hsettled', hsame⟩
      exact ⟨by rw [hsame]; exact hcall, hsettled'⟩
    cases step_effect hinv hstep with
    | quiet _ hlog =>
        rw [hlog] at hmem
        exact hold hmem
    | commits c call now hcall hsettled hlog _ =>
        rw [hlog, List.mem_append, List.mem_singleton] at hmem
        rcases hmem with hentry | rfl
        · exact hold hentry
        · exact ⟨hcall.2, hsettled.2⟩
  ids_nodup := by
    cases step_effect hinv hstep with
    | quiet _ hlog =>
        rw [hlog]
        exact h.ids_nodup
    | commits c call now _ hsettled hlog _ =>
        rw [hlog, List.map_append, List.nodup_append]
        refine ⟨h.ids_nodup, by simp, ?_⟩
        intro id hid id' hid'
        simp only [List.map_cons, List.map_nil, List.mem_singleton] at hid'
        subst hid'
        rcases List.mem_map.mp hid with ⟨entry, hentry, rfl⟩
        -- every call in the log is settled, and the committing one was not
        rintro rfl
        exact hsettled.1 (h.entry entry hentry).2
  acquired := by
    intro c a r hdone hr
    cases hover : (s.call c).over with
    | true =>
        rw [over_call_eq hstep hover] at hdone
        rcases h.acquired c a r hdone hr with ⟨now, hmem⟩
        exact ⟨now, step_log_subset hinv hstep hmem⟩
    | false =>
        by_cases hc : c = e.id
        · subst hc
          exact acquired_logged hinv hstep hover hdone hr
        · rw [(step_frame hstep hc).1] at hdone
          simp [hdone, CallState.over] at hover
  completed := by
    intro c a hdone
    cases hover : (s.call c).over with
    | true =>
        rw [over_call_eq hstep hover] at hdone
        rcases h.completed c a hdone with ⟨now, hmem⟩
        exact ⟨now, step_log_subset hinv hstep hmem⟩
    | false =>
        by_cases hc : c = e.id
        · subst hc
          exact completed_logged hstep hover hdone
        · rw [(step_frame hstep hc).1] at hdone
          simp [hdone, CallState.over] at hover

theorem logInv_of_reachable {T : Tables} {s : Coordination ι}
    (hreach : Reachable Coordination.step (init T) s) : LogInv s := by
  have hboth : Inv s ∧ LogInv s := by
    refine hreach.invariant (I := fun m => Inv m ∧ LogInv m) ?_ ⟨inv_init T, logInv_init T⟩
    rintro m e m' ⟨hm, hlog⟩ hstep
    exact ⟨step_inv hm hstep, step_logInv hm hlog hstep⟩
  exact hboth.2

end Log

/-! ## Reservations exclude each other -/

/-- The rows of a reservation in the log. -/
def Inserts (e : Commit ι) (row : TransactionRow) (record : IdempotencyRecord) : Prop :=
  ∃ a, e.call = .reserve a ∧ transactionInsert a e.now = some row ∧
    recordInsert a e.now = some record

/-- Two reservations that share no primary key. -/
def Exclusive (e e' : Commit ι) : Prop :=
  ∀ row record row' record', Inserts e row record → Inserts e' row' record' →
    row.transactionId ≠ row'.transactionId ∧
      record.idempotencyKeyHash ≠ record'.idempotencyKeyHash

theorem Exclusive.symm {e e' : Commit ι} (h : Exclusive e e') : Exclusive e' e := by
  intro row record row' record' hinserts hinserts'
  rcases h row' record' row record hinserts' hinserts with ⟨hid, hkey⟩
  exact ⟨hid.symm, hkey.symm⟩

/-- The rows of every reservation in the log are there, and no two reservations share a primary
key. -/
structure ReservationsInv (s : Coordination ι) : Prop where
  rows : ∀ e ∈ s.log, ∀ a, e.call = .reserve a → ∃ row record, Inserts e row record
  kept : ∀ e ∈ s.log, ∀ row record, Inserts e row record →
    (s.tables (.transaction row.transactionId)).isSome ∧
      (s.tables (.record record.idempotencyKeyHash)).isSome
  distinct : s.log.Pairwise Exclusive

theorem ReservationsInv.exclusive {s : Coordination ι} (h : ReservationsInv s) {e e' : Commit ι}
    (he : e ∈ s.log) (he' : e' ∈ s.log) (hne : e ≠ e') : Exclusive e e' := by
  have hsymm : Std.Symm (@Exclusive ι) := ⟨fun _ _ hxy => hxy.symm⟩
  exact h.distinct.forall he he' hne

theorem Inserts.unique {e : Commit ι} {row row' : TransactionRow} {record record' : IdempotencyRecord}
    (h : Inserts e row record) (h' : Inserts e row' record') : row = row' ∧ record = record' := by
  rcases h with ⟨a, hcall, hrow, hrecord⟩
  rcases h' with ⟨a', hcall', hrow', hrecord'⟩
  have hsame : a = a' := CoordinatorCall.reserve.inj (hcall.symm.trans hcall')
  subst hsame
  exact ⟨Option.some.inj (hrow.symm.trans hrow'), Option.some.inj (hrecord.symm.trans hrecord')⟩

/-- A reservation that commits finds both its primary keys free, and fills them. -/
theorem Applies.inserts {c : ι} {a : ReserveArgs} {now : Timestamp} {T T' : Tables}
    (h : Applies (.reserve a) now T T') :
    ∃ row record, Inserts (⟨c, .reserve a, now⟩ : Commit ι) row record ∧
      T (.transaction row.transactionId) = none ∧
      T (.record record.idempotencyKeyHash) = none ∧
      T' = overlay (bothRows row.transactionId row record.idempotencyKeyHash record) T := by
  rcases h with ⟨p, ⟨row, record, hr⟩, rfl⟩
  refine ⟨row, record, ⟨a, rfl, hr.insert_row, hr.insert_record⟩, hr.row_new, hr.record_new, ?_⟩
  rw [hr.pending_eq]

/-- A completion that commits updates the two rows it names. -/
theorem Applies.updates {a : CompleteArgs} {now : Timestamp} {T T' : Tables}
    (h : Applies (.complete a) now T T') :
    ∃ setRow row setRecord record, TransactionReady T a now setRow row ∧
      RecordReady T a now setRecord record ∧
      T' = overlay (bothRows a.transaction.transactionId (setRow row) a.keyHash
        (setRecord record)) T := by
  rcases h with ⟨p, ⟨row, row', record, record', hr⟩, rfl⟩
  rcases hr.transaction_ready with ⟨setRow, hrow, rfl⟩
  rcases hr.record_ready with ⟨setRecord, hrecord, rfl⟩
  refine ⟨setRow, row, setRecord, record, hrow, hrecord, ?_⟩
  rw [hr.pending_eq]

/-- A commit keeps the reservations apart once what it inserts was not there before. -/
theorem ReservationsInv.append {s s' : Coordination ι} (h : ReservationsInv s) {new : Commit ι}
    (hlog : s'.log = s.log ++ [new])
    (hkept : ∀ entry ∈ s.log, ∀ row record, Inserts entry row record →
      (s'.tables (.transaction row.transactionId)).isSome ∧
        (s'.tables (.record record.idempotencyKeyHash)).isSome)
    (hrows : ∀ a, new.call = .reserve a → ∃ row record, Inserts new row record)
    (hfresh : ∀ row record, Inserts new row record →
      s.tables (.transaction row.transactionId) = none ∧
        s.tables (.record record.idempotencyKeyHash) = none)
    (hwritten : ∀ row record, Inserts new row record →
      (s'.tables (.transaction row.transactionId)).isSome ∧
        (s'.tables (.record record.idempotencyKeyHash)).isSome) : ReservationsInv s' := by
  refine ⟨?_, ?_, ?_⟩
  · rw [hlog]
    intro entry hentry a hcall
    rw [List.mem_append, List.mem_singleton] at hentry
    rcases hentry with hold | rfl
    · exact h.rows entry hold a hcall
    · exact hrows a hcall
  · rw [hlog]
    intro entry hentry row record hinserts
    rw [List.mem_append, List.mem_singleton] at hentry
    rcases hentry with hold | rfl
    · exact hkept entry hold row record hinserts
    · exact hwritten row record hinserts
  · rw [hlog, List.pairwise_append]
    refine ⟨h.distinct, by simp, ?_⟩
    intro entry hentry entry' hentry' row record row' record' hinserts hinserts'
    rw [List.mem_singleton] at hentry'
    subst hentry'
    -- the older rows are in the tables, the new keys are not
    rcases h.kept entry hentry row record hinserts with ⟨hrow, hrecord⟩
    rcases hfresh row' record' hinserts' with ⟨hrowNew, hrecordNew⟩
    constructor
    · intro heq
      rw [heq, hrowNew] at hrow
      cases hrow
    · intro heq
      rw [heq, hrecordNew] at hrecord
      cases hrecord

variable [DecidableEq ι]

theorem step_reservationsInv {s s' : Coordination ι} {e : CoordinatorEvent ι} (hinv : Inv s)
    (h : ReservationsInv s) (hstep : s.step e = some s') : ReservationsInv s' := by
  have hkept : ∀ entry ∈ s.log, ∀ row record, Inserts entry row record →
      (s'.tables (.transaction row.transactionId)).isSome ∧
        (s'.tables (.record record.idempotencyKeyHash)).isSome := by
    intro entry hentry row record hinserts
    rcases h.kept entry hentry row record hinserts with ⟨hrow, hrecord⟩
    exact ⟨step_kept hinv hstep hrow, step_kept hinv hstep hrecord⟩
  cases step_effect hinv hstep with
  | quiet _ hlog =>
      exact
        { rows := by
            rw [hlog]
            exact h.rows
          kept := by
            rw [hlog]
            exact hkept
          distinct := by
            rw [hlog]
            exact h.distinct }
  | commits c call now _ _ hlog happlies =>
      cases call with
      | complete a =>
          -- a completion inserts nothing
          have hnone : ∀ row record, ¬ Inserts (⟨c, .complete a, now⟩ : Commit ι) row record := by
            rintro row record ⟨a', hcall, _⟩
            cases hcall
          refine h.append hlog hkept ?_ ?_ ?_
          · intro a' hcall
            cases hcall
          · intro row record hinserts
            exact absurd hinserts (hnone row record)
          · intro row record hinserts
            exact absurd hinserts (hnone row record)
      | reserve a =>
          rcases Applies.inserts (c := c) happlies with
            ⟨row₀, record₀, hinserts₀, hrowNew, hrecordNew, htables⟩
          refine h.append hlog hkept ?_ ?_ ?_
          · intro a' hcall
            exact ⟨row₀, record₀, hinserts₀⟩
          · intro row record hinserts
            rcases hinserts.unique hinserts₀ with ⟨rfl, rfl⟩
            exact ⟨hrowNew, hrecordNew⟩
          · intro row record hinserts
            rcases hinserts.unique hinserts₀ with ⟨rfl, rfl⟩
            rw [htables, overlay_bothRows_transaction, overlay_bothRows_record]
            simp

theorem reservationsInv_of_reachable {T : Tables} {s : Coordination ι}
    (hreach : Reachable Coordination.step (init T) s) : ReservationsInv s := by
  have hboth : Inv s ∧ ReservationsInv s := by
    refine hreach.invariant (I := fun m => Inv m ∧ ReservationsInv m) ?_ ⟨inv_init T, ?_⟩
    · rintro m e m' ⟨hm, hres⟩ hstep
      exact ⟨step_inv hm hstep, step_reservationsInv hm hres hstep⟩
    · exact ⟨by simp [init], by simp [init], by simp [init]⟩
  exact hboth.2

end Coordination

end Infrastructure
end TransactionPlatform
