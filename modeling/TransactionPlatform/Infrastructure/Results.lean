import TransactionPlatform.Infrastructure.Commits

/-!
# Results — what the two calls return and raise

A property of program counters is kept by all runs once the statements and the fault handlers keep
it, because nothing else brings a call to another state (`ReserveOrigin`, `CompleteOrigin`).  On tables that satisfy the schema, `reserve` never meets
a record it cannot classify, and what it reports as completed carries an envelope.
-/

namespace TransactionPlatform
namespace Infrastructure

open Text Domain Ports ReadCommitted Transition

variable {ι : Type} [DecidableEq ι]

/-! ## Results of `reserve` -/

/-- What can leave `reserve` as an exception. -/
def ReserveRaises (e : Exc) : Prop :=
  e = reservationFailed ∨ e = unexplainedConflict ∨ ∃ className, e = .foreign className

/-- A reservation that reports a completed request carries the envelope of the completed record
under its key. -/
def Replays (T : Tables) (a : ReserveArgs) (r : IdempotencyReservation) : Prop :=
  r.status = .completed → ∃ record : IdempotencyRecord, T (.record a.keyHash) = some record ∧
    record.requestFingerprint = a.requestFingerprint ∧
    record.processingStatus = py "COMPLETED" ∧ r.storedEnvelope = some record.envelope

/-- The results a `reserve` at this point can still have, as far as they are decided. -/
def ReserveResult (T : Tables) (a : ReserveArgs) : ReservePc → Prop
  | .commitResult r => Replays T a r
  | .rollback e => ReserveRaises e
  | .done (.ok r) => Replays T a r
  | .done (.error e) => ReserveRaises e
  | _ => True

theorem replays_reservation (T : Tables) (a : ReserveArgs) {status : ReservationStatus}
    (h : status ≠ .completed) : Replays T a (reservation status) :=
  fun hstatus => absurd hstatus h

/-- A record the schema admits is in one of its two states. -/
theorem completed_of_admitted {record : IdempotencyRecord} (h : record.admitted = true)
    (hprogress : record.processingStatus ≠ py "IN_PROGRESS") :
    record.processingStatus = py "COMPLETED" := by
  simp only [IdempotencyRecord.admitted, Bool.and_eq_true, decide_eq_true_eq, List.mem_cons,
    List.not_mem_nil, or_false] at h
  rcases h.1.1.1.2 with heq | heq
  · exact absurd heq hprogress
  · exact heq

theorem replays_answerExisting {T : Tables} {a : ReserveArgs} {record : IdempotencyRecord}
    (hrecord : T (.record a.keyHash) = some record) (hok : record.admitted = true) :
    Replays T a (answerExisting record a.requestFingerprint) := by
  intro hstatus
  by_cases hfp : record.requestFingerprint = a.requestFingerprint
  · by_cases hprogress : record.processingStatus = py "IN_PROGRESS"
    · simp [answerExisting, hfp, hprogress, reservation] at hstatus
    · refine ⟨record, hrecord, hfp, completed_of_admitted hok hprogress, ?_⟩
      simp [answerExisting, hfp, hprogress]
  · simp [answerExisting, hfp, reservation] at hstatus

theorem reserveStep_result {s s' : Server Row ι} {c : ι} {a : ReserveArgs} {now : Timestamp}
    {o : Orphan} {pc pc' : ReservePc} (hT : SchemaOk s.committed)
    (hinv : ReserveInv s.committed (s.pending c) a o pc) (h : ReserveResult s.committed a pc)
    (hstep : reserveStep s c a now pc = some (s', pc')) : ReserveResult s.committed a pc' := by
  -- both look-ups read committed records, which the schema keeps classifiable
  have hfound : ∀ record, s.committed (.record a.keyHash) = some record →
      ReserveResult s.committed a
        (afterClassify (classifyExisting record a.requestFingerprint)) := by
    intro record hrecord
    have hok : record.admitted = true := (hT.record_ok _ _ hrecord).2
    rw [classifyExisting_eq hok]
    exact replays_answerExisting hrecord hok
  cases reserveStatement_of_step hstep with
  | found record hview =>
      rw [view_eq_committed hinv.2] at hview
      exact hfound record hview
  | foundAgain record hview =>
      rw [view_eq_committed hinv.2.1] at hview
      exact hfound record hview
  | conflict existing _ =>
      exact replays_reservation _ _ (by simp)
  | acquired t =>
      exact replays_reservation _ _ (by simp)
  | unexplained =>
      exact .inr (.inl rfl)
  | returned r | raised e =>
      exact h
  | badKey _ | badRecord t _ =>
      -- a data error leaves with the reservation's own exception
      exact .inl rfl
  | badTransaction t _ =>
      exact (transactionInsertError_cases a).imp id fun heq => .inr ⟨_, heq⟩
  | _ =>
      trivial

theorem reserveFail_result (T : Tables) (a : ReserveArgs) {fault : Fault} {pc pc' : ReservePc}
    {o : Orphan} (hfail : reserveFail (fault.during reservationFailed) pc = some (pc', o)) :
    ReserveResult T a pc' := by
  have hraises : ReserveRaises (fault.during reservationFailed) := by
    cases fault with
    | sqlAlchemyError =>
        exact .inl rfl
    | foreign className =>
        exact .inr (.inr ⟨className, rfl⟩)
  cases pc <;> cases hfail <;> exact hraises

/-- Decided results stay right: a completed record keeps all its columns. -/
theorem Coordination.reserveResult_step {s s' : Coordination ι} {e : CoordinatorEvent ι}
    (h : Inv s) (hstep : s.step e = some s') {a : ReserveArgs} {pc : ReservePc}
    (hresult : ReserveResult s.tables a pc) : ReserveResult s'.tables a pc := by
  have hreplays : ∀ {r}, Replays s.tables a r → Replays s'.tables a r := by
    intro r hr hstatus
    rcases hr hstatus with ⟨record, hrecord, hfp, hcompleted, henvelope⟩
    exact ⟨record, completed_step h hstep hrecord hcompleted, hfp, hcompleted, henvelope⟩
  cases pc with
  | commitResult r =>
      exact hreplays hresult
  | done result =>
      cases result with
      | ok r =>
          exact hreplays hresult
      | error e =>
          exact hresult
  | _ =>
      exact hresult

theorem Coordination.reserveResult_of_reachable {T : Tables} (hT : SchemaOk T)
    {s : Coordination ι} (hreach : Reachable Coordination.step (init T) s) {c : ι}
    {a : ReserveArgs} {pc : ReservePc} (hcall : s.call c = .reserve a pc) :
    ReserveResult s.tables a pc := by
  -- the invariant goes along with reachability, which gives the schema and the sessions
  have hall : Reachable Coordination.step (init T) s ∧
      ∀ c a pc, s.call c = .reserve a pc → ReserveResult s.tables a pc := by
    refine hreach.invariant (I := fun m => Reachable Coordination.step (init T) m ∧
      ∀ c a pc, m.call c = .reserve a pc → ReserveResult m.tables a pc) ?_ ⟨Reachable.refl _, ?_⟩
    · rintro m e m' ⟨hm, hresult⟩ hstep
      refine ⟨hm.next hstep, ?_⟩
      intro c a pc' hcall'
      have hinv := inv_of_reachable hm
      cases reserveOrigin_of_step hstep hcall' with
      | kept hcall =>
          exact reserveResult_step hinv hstep (hresult c a pc' hcall)
      | started _ hpc =>
          subst hpc
          trivial
      | statement now pc _ hcall hs =>
          refine reserveResult_step hinv hstep ?_
          exact reserveStep_result (schemaOk_of_reachable hT hm) (hinv.reserve_session hcall)
            (hresult c a pc hcall) hs
      | fault fault pc o _ _ hfail =>
          exact reserveFail_result _ _ hfail
      | killed _ hpc =>
          subst hpc
          trivial
    · intro c a pc hcall
      cases hcall
  exact hall.2 c a pc hcall

/-! ## Results of `complete` -/

/-- What can leave `complete` as an exception when its rows are there to be updated. -/
def CompleteRaises (e : Exc) : Prop :=
  e = completionFailed ∨ ∃ className, e = .foreign className

def CompleteResult : CompletePc → Prop
  | .rollback e => CompleteRaises e
  | .done (.error e) => CompleteRaises e
  | _ => True

/-- The next `UPDATE` of a `complete` finds the row its `WHERE` clause asks for, and nobody else
holds that row. -/
def FindsRow (s : Server Row ι) (c : ι) (a : CompleteArgs) : CompletePc → Prop
  | .updateTransaction =>
      s.blocked c (.transaction a.transaction.transactionId) = false ∧ ∃ row : TransactionRow,
        s.view c (.transaction a.transaction.transactionId) = some row ∧
          row.version = a.expectedVersion ∧ row.admitted = true
  | .updateRecord _ =>
      s.blocked c (.record a.keyHash) = false ∧ ∃ record : IdempotencyRecord,
        s.view c (.record a.keyHash) = some record ∧ recordGuard a record = true ∧
          record.admitted = true
  | _ => True

theorem completeStep_result {s s' : Server Row ι} {c : ι} {a : CompleteArgs} {now : Timestamp}
    {pc pc' : CompletePc} (hfinds : FindsRow s c a pc) (h : CompleteResult pc)
    (hstep : completeStep s c a now pc = some (s', pc')) : CompleteResult pc' := by
  cases completeStatement_of_step hstep with
  | missedTransaction hmissed =>
      rcases hfinds with ⟨_, row, hview, hversion, _⟩
      exact absurd hversion (hmissed row hview)
  | missedRecord t hmissed =>
      rcases hfinds with ⟨_, record, hview, hguard, _⟩
      exact absurd hguard (hmissed record hview)
  | badTransaction _ =>
      exact (valueRefused_cases _ _).imp id fun heq => ⟨_, heq⟩
  | badRecord t _ =>
      exact (recordUpdateError_cases a).imp id fun heq => ⟨_, heq⟩
  | refusedTransaction set row _ _ _ | refusedRecord t set record _ _ _ =>
      exact .inl rfl
  | raised e =>
      exact h
  | _ =>
      trivial

theorem completeFail_result {fault : Fault} {pc pc' : CompletePc} {o : Orphan}
    (hfail : completeFail (fault.during completionFailed) pc = some (pc', o)) :
    CompleteResult pc' := by
  have hraises : CompleteRaises (fault.during completionFailed) := by
    cases fault with
    | sqlAlchemyError =>
        exact .inl rfl
    | foreign className =>
        exact .inr ⟨className, rfl⟩
  cases pc <;> cases hfail <;> exact hraises

/-- The values of a completion pass the column types and the checks of both tables. -/
structure FitsTables (a : CompleteArgs) : Prop where
  row_fits : ∀ now, ∃ set, transactionUpdate a now = some set ∧
    ∀ row : TransactionRow, row.admitted = true → (set row).admitted = true
  record_fits : ∀ now, ∃ set, recordUpdate a now = some set ∧
    ∀ record : IdempotencyRecord, record.admitted = true → (set record).admitted = true

/-- A `complete` that has met no error, and how many of its statements are still to come. -/
def CompletePc.remaining : CompletePc → Option Nat
  | .updateTransaction => some 3
  | .updateRecord _ => some 2
  | .commit _ => some 1
  | .done (.ok ()) => some 0
  | _ => none

/-- With values that fit and rows that are found, each statement of `complete` succeeds. -/
theorem completeStep_advances {s : Server Row ι} {c : ι} {a : CompleteArgs} {pc : CompletePc}
    (hfits : FitsTables a) (hfinds : FindsRow s c a pc) {n : Nat}
    (hpc : pc.remaining = some (n + 1)) (now : Timestamp) :
    ∃ s' pc', completeStep s c a now pc = some (s', pc') ∧ pc'.remaining = some n := by
  -- only a running call has statements left
  cases pc with
  | updateTransaction =>
      cases hpc
      rcases hfinds with ⟨hfree, row, hview, hversion, hok⟩
      rcases hfits.row_fits now with ⟨set, hset, hadmitted⟩
      refine ⟨s.write c (.transaction a.transaction.transactionId) (set row), .updateRecord now, ?_,
        rfl⟩
      simp [completeStep, hset, hview, hversion, hfree, hadmitted row hok]
  | updateRecord t =>
      cases hpc
      rcases hfinds with ⟨hfree, record, hview, hguard, hok⟩
      rcases hfits.record_fits t with ⟨set, hset, hadmitted⟩
      refine ⟨s.write c (.record a.keyHash) (set record), .commit t, ?_, rfl⟩
      simp [completeStep, hset, hview, hguard, hfree, hadmitted record hok]
  | commit t =>
      cases hpc
      exact ⟨_, _, rfl, rfl⟩
  | done r =>
      cases r <;> cases hpc
  | rollback e =>
      cases hpc
  | gone =>
      cases hpc

end Infrastructure
end TransactionPlatform
