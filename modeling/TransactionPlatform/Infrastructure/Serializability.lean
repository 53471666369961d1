import TransactionPlatform.Infrastructure.Atomicity

/-!
# Serializability — concurrent calls against calls run one after another

`reserveAlone` and `completeAlone` run a call on a database nobody else uses.  Along every run of
the coordination system, with every fault it allows, the tables are those one gets by running the
committed calls alone in commit order; completed records are never touched again, and a
transaction row changes only by a completion that found it at its expected version.
-/

namespace TransactionPlatform
namespace Infrastructure

open Text Domain Ports ReadCommitted Transition

variable {ι : Type} [DecidableEq ι]

/-! ## Calls run alone -/

/-- Take steps until none is left or the fuel is used up. -/
def drive {σ : Type} (next : σ → Option σ) : Nat → σ → σ
  | 0, s => s
  | n + 1, s =>
      match next s with
      | some s' => drive next n s'
      | none => s

theorem drive_of_next {σ : Type} {next : σ → Option σ} {s s' : σ} (h : next s = some s') (n : Nat) :
    drive next (n + 1) s = drive next n s' := by
  simp [drive, h]

/-- `reserve` with the database to itself; seven statements are always enough. -/
def reserveAlone (a : ReserveArgs) (now : Timestamp) (T : Tables) : Server Row Unit × ReservePc :=
  drive (fun st => reserveStep st.1 () a now st.2) 7 (Server.fresh T, .select)

def completeAlone (a : CompleteArgs) (now : Timestamp) (T : Tables) :
    Server Row Unit × CompletePc :=
  drive (fun st => completeStep st.1 () a now st.2) 4 (Server.fresh T, completeStart a)

/-- The tables after a call that ran alone. -/
def CoordinatorCall.alone (call : CoordinatorCall) (now : Timestamp) (T : Tables) : Tables :=
  match call with
  | .reserve a => (reserveAlone a now T).1.committed
  | .complete a => (completeAlone a now T).1.committed

/-- A call that runs alone returns normally, a `reserve` with `ACQUIRED`. -/
def CoordinatorCall.Succeeds (call : CoordinatorCall) (now : Timestamp) (T : Tables) : Prop :=
  match call with
  | .reserve a => (reserveAlone a now T).2 = .done (.ok (reservation .acquired))
  | .complete a => (completeAlone a now T).2 = .done (.ok ())

/-- The tables after running the calls of a log alone, one after another. -/
def runSerially (log : List (Commit ι)) (T : Tables) : Tables :=
  log.foldl (fun T e => e.call.alone e.now T) T

/-! ## Column types and primary keys -/

theorem varchar_cases {n : Nat} {s s' : PyStr} (h : varchar n s = some s') :
    pgText s = true ∧ (s' = s ∨ n < s.length) := by
  unfold varchar at h
  split at h
  · rename_i htext
    refine ⟨htext, ?_⟩
    split at h
    · exact .inl (Option.some.inj h).symm
    · rename_i hlen
      exact .inr (by omega)
  · cases h

theorem transactionInsert_fields {a : ReserveArgs} {now : Timestamp} {row : TransactionRow}
    (h : transactionInsert a now = some row) :
    varchar 128 a.transactionId = some row.transactionId ∧
      varchar 128 a.merchantId = some row.merchantId ∧ row.amount = a.amount ∧
      varchar 3 a.currency = some row.currency ∧ row.status = py "CREATED" ∧
      row.pendingOperation = none ∧ row.version = 0 ∧ row.networkReference = none ∧
      row.authorizationCode = none ∧ row.declineCode = none := by
  unfold transactionInsert at h
  split at h
  · rename_i id merchant currency hid hmerchant hcurrency
    split at h
    · cases h
      exact ⟨hid, hmerchant, rfl, hcurrency, rfl, rfl, rfl, rfl, rfl, rfl⟩
    · cases h
  · cases h

theorem recordInsert_fields {a : ReserveArgs} {now : Timestamp} {record : IdempotencyRecord}
    (h : recordInsert a now = some record) :
    varchar 64 a.keyHash = some record.idempotencyKeyHash ∧
      varchar 64 a.requestFingerprint = some record.requestFingerprint ∧
      varchar 128 a.transactionId = some record.transactionId ∧
      record.processingStatus = py "IN_PROGRESS" ∧ record.storedStatusCode = none ∧
      record.storedResponseBody = none ∧ record.storedHeaders = none := by
  unfold recordInsert at h
  split at h
  · rename_i keyHash fp id hkey hfp hid
    cases h
    exact ⟨hkey, hfp, hid, rfl, rfl, rfl, rfl⟩
  · cases h

theorem transactionUpdate_fields {a : CompleteArgs} {now : Timestamp}
    {set : TransactionRow → TransactionRow} (h : transactionUpdate a now = some set)
    (row : TransactionRow) :
    (set row).transactionId = row.transactionId ∧ (set row).merchantId = row.merchantId ∧
      (set row).amount = row.amount ∧ (set row).currency = row.currency ∧
      (set row).createdAt = row.createdAt ∧ (set row).status = a.transaction.status.value ∧
      (set row).pendingOperation = a.transaction.pendingOperation.map PendingOperation.value ∧
      (set row).version = a.transaction.version ∧
      varcharOpt 128 a.networkReference = some (set row).networkReference ∧
      varcharOpt 128 a.authorizationCode = some (set row).authorizationCode ∧
      varcharOpt 128 a.declineCode = some (set row).declineCode := by
  unfold transactionUpdate at h
  split at h
  · rename_i networkReference authorizationCode declineCode hnet hauth hdecline
    split at h
    · cases h
      exact ⟨rfl, rfl, rfl, rfl, rfl, rfl, rfl, rfl, hnet, hauth, hdecline⟩
    · cases h
  · cases h

theorem varcharOpt_text {n : Nat} {s : PyStr} {column : Option PyStr}
    (h : varcharOpt n (some s) = some column) : pgText s = true := by
  rcases Option.map_eq_some_iff.mp h with ⟨stored, hstored, _⟩
  exact (varchar_cases hstored).1

theorem transactionUpdate_id {a : CompleteArgs} {now : Timestamp}
    {set : TransactionRow → TransactionRow} (h : transactionUpdate a now = some set) :
    pgText a.transaction.transactionId = true := by
  unfold transactionUpdate at h
  split at h
  · split at h
    · rename_i hbound
      simp only [Bool.and_eq_true] at hbound
      exact hbound.1.1
    · cases h
  · cases h

theorem recordUpdate_fields {a : CompleteArgs} {now : Timestamp}
    {set : IdempotencyRecord → IdempotencyRecord} (h : recordUpdate a now = some set)
    (record : IdempotencyRecord) :
    (set record).idempotencyKeyHash = record.idempotencyKeyHash ∧
      (set record).requestFingerprint = record.requestFingerprint ∧
      (set record).transactionId = record.transactionId ∧
      (set record).createdAt = record.createdAt ∧
      (set record).processingStatus = py "COMPLETED" ∧
      (set record).storedStatusCode = some a.envelope.statusCode ∧
      (set record).storedResponseBody = (noneAsNull a.envelope.body).map Json.joined ∧
      (set record).storedHeaders = joinedHeaders (persistedHeaders a.envelope.headers) := by
  unfold recordUpdate at h
  split at h
  · cases h
    exact ⟨rfl, rfl, rfl, rfl, rfl, rfl, rfl, rfl⟩
  · cases h

/-! ## Committed calls keep the schema -/

theorem overlay_bothRows_transaction (T : Tables) (id : PyStr) (row : TransactionRow)
    (keyHash : PyStr) (record : IdempotencyRecord) (id' : PyStr) :
    overlay (bothRows id row keyHash record) T (.transaction id') =
      if id' = id then some row else T (.transaction id') := by
  by_cases h : id' = id
  · subst h
    simp [overlay]
  · simp [overlay, bothRows_transaction_of_ne row record h, h]

theorem overlay_bothRows_record (T : Tables) (id : PyStr) (row : TransactionRow)
    (keyHash : PyStr) (record : IdempotencyRecord) (keyHash' : PyStr) :
    overlay (bothRows id row keyHash record) T (.record keyHash') =
      if keyHash' = keyHash then some record else T (.record keyHash') := by
  by_cases h : keyHash' = keyHash
  · subst h
    simp [overlay]
  · simp [overlay, bothRows_record_of_ne row record h, h]

/-- Writing a transaction and a record that reference each other correctly keeps the schema. -/
theorem SchemaOk.overlay {T : Tables} (hT : SchemaOk T) {row : TransactionRow}
    {record : IdempotencyRecord} (hrow : row.admitted = true) (hrecord : record.admitted = true)
    (hfk : (overlay (bothRows row.transactionId row record.idempotencyKeyHash record) T
      (.transaction record.transactionId)).isSome) :
    SchemaOk (overlay (bothRows row.transactionId row record.idempotencyKeyHash record) T) where
  transaction_ok := by
    intro id r h
    rw [overlay_bothRows_transaction] at h
    split at h
    · rename_i heq
      cases h
      exact ⟨heq.symm, hrow⟩
    · exact hT.transaction_ok id r h
  record_ok := by
    intro keyHash r h
    rw [overlay_bothRows_record] at h
    split at h
    · rename_i heq
      cases h
      exact ⟨heq.symm, hrecord⟩
    · exact hT.record_ok keyHash r h
  record_fk := by
    intro keyHash r h
    rw [overlay_bothRows_record] at h
    split at h
    · cases h
      exact hfk
    · -- an old record keeps its transaction, which is written over at most
      have hold := hT.record_fk keyHash r h
      rw [overlay_bothRows_transaction]
      split
      · rfl
      · exact hold

theorem Applies.schemaOk {call : CoordinatorCall} {now : Timestamp} {T T' : Tables}
    (h : Applies call now T T') (hT : SchemaOk T) : SchemaOk T' := by
  rcases h with ⟨p, hready, rfl⟩
  cases call with
  | reserve a =>
      rcases hready with ⟨row, record, hr⟩
      rw [hr.pending_eq]
      refine hT.overlay hr.row_ok hr.record_ok ?_
      rw [overlay_bothRows_transaction, recordInsert_transactionId hr.insert_row hr.insert_record]
      simp
  | complete a =>
      rcases hready with ⟨row, row', record, record', hr⟩
      rcases hr.transaction_ready with ⟨setRow, hsetRow, rfl⟩
      rcases hr.record_ready with ⟨setRecord, hsetRecord, rfl⟩
      -- the updates keep both primary keys
      have hid : (setRow row).transactionId = a.transaction.transactionId := by
        rw [(transactionUpdate_fields hsetRow.update_row row).1]
        exact (hT.transaction_ok _ _ hsetRow.row_eq).1
      have hkey : (setRecord record).idempotencyKeyHash = a.keyHash := by
        rw [(recordUpdate_fields hsetRecord.update_record record).1]
        exact (hT.record_ok _ _ hsetRecord.record_eq).1
      rw [hr.pending_eq, ← hid, ← hkey]
      refine hT.overlay hsetRow.row_ok hsetRecord.record_ok ?_
      -- and the guard of the record update has read the link
      have hfk : (setRecord record).transactionId = record.transactionId :=
        (recordUpdate_fields hsetRecord.update_record record).2.2.1
      have hlinked : record.transactionId = a.transaction.transactionId := by
        have hguard := hsetRecord.guard_ok
        simp only [recordGuard, Bool.and_eq_true, decide_eq_true_eq] at hguard
        exact hguard.1
      rw [overlay_bothRows_transaction, hfk, hlinked, hid]
      simp

theorem step_schemaOk {s s' : Coordination ι} {e : CoordinatorEvent ι} (h : s.Inv)
    (hT : SchemaOk s.tables) (hstep : s.step e = some s') : SchemaOk s'.tables := by
  cases Coordination.step_effect h hstep with
  | quiet htables _ =>
      rwa [htables]
  | commits c call now _ _ _ happlies =>
      exact happlies.schemaOk hT

/-! ## A committed call succeeds when it runs alone -/

theorem fresh_view (T : Tables) (k : Pk) : (Server.fresh T : Server Row Unit).view () k = T k := by
  simp [Server.fresh, Server.view]

/-- With one session nothing is ever blocked. -/
theorem unit_not_blocked (s : Server Row Unit) (k : Pk) : s.blocked () k = false := by
  unfold Server.blocked
  split <;> simp

/-- A text that was cut on storing is too long for any stored key hash. -/
theorem SchemaOk.record_eq_none {T : Tables} (hT : SchemaOk T) {keyHash : PyStr}
    (h : 64 < keyHash.length) : T (.record keyHash) = none := by
  cases hrec : T (.record keyHash) with
  | none =>
      rfl
  | some record =>
      rcases hT.record_ok keyHash record hrec with ⟨hkey, hok⟩
      have hformat : matchesClass lowerHex 64 record.idempotencyKeyHash = true := by
        simp only [IdempotencyRecord.admitted, Bool.and_eq_true] at hok
        exact hok.1.1.1.1.1
      have hlen : record.idempotencyKeyHash.length = 64 := by
        simp only [matchesClass, Bool.and_eq_true, decide_eq_true_eq] at hformat
        exact hformat.1
      rw [hkey] at hlen
      omega

theorem reserveAlone_of_ready {T : Tables} (hT : SchemaOk T) {p : Store Row} {a : ReserveArgs}
    {now : Timestamp} {row : TransactionRow} {record : IdempotencyRecord}
    (hr : ReserveReady T p a now row record) :
    (reserveAlone a now T).1.committed = overlay p T ∧
      (reserveAlone a now T).2 = .done (.ok (reservation .acquired)) := by
  have hkeyVarchar := (recordInsert_fields hr.insert_record).1
  have htext : pgText a.keyHash = true := (varchar_cases hkeyVarchar).1
  have hnone : T (.record a.keyHash) = none := by
    rcases (varchar_cases hkeyVarchar).2 with heq | hlong
    · rw [← heq]
      exact hr.record_new
    · exact hT.record_eq_none hlong
  have hfk : record.transactionId = row.transactionId :=
    recordInsert_transactionId hr.insert_row hr.insert_record
  -- select, insert, insert, commit
  have h₁ : reserveStep (Server.fresh T) () a now .select =
      some (Server.fresh T, .insertTransaction now) := by
    simp [reserveStep, htext, fresh_view, hnone]
  have h₂ : reserveStep (Server.fresh T) () a now (.insertTransaction now) =
      some ((Server.fresh T).write () (.transaction row.transactionId) row, .insertRecord now) := by
    simp [reserveStep, hr.insert_row, hr.row_ok, unit_not_blocked, fresh_view, hr.row_new]
  have hpending : ((Server.fresh T).write () (.transaction row.transactionId) row).pending () =
      oneRow row.transactionId row := by
    rw [Server.write_pending_self]
    rfl
  have h₃ : reserveStep ((Server.fresh T).write () (.transaction row.transactionId) row) () a now
      (.insertRecord now) =
      some (((Server.fresh T).write () (.transaction row.transactionId) row).write ()
        (.record record.idempotencyKeyHash) record, .commitAcquired now) := by
    have hview : ((Server.fresh T).write () (.transaction row.transactionId) row).view ()
        (.record record.idempotencyKeyHash) = none := by
      simp [Server.view, Server.fresh, hr.record_new]
    have hviewTxn : ((Server.fresh T).write () (.transaction row.transactionId) row).view ()
        (.transaction record.transactionId) = some row := by
      rw [hfk]
      simp [Server.view]
    simp [reserveStep, hr.insert_record, hr.record_ok, unit_not_blocked, hview, hviewTxn]
  have hpending₂ : (((Server.fresh T).write () (.transaction row.transactionId) row).write ()
      (.record record.idempotencyKeyHash) record).pending () = p := by
    rw [Server.write_pending_self, hpending, hr.pending_eq]
    rfl
  have hrun : reserveAlone a now T =
      ((((Server.fresh T).write () (.transaction row.transactionId) row).write ()
        (.record record.idempotencyKeyHash) record).commit (),
        .done (.ok (reservation .acquired))) := by
    unfold reserveAlone
    rw [drive_of_next h₁, drive_of_next h₂, drive_of_next h₃]
    rfl
  rw [hrun]
  refine ⟨?_, rfl⟩
  simp only [Server.commit_committed, hpending₂]
  rfl

theorem completeAlone_of_ready {T : Tables} {p : Store Row} {a : CompleteArgs} {now : Timestamp}
    {row row' : TransactionRow} {record record' : IdempotencyRecord}
    (hr : CompleteReady T p a now row row' record record') :
    (completeAlone a now T).1.committed = overlay p T ∧
      (completeAlone a now T).2 = .done (.ok ()) := by
  rcases hr.transaction_ready with ⟨setRow, hrow, rfl⟩
  rcases hr.record_ready with ⟨setRecord, hrecord, rfl⟩
  have hstart : completeStart a = .updateTransaction := by
    simp [completeStart, hrow.version_next]
  -- update, update, commit
  have h₁ : completeStep (Server.fresh T) () a now .updateTransaction =
      some ((Server.fresh T).write () (.transaction a.transaction.transactionId) (setRow row),
        .updateRecord now) := by
    simp [completeStep, hrow.update_row, fresh_view, hrow.row_eq, hrow.version_eq,
      unit_not_blocked, hrow.row_ok]
  have hpending : ((Server.fresh T).write () (.transaction a.transaction.transactionId)
      (setRow row)).pending () = oneRow a.transaction.transactionId (setRow row) := by
    rw [Server.write_pending_self]
    rfl
  have h₂ : completeStep ((Server.fresh T).write () (.transaction a.transaction.transactionId)
      (setRow row)) () a now (.updateRecord now) =
      some (((Server.fresh T).write () (.transaction a.transaction.transactionId)
        (setRow row)).write () (.record a.keyHash) (setRecord record), .commit now) := by
    have hview : ((Server.fresh T).write () (.transaction a.transaction.transactionId)
        (setRow row)).view () (.record a.keyHash) = some record := by
      simp [Server.view, Server.fresh, hrecord.record_eq]
    simp [completeStep, hrecord.update_record, hview, hrecord.guard_ok, unit_not_blocked,
      hrecord.record_ok]
  have hpending₂ : (((Server.fresh T).write () (.transaction a.transaction.transactionId)
      (setRow row)).write () (.record a.keyHash) (setRecord record)).pending () = p := by
    rw [Server.write_pending_self, hpending, hr.pending_eq]
    rfl
  have hrun : completeAlone a now T =
      ((((Server.fresh T).write () (.transaction a.transaction.transactionId)
        (setRow row)).write () (.record a.keyHash) (setRecord record)).commit (),
        .done (.ok ())) := by
    unfold completeAlone
    rw [hstart, drive_of_next h₁, drive_of_next h₂]
    rfl
  rw [hrun]
  refine ⟨?_, rfl⟩
  simp only [Server.commit_committed, hpending₂]
  rfl

theorem Applies.alone {call : CoordinatorCall} {now : Timestamp} {T T' : Tables}
    (h : Applies call now T T') (hT : SchemaOk T) :
    call.alone now T = T' ∧ call.Succeeds now T := by
  rcases h with ⟨p, hready, rfl⟩
  cases call with
  | reserve a =>
      rcases hready with ⟨row, record, hr⟩
      exact reserveAlone_of_ready hT hr
  | complete a =>
      rcases hready with ⟨row, row', record, record', hr⟩
      exact completeAlone_of_ready hr

/-! ## What a committed call does to existing rows -/

/-- An existing record stays as it is, or goes from `IN_PROGRESS` to `COMPLETED`. -/
theorem Applies.record_cases {call : CoordinatorCall} {now : Timestamp} {T T' : Tables}
    (h : Applies call now T T') {keyHash : PyStr} {record : IdempotencyRecord}
    (hrecord : T (.record keyHash) = some record) :
    T' (.record keyHash) = some record ∨
      ∃ record' : IdempotencyRecord, T' (.record keyHash) = some record' ∧
        record.processingStatus = py "IN_PROGRESS" ∧
        record'.processingStatus = py "COMPLETED" := by
  rcases h with ⟨p, hready, rfl⟩
  -- a `reserve` writes new keys only, a `complete` the rows it names
  cases call with
  | reserve a =>
      rcases hready with ⟨row, new, hr⟩
      left
      rw [hr.pending_eq, overlay_bothRows_record]
      split
      · rename_i heq
        rw [heq, hr.record_new] at hrecord
        cases hrecord
      · exact hrecord
  | complete a =>
      rcases hready with ⟨row, row', old, record', hr⟩
      rcases hr.record_ready with ⟨set, hset, rfl⟩
      rw [hr.pending_eq, overlay_bothRows_record]
      split
      · rename_i heq
        right
        rw [heq, hset.record_eq] at hrecord
        cases hrecord
        have hguard := hset.guard_ok
        simp only [recordGuard, Bool.and_eq_true, decide_eq_true_eq] at hguard
        exact ⟨set record, rfl, hguard.2,
          (recordUpdate_fields hset.update_record record).2.2.2.2.1⟩
      · exact .inl hrecord

/-- An existing transaction row stays as it is, or a completion takes it from its expected version
to the next one. -/
theorem Applies.transaction_cases {call : CoordinatorCall} {now : Timestamp} {T T' : Tables}
    (h : Applies call now T T') {id : PyStr} {row : TransactionRow}
    (hrow : T (.transaction id) = some row) :
    T' (.transaction id) = some row ∨
      ∃ (a : CompleteArgs) (row' : TransactionRow), call = .complete a ∧
        a.transaction.transactionId = id ∧ T' (.transaction id) = some row' ∧
        row.version = a.expectedVersion ∧ row'.version = row.version + 1 := by
  rcases h with ⟨p, hready, rfl⟩
  cases call with
  | reserve a =>
      rcases hready with ⟨new, record, hr⟩
      left
      rw [hr.pending_eq, overlay_bothRows_transaction]
      split
      · -- a new row has a new key
        rename_i heq
        rw [heq, hr.row_new] at hrow
        cases hrow
      · exact hrow
  | complete a =>
      rcases hready with ⟨old, row', record, record', hr⟩
      rcases hr.transaction_ready with ⟨set, hset, rfl⟩
      rw [hr.pending_eq, overlay_bothRows_transaction]
      split
      · rename_i heq
        right
        rw [heq, hset.row_eq] at hrow
        cases hrow
        have hversion : (set row).version = row.version + 1 := by
          rw [(transactionUpdate_fields hset.update_row row).2.2.2.2.2.2.2.1, hset.version_next,
            hset.version_eq]
        exact ⟨a, set row, rfl, heq.symm, rfl, hset.version_eq, hversion⟩
      · exact .inl hrow

namespace Coordination

/-- A step completes the record of `keyHash`. -/
def CompletesRecord (keyHash : PyStr) (s s' : Coordination ι) : Prop :=
  ∃ record record' : IdempotencyRecord,
    s.tables (.record keyHash) = some record ∧ record.processingStatus = py "IN_PROGRESS" ∧
    s'.tables (.record keyHash) = some record' ∧ record'.processingStatus = py "COMPLETED"

/-- A completed record keeps all its columns in a step. -/
theorem completed_step {s s' : Coordination ι} {e : CoordinatorEvent ι} (h : Inv s)
    (hstep : s.step e = some s') {keyHash : PyStr} {record : IdempotencyRecord}
    (hrecord : s.tables (.record keyHash) = some record)
    (hdone : record.processingStatus = py "COMPLETED") :
    s'.tables (.record keyHash) = some record := by
  cases step_effect h hstep with
  | quiet htables _ =>
      rwa [htables]
  | commits c call now _ _ _ happlies =>
      rcases happlies.record_cases hrecord with hsame | ⟨_, _, hprogress, _⟩
      · exact hsame
      · simp [hdone] at hprogress

/-- A completed record keeps all its columns in every run. -/
theorem completed_forever {s s' : Coordination ι} (h : Inv s)
    (hreach : Reachable Coordination.step s s') {keyHash : PyStr} {record : IdempotencyRecord}
    (hrecord : s.tables (.record keyHash) = some record)
    (hdone : record.processingStatus = py "COMPLETED") :
    s'.tables (.record keyHash) = some record := by
  have hboth : Inv s' ∧ s'.tables (.record keyHash) = some record := by
    refine hreach.invariant (I := fun m => Inv m ∧ m.tables (.record keyHash) = some record) ?_
      ⟨h, hrecord⟩
    rintro m e m' ⟨hm, hrec⟩ hstep
    exact ⟨step_inv hm hstep, completed_step hm hstep hrec hdone⟩
  exact hboth.2

theorem inv_of_reachable {T : Tables} {s : Coordination ι}
    (hreach : Reachable Coordination.step (init T) s) : Inv s :=
  hreach.invariant (fun _ _ _ hm hstep => step_inv hm hstep) (inv_init T)

theorem schemaOk_of_reachable {T : Tables} (hT : SchemaOk T) {s : Coordination ι}
    (hreach : Reachable Coordination.step (init T) s) : SchemaOk s.tables := by
  have hboth : Inv s ∧ SchemaOk s.tables := by
    refine hreach.invariant (I := fun m => Inv m ∧ SchemaOk m.tables) ?_ ⟨inv_init T, hT⟩
    rintro m e m' ⟨hm, hok⟩ hstep
    exact ⟨step_inv hm hstep, step_schemaOk hm hok hstep⟩
  exact hboth.2

/-- Along every run the tables are those of the committed calls run alone in commit order. -/
theorem tables_eq_runSerially {T : Tables} (hT : SchemaOk T) {s : Coordination ι}
    (hreach : Reachable Coordination.step (init T) s) :
    s.tables = runSerially s.log T ∧
      ∀ before after e, s.log = before ++ e :: after →
        e.call.Succeeds e.now (runSerially before T) := by
  -- the run so far satisfies the schema, and its last commit extends the serial execution
  have hall : (Inv s ∧ SchemaOk s.tables) ∧ s.tables = runSerially s.log T ∧
      ∀ before after e, s.log = before ++ e :: after →
        e.call.Succeeds e.now (runSerially before T) := by
    refine hreach.invariant
      (I := fun m => (Inv m ∧ SchemaOk m.tables) ∧ m.tables = runSerially m.log T ∧
        ∀ before after e, m.log = before ++ e :: after →
          e.call.Succeeds e.now (runSerially before T)) ?_ ?_
    · rintro m e m' ⟨⟨hm, hok⟩, htab, hsucc⟩ hstep
      refine ⟨⟨step_inv hm hstep, step_schemaOk hm hok hstep⟩, ?_⟩
      cases step_effect hm hstep with
      | quiet htables hlog =>
          rw [htables, hlog]
          exact ⟨htab, hsucc⟩
      | commits c call now _ _ hlog happlies =>
          rcases happlies.alone hok with ⟨halone, hsuccess⟩
          rw [hlog]
          constructor
          · simp [runSerially, ← halone, htab]
          · intro before after e' hsplit
            rcases List.eq_nil_or_concat after with rfl | ⟨front, last, rfl⟩
            · have hlast := List.append_inj' hsplit rfl
              rcases hlast with ⟨rfl, hentry⟩
              simp only [List.cons.injEq, and_true] at hentry
              subst hentry
              rw [← htab]
              exact hsuccess
            · have hlast : m.log ++ [⟨c, call, now⟩] = (before ++ e' :: front) ++ [last] := by
                simpa using hsplit
              exact hsucc before front e' (List.append_inj' hlast rfl).1
    · refine ⟨⟨inv_init T, hT⟩, rfl, ?_⟩
      intro before after e hsplit
      simp [init] at hsplit
  exact hall.2

/-- Any number of concurrent `reserve` and `complete` calls with any arguments, under every
interleaving and every fault: a record is completed at most once and keeps its columns from then
on; a change of a transaction row is made by a completion that found the row at its expected
version and raises the version by one; and the tables are those of the committed calls run one
after another. -/
theorem calls_complete_once {T : Tables} (hT : SchemaOk T) (es : List (CoordinatorEvent ι))
    {s : Coordination ι} (hrun : exec Coordination.step (init T) es = some s) :
    (∀ keyHash, (transitions Coordination.step (init T) es).Pairwise fun t u =>
      ¬ (CompletesRecord keyHash t.1 t.2.2 ∧ CompletesRecord keyHash u.1 u.2.2)) ∧
    (∀ before after m keyHash (record : IdempotencyRecord), es = before ++ after →
      exec Coordination.step (init T) before = some m →
      m.tables (.record keyHash) = some record → record.processingStatus = py "COMPLETED" →
      s.tables (.record keyHash) = some record) ∧
    (∀ m e m', (m, e, m') ∈ transitions Coordination.step (init T) es →
      ∀ id (row row' : TransactionRow), m.tables (.transaction id) = some row →
        m'.tables (.transaction id) = some row' → row' ≠ row →
        ∃ c a now, m'.log = m.log ++ [⟨c, .complete a, now⟩] ∧
          a.transaction.transactionId = id ∧ row.version = a.expectedVersion ∧
          row'.version = row.version + 1) ∧
    s.tables = runSerially s.log T ∧
    (∀ before after e, s.log = before ++ e :: after →
      e.call.Succeeds e.now (runSerially before T)) := by
  have hreach : Reachable Coordination.step (init T) s := ⟨es, hrun⟩
  refine ⟨?_, ?_, ?_, tables_eq_runSerially hT hreach⟩
  · intro keyHash
    refine List.Pairwise.imp_of_mem ?_ (transitions_pairwise (init T) es)
    rintro ⟨m₁, e₁, m₁'⟩ ⟨m₂, e₂, m₂'⟩ hmem₁ _ hlater
      ⟨⟨_, done, _, _, hdone, hcompleted⟩, ⟨again, _, hagain, hprogress, _, _⟩⟩
    -- the record is completed after the first of the two steps, hence before the second
    rcases mem_transitions hmem₁ with ⟨hm₁, hstep₁⟩
    have hkept := completed_forever (inv_of_reachable (hm₁.next hstep₁)) hlater hdone hcompleted
    have hsame : done = again := Option.some.inj (hkept.symm.trans hagain)
    rw [← hsame, hcompleted] at hprogress
    simp at hprogress
  · intro before after m keyHash record hsplit hbefore hrecord hdone
    rw [hsplit] at hrun
    rcases exec_append_eq_some.mp hrun with ⟨m', hm', hafter⟩
    have hsame : m' = m := Option.some.inj (hm'.symm.trans hbefore)
    subst hsame
    exact completed_forever (inv_of_reachable ⟨before, hbefore⟩) ⟨after, hafter⟩ hrecord hdone
  · intro m e m' hmem id row row' hrow hrow' hne
    rcases mem_transitions hmem with ⟨hm, hstep⟩
    cases step_effect (inv_of_reachable hm) hstep with
    | quiet htables _ =>
        rw [htables, hrow] at hrow'
        exact absurd (Option.some.inj hrow').symm hne
    | commits c call now _ _ hlog happlies =>
        rcases happlies.transaction_cases hrow with hsame | ⟨a, new, rfl, hid, hnew, hold, hnext⟩
        · rw [hsame] at hrow'
          exact absurd (Option.some.inj hrow').symm hne
        · have heq : new = row' := Option.some.inj (hnew.symm.trans hrow')
          subst heq
          exact ⟨c, a, now, hlog, hid, hold, hnext⟩

/-- Two completions of one reservation race: the second waits for the first and finds the version
taken. -/
theorem calls_complete_once_race :
    let a : ReserveArgs :=
      { keyHash := List.replicate 64 0x61
        requestFingerprint := List.replicate 64 0x62
        transactionId := py "txn_1"
        merchantId := py "m_1"
        amount := 100
        currency := py "USD" }
    let done : CompleteArgs :=
      { keyHash := a.keyHash
        transaction := ⟨py "txn_1", .declined, 1, none⟩
        expectedVersion := 0
        envelope := ⟨201, .obj [], [], false, none⟩
        networkReference := none
        authorizationCode := none
        declineCode := some (py "05") }
    let run : List (CoordinatorEvent Nat) :=
      [.start 0 (.reserve a), .step 0 1, .step 0 1, .step 0 1, .step 0 1,
        .start 1 (.complete done), .start 2 (.complete done), .step 1 2, .step 1 2, .step 1 2,
        .step 2 3, .step 2 3]
    ∃ s, exec Coordination.step (init emptyTables) run = some s ∧ s.log.length = 2 ∧
      s.tables = runSerially s.log emptyTables := by
  intro a done run
  have hlogged : (exec Coordination.step (init emptyTables) run).any
      (fun s => s.log.length = 2) = true := by
    decide +kernel
  rcases (Option.any_eq_true _ _).mp hlogged with ⟨s, hrun, hlog⟩
  exact ⟨s, hrun, by simpa using hlog, (calls_complete_once schemaOk_empty run hrun).2.2.2.1⟩

end Coordination

end Infrastructure
end TransactionPlatform
