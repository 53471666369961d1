import TransactionPlatform.Infrastructure.Models

/-!
# IdempotencyCoordinator — `reserve` and `complete`, one statement at a time

`src/transaction_platform/infrastructure/idempotency_coordinator.py`.

Both coroutines are cut at their `await`s on the database.  The program counter names the statement
that comes next and holds the local values later statements need; `reserveStep` and `completeStep`
run that statement for session `c`.  `none` means that the statement has to wait for a lock (or
that the call is over).  `now()` is fixed when a transaction begins, so the first statement of a
transaction reads the clock for the whole transaction.
-/

namespace TransactionPlatform
namespace Infrastructure

open Text Domain Ports ReadCommitted

variable {ι : Type} [DecidableEq ι]

/-! ## `_classify_existing` -/

def reservation (status : ReservationStatus) : IdempotencyReservation :=
  { status := status
    storedEnvelope := none }

/-- `stored_headers or {}`. -/
def headersOrEmpty (headers : Option Headers) : Headers :=
  headers.getD []

/-- The envelope `_classify_existing` rebuilds from a completed record. -/
def storedEnvelope (statusCode : Int) (body : Json) (headers : Option Headers) : ResponseEnvelope :=
  { statusCode := statusCode
    body := body
    headers := headersOrEmpty headers
    isReplay := true
    mediaType :=
      some (if statusCode ≥ 400 then py "application/problem+json" else py "application/json") }

/-- `_classify_existing`.  A completed record without a stored code or body breaks
`chk_idempotency_payload_integrity`; comparing the missing code with 400 is a `TypeError`. -/
def classifyExisting (record : IdempotencyRecord) (requestFingerprint : PyStr) :
    Except Exc IdempotencyReservation :=
  if record.requestFingerprint ≠ requestFingerprint then
    .ok (reservation .idempotencyConflict)
  else if record.processingStatus = py "IN_PROGRESS" then
    .ok (reservation .inProgress)
  else if record.processingStatus = py "COMPLETED" then
    match record.storedStatusCode, record.storedResponseBody with
    | some code, some body =>
        .ok { status := .completed
              storedEnvelope := some (storedEnvelope code body record.storedHeaders) }
    | some code, none =>
        .ok { status := .completed
              storedEnvelope := some (storedEnvelope code .null record.storedHeaders) }
    | none, _ => .error (.foreign (py "TypeError"))
  else
    .error (.persistence (py "Unexpected processing_status: " ++ record.processingStatus))

/-! ## Values of the statements -/

def reservationFailed : Exc :=
  .persistence (py "Database persistence operation failed during reservation.")

def completionFailed : Exc :=
  .persistence (py "Database persistence operation failed during completion.")

def unexplainedConflict : Exc :=
  .persistence (py "Reservation failed due to unexpected integrity constraint violation.")

/-- A statement has failed because one of its values was refused.  The driver encodes the values in
their order and prints the first one it cannot encode; an integer with too many digits for that is a
`ValueError`, which nobody catches. -/
def valueRefused (n : Int) (failed : Exc) : Exc :=
  if printable n then failed else .foreign (py "ValueError")

/-- The row of step A; `none` is a data error. -/
def transactionInsert (a : ReserveArgs) (now : Timestamp) : Option TransactionRow :=
  match varchar 128 a.transactionId, varchar 128 a.merchantId, varchar 3 a.currency with
  | some transactionId, some merchantId, some currency =>
      if bigint a.amount then
        some
          { transactionId := transactionId
            merchantId := merchantId
            amount := a.amount
            currency := currency
            status := py "CREATED"
            pendingOperation := none
            version := 0
            networkReference := none
            authorizationCode := none
            declineCode := none
            createdAt := now
            updatedAt := now }
      else none
  | _, _, _ => none

/-- The two texts in front of the amount have to be encoded before it is refused. -/
def transactionInsertError (a : ReserveArgs) : Exc :=
  if a.transactionId.all isScalar && a.merchantId.all isScalar then
    valueRefused a.amount reservationFailed
  else reservationFailed

/-- The row of step B; `none` is a data error. -/
def recordInsert (a : ReserveArgs) (now : Timestamp) : Option IdempotencyRecord :=
  match varchar 64 a.keyHash, varchar 64 a.requestFingerprint, varchar 128 a.transactionId with
  | some keyHash, some requestFingerprint, some transactionId =>
      some
        { idempotencyKeyHash := keyHash
          requestFingerprint := requestFingerprint
          processingStatus := py "IN_PROGRESS"
          transactionId := transactionId
          storedStatusCode := none
          storedResponseBody := none
          storedHeaders := none
          createdAt := now
          updatedAt := now }
  | _, _, _ => none

/-- The header filter of `complete`: only `Retry-After` is kept. -/
def allowlistedHeaders (headers : Headers) : Headers :=
  headers.foldl
    (fun kept h =>
      if lower h.1 = py "retry-after" then Dict.set kept (py "Retry-After") h.2 else kept)
    []

def persistedHeaders (headers : Headers) : Option Headers :=
  if allowlistedHeaders headers = [] then none else some (allowlistedHeaders headers)

/-- The `SET` clause of the transaction update; `none` is a data error of a bound value. -/
def transactionUpdate (a : CompleteArgs) (now : Timestamp) :
    Option (TransactionRow → TransactionRow) :=
  match varcharOpt 128 a.networkReference, varcharOpt 128 a.authorizationCode,
      varcharOpt 128 a.declineCode with
  | some networkReference, some authorizationCode, some declineCode =>
      if pgText a.transaction.transactionId && integer a.expectedVersion &&
          integer a.transaction.version then
        some fun row =>
          { row with
            status := a.transaction.status.value
            pendingOperation := a.transaction.pendingOperation.map PendingOperation.value
            version := a.transaction.version
            networkReference := networkReference
            authorizationCode := authorizationCode
            declineCode := declineCode
            updatedAt := now }
      else none
  | _, _, _ => none

def transactionUpdateError (a : CompleteArgs) : Exc :=
  valueRefused a.transaction.version completionFailed

/-- The `SET` clause of the record update; `none` is a data error of a bound value. -/
def recordUpdate (a : CompleteArgs) (now : Timestamp) :
    Option (IdempotencyRecord → IdempotencyRecord) :=
  if pgText a.keyHash && pgText a.transaction.transactionId && integer a.envelope.statusCode &&
      jsonb a.envelope.body && jsonbHeaders (persistedHeaders a.envelope.headers) then
    some fun record =>
      { record with
        processingStatus := py "COMPLETED"
        storedStatusCode := some a.envelope.statusCode
        storedResponseBody := (noneAsNull a.envelope.body).map Json.joined
        storedHeaders := joinedHeaders (persistedHeaders a.envelope.headers)
        updatedAt := now }
  else none

/-- A body that `json.dumps` refuses fails before the driver sees any value. -/
def recordUpdateError (a : CompleteArgs) : Exc :=
  if a.envelope.body.dumpable maxNesting then valueRefused a.envelope.statusCode completionFailed
  else completionFailed

theorem valueRefused_cases (n : Int) (failed : Exc) :
    valueRefused n failed = failed ∨ valueRefused n failed = .foreign (py "ValueError") := by
  unfold valueRefused
  split
  · exact .inl rfl
  · exact .inr rfl

theorem valueRefused_of_printable {n : Int} (h : printable n = true) (failed : Exc) :
    valueRefused n failed = failed :=
  if_pos h

theorem transactionInsertError_cases (a : ReserveArgs) :
    transactionInsertError a = reservationFailed ∨
      transactionInsertError a = .foreign (py "ValueError") := by
  unfold transactionInsertError
  split
  · exact valueRefused_cases _ _
  · exact .inl rfl

theorem recordUpdateError_cases (a : CompleteArgs) :
    recordUpdateError a = completionFailed ∨
      recordUpdateError a = .foreign (py "ValueError") := by
  unfold recordUpdateError
  split
  · exact valueRefused_cases _ _
  · exact .inl rfl

/-! ## `reserve` -/

inductive ReservePc
  | select
  | insertTransaction (now : Timestamp)
  | insertRecord (now : Timestamp)
  | commitAcquired (now : Timestamp)
  | rollbackConflict
  | requery
  | requeryTransaction
  | commitResult (r : IdempotencyReservation)
  | commitUnexplained
  | rollback (e : Exc)
  | done (r : Except Exc IdempotencyReservation)
  | gone

/-- Leave the transaction block with a classification: commit and return, or roll back and
raise. -/
def afterClassify : Except Exc IdempotencyReservation → ReservePc
  | .ok r => .commitResult r
  | .error e => .rollback e

/-- Run the next statement of `reserve` in session `c`.  A parameter that is no PostgreSQL text is
a data error of the first statement that binds it. -/
def reserveStep (s : Server Row ι) (c : ι) (a : ReserveArgs) (now : Timestamp) :
    ReservePc → Option (Server Row ι × ReservePc)
  | .select =>
      if pgText a.keyHash then
        match s.view c (.record a.keyHash) with
        | some existing => some (s, afterClassify (classifyExisting existing a.requestFingerprint))
        | none => some (s, .insertTransaction now)
      else some (s, .rollback reservationFailed)
  | .insertTransaction t =>
      match transactionInsert a t with
      | none => some (s, .rollback (transactionInsertError a))
      | some row =>
          if row.admitted then
            if s.blocked c (.transaction row.transactionId) then none
            else if (s.view c (.transaction row.transactionId)).isSome then
              some (s, .rollbackConflict)
            else
              some (s.write c (.transaction row.transactionId) row, .insertRecord t)
          else some (s, .rollbackConflict)
  | .insertRecord t =>
      match recordInsert a t with
      | none => some (s, .rollback reservationFailed)
      | some record =>
          if record.admitted then
            if s.blocked c (.record record.idempotencyKeyHash) then none
            else if (s.view c (.record record.idempotencyKeyHash)).isSome ||
                (s.view c (.transaction record.transactionId)).isNone then
              some (s, .rollbackConflict)
            else
              some (s.write c (.record record.idempotencyKeyHash) record, .commitAcquired t)
          else some (s, .rollbackConflict)
  | .commitAcquired _ => some (s.commit c, .done (.ok (reservation .acquired)))
  | .rollbackConflict => some (s.rollback c, .requery)
  | .requery =>
      match s.view c (.record a.keyHash) with
      | some existing => some (s, afterClassify (classifyExisting existing a.requestFingerprint))
      | none => some (s, .requeryTransaction)
  | .requeryTransaction =>
      match s.view c (.transaction a.transactionId) with
      | some _ => some (s, .commitResult (reservation .transactionIdConflict))
      | none => some (s, .commitUnexplained)
  | .commitResult r => some (s.commit c, .done (.ok r))
  | .commitUnexplained => some (s.commit c, .done (.error unexplainedConflict))
  | .rollback e => some (s.rollback c, .done (.error e))
  | .done _ => none
  | .gone => none

/-! ## `complete` -/

inductive CompletePc
  | updateTransaction
  | updateRecord (now : Timestamp)
  | commit (now : Timestamp)
  | rollback (e : Exc)
  | done (r : Except Exc Unit)
  | gone

/-- The message prints both versions; a number with too many digits for that is a `ValueError`. -/
def versionMismatch (a : CompleteArgs) : Exc :=
  if printable a.transaction.version && printable (a.expectedVersion + 1) then
    .optimisticConcurrency
      (py "Transaction " ++ a.transaction.transactionId ++ py " version " ++
        textOfInt a.transaction.version ++ py " does not match expected next version " ++
        textOfInt (a.expectedVersion + 1) ++ py ".")
  else .foreign (py "ValueError")

def transactionNotUpdated (a : CompleteArgs) : Exc :=
  .optimisticConcurrency
    (py "Transaction update affected 0 rows; expected exactly 1 for transaction_id=" ++
      a.transaction.transactionId ++ py ", version=" ++ textOfInt a.expectedVersion ++ py ".")

def recordNotUpdated (a : CompleteArgs) : Exc :=
  .optimisticConcurrency
    (py "Idempotency record update affected 0 rows; expected exactly 1 for key_hash=" ++
      a.keyHash ++ py ", transaction_id=" ++ a.transaction.transactionId ++
      py ", status=IN_PROGRESS.")

/-- The check `complete` makes before it opens a session. -/
def completeStart (a : CompleteArgs) : CompletePc :=
  if a.transaction.version ≠ a.expectedVersion + 1 then .done (.error (versionMismatch a))
  else .updateTransaction

/-- The `WHERE` clause of the record update, the primary key aside. -/
def recordGuard (a : CompleteArgs) (record : IdempotencyRecord) : Bool :=
  record.transactionId = a.transaction.transactionId &&
    record.processingStatus = py "IN_PROGRESS"

/-- Run the next statement of `complete` in session `c`.  An `UPDATE` whose `WHERE` clause fails on
the visible row touches nothing and never waits; one that matches waits for the row's lock, and the
clause is evaluated again on what is committed by then. -/
def completeStep (s : Server Row ι) (c : ι) (a : CompleteArgs) (now : Timestamp) :
    CompletePc → Option (Server Row ι × CompletePc)
  | .updateTransaction =>
      match transactionUpdate a now with
      | none => some (s, .rollback (transactionUpdateError a))
      | some set =>
          match s.view c (.transaction a.transaction.transactionId) with
          | none => some (s, .rollback (transactionNotUpdated a))
          | some row =>
              if row.version = a.expectedVersion then
                if s.blocked c (.transaction a.transaction.transactionId) then none
                else if (set row).admitted then
                  some (s.write c (.transaction a.transaction.transactionId) (set row),
                    .updateRecord now)
                else some (s, .rollback completionFailed)
              else some (s, .rollback (transactionNotUpdated a))
  | .updateRecord t =>
      match recordUpdate a t with
      | none => some (s, .rollback (recordUpdateError a))
      | some set =>
          match s.view c (.record a.keyHash) with
          | none => some (s, .rollback (recordNotUpdated a))
          | some record =>
              if recordGuard a record then
                if s.blocked c (.record a.keyHash) then none
                else if (set record).admitted then
                  some (s.write c (.record a.keyHash) (set record), .commit t)
                else some (s, .rollback completionFailed)
              else some (s, .rollback (recordNotUpdated a))
  | .commit _ => some (s.commit c, .done (.ok ()))
  | .rollback e => some (s.rollback c, .done (.error e))
  | .done _ => none
  | .gone => none

/-! ## What a statement can do -/

/-- The statements of `reserve` as a relation, with one constructor for each way one can end. -/
inductive ReserveStatement (s : Server Row ι) (c : ι) (a : ReserveArgs) (now : Timestamp) :
    ReservePc → Server Row ι → ReservePc → Prop
  | badKey (htext : pgText a.keyHash ≠ true) :
      ReserveStatement s c a now .select s (.rollback reservationFailed)
  | found (existing : IdempotencyRecord) (hview : s.view c (.record a.keyHash) = some existing) :
      ReserveStatement s c a now .select s
        (afterClassify (classifyExisting existing a.requestFingerprint))
  | absent (hview : s.view c (.record a.keyHash) = none) :
      ReserveStatement s c a now .select s (.insertTransaction now)
  | badTransaction (t : Timestamp) (hinsert : transactionInsert a t = none) :
      ReserveStatement s c a now (.insertTransaction t) s (.rollback (transactionInsertError a))
  | refusedTransaction (t : Timestamp) (row : TransactionRow)
      (hinsert : transactionInsert a t = some row) (hrow : row.admitted ≠ true) :
      ReserveStatement s c a now (.insertTransaction t) s .rollbackConflict
  | usedId (t : Timestamp) (row other : TransactionRow) (hinsert : transactionInsert a t = some row)
      (hview : s.view c (.transaction row.transactionId) = some other) :
      ReserveStatement s c a now (.insertTransaction t) s .rollbackConflict
  | insertedTransaction (t : Timestamp) (row : TransactionRow)
      (hinsert : transactionInsert a t = some row) (hrow : row.admitted = true)
      (hblocked : s.blocked c (.transaction row.transactionId) = false)
      (hview : s.view c (.transaction row.transactionId) = none) :
      ReserveStatement s c a now (.insertTransaction t)
        (s.write c (.transaction row.transactionId) row) (.insertRecord t)
  | badRecord (t : Timestamp) (hinsert : recordInsert a t = none) :
      ReserveStatement s c a now (.insertRecord t) s (.rollback reservationFailed)
  | refusedRecord (t : Timestamp) (record : IdempotencyRecord)
      (hinsert : recordInsert a t = some record) (hrecord : record.admitted ≠ true) :
      ReserveStatement s c a now (.insertRecord t) s .rollbackConflict
  | usedKey (t : Timestamp) (record : IdempotencyRecord) (hinsert : recordInsert a t = some record)
      (hview : (s.view c (.record record.idempotencyKeyHash)).isSome = true ∨
        (s.view c (.transaction record.transactionId)).isNone = true) :
      ReserveStatement s c a now (.insertRecord t) s .rollbackConflict
  | insertedRecord (t : Timestamp) (record : IdempotencyRecord)
      (hinsert : recordInsert a t = some record) (hrecord : record.admitted = true)
      (hblocked : s.blocked c (.record record.idempotencyKeyHash) = false)
      (hview : s.view c (.record record.idempotencyKeyHash) = none) :
      ReserveStatement s c a now (.insertRecord t)
        (s.write c (.record record.idempotencyKeyHash) record) (.commitAcquired t)
  | acquired (t : Timestamp) :
      ReserveStatement s c a now (.commitAcquired t) (s.commit c)
        (.done (.ok (reservation .acquired)))
  | rolledBack : ReserveStatement s c a now .rollbackConflict (s.rollback c) .requery
  | foundAgain (existing : IdempotencyRecord)
      (hview : s.view c (.record a.keyHash) = some existing) :
      ReserveStatement s c a now .requery s
        (afterClassify (classifyExisting existing a.requestFingerprint))
  | absentAgain (hview : s.view c (.record a.keyHash) = none) :
      ReserveStatement s c a now .requery s .requeryTransaction
  | conflict (existing : TransactionRow)
      (hview : s.view c (.transaction a.transactionId) = some existing) :
      ReserveStatement s c a now .requeryTransaction s
        (.commitResult (reservation .transactionIdConflict))
  | noConflict (hview : s.view c (.transaction a.transactionId) = none) :
      ReserveStatement s c a now .requeryTransaction s .commitUnexplained
  | returned (r : IdempotencyReservation) :
      ReserveStatement s c a now (.commitResult r) (s.commit c) (.done (.ok r))
  | unexplained :
      ReserveStatement s c a now .commitUnexplained (s.commit c)
        (.done (.error unexplainedConflict))
  | raised (e : Exc) :
      ReserveStatement s c a now (.rollback e) (s.rollback c) (.done (.error e))

theorem reserveStatement_of_insertTransaction {s s' : Server Row ι} {c : ι} {a : ReserveArgs}
    {now t : Timestamp} {pc' : ReservePc}
    (h : reserveStep s c a now (.insertTransaction t) = some (s', pc')) :
    ReserveStatement s c a now (.insertTransaction t) s' pc' := by
  simp only [reserveStep] at h
  split at h
  · rename_i hinsert
    cases h
    exact .badTransaction t hinsert
  · rename_i row hinsert
    split at h
    · rename_i hrow
      -- a blocked insert is no step; the primary key is checked once it is not
      split at h
      · cases h
      · rename_i hblocked
        split at h
        · rename_i hview
          cases h
          rcases Option.isSome_iff_exists.mp hview with ⟨other, hother⟩
          exact .usedId t row other hinsert hother
        · rename_i hview
          cases h
          exact .insertedTransaction t row hinsert hrow (by simpa using hblocked)
            (by simpa using hview)
    · rename_i hrow
      cases h
      exact .refusedTransaction t row hinsert hrow

theorem reserveStatement_of_insertRecord {s s' : Server Row ι} {c : ι} {a : ReserveArgs}
    {now t : Timestamp} {pc' : ReservePc}
    (h : reserveStep s c a now (.insertRecord t) = some (s', pc')) :
    ReserveStatement s c a now (.insertRecord t) s' pc' := by
  simp only [reserveStep] at h
  split at h
  · rename_i hinsert
    cases h
    exact .badRecord t hinsert
  · rename_i record hinsert
    split at h
    · rename_i hrecord
      -- the primary key and the foreign key
      split at h
      · cases h
      · rename_i hblocked
        split at h
        · rename_i hview
          cases h
          exact .usedKey t record hinsert (Bool.or_eq_true_iff.mp hview)
        · rename_i hview
          cases h
          rw [Bool.or_eq_true, not_or] at hview
          exact .insertedRecord t record hinsert hrecord (by simpa using hblocked)
            (by simpa using hview.1)
    · rename_i hrecord
      cases h
      exact .refusedRecord t record hinsert hrecord

theorem reserveStatement_of_step {s s' : Server Row ι} {c : ι} {a : ReserveArgs} {now : Timestamp}
    {pc pc' : ReservePc} (h : reserveStep s c a now pc = some (s', pc')) :
    ReserveStatement s c a now pc s' pc' := by
  cases pc with
  | select =>
      simp only [reserveStep] at h
      split at h
      · split at h
        · rename_i existing hview
          cases h
          exact .found existing hview
        · rename_i hview
          cases h
          exact .absent hview
      · rename_i htext
        cases h
        exact .badKey htext
  | insertTransaction t =>
      exact reserveStatement_of_insertTransaction h
  | insertRecord t =>
      exact reserveStatement_of_insertRecord h
  | commitAcquired t =>
      cases h
      exact .acquired t
  | rollbackConflict =>
      cases h
      exact .rolledBack
  | requery =>
      simp only [reserveStep] at h
      split at h
      · rename_i existing hview
        cases h
        exact .foundAgain existing hview
      · rename_i hview
        cases h
        exact .absentAgain hview
  | requeryTransaction =>
      simp only [reserveStep] at h
      split at h
      · rename_i existing hview
        cases h
        exact .conflict existing hview
      · rename_i hview
        cases h
        exact .noConflict hview
  | commitResult r =>
      cases h
      exact .returned r
  | commitUnexplained =>
      cases h
      exact .unexplained
  | rollback e =>
      cases h
      exact .raised e
  | done r | gone =>
      cases h

/-- The statements of `complete`, likewise. -/
inductive CompleteStatement (s : Server Row ι) (c : ι) (a : CompleteArgs) (now : Timestamp) :
    CompletePc → Server Row ι → CompletePc → Prop
  | badTransaction (hset : transactionUpdate a now = none) :
      CompleteStatement s c a now .updateTransaction s (.rollback (transactionUpdateError a))
  | missedTransaction (hrow : ∀ row, s.view c (.transaction a.transaction.transactionId) = some row →
        row.version ≠ a.expectedVersion) :
      CompleteStatement s c a now .updateTransaction s (.rollback (transactionNotUpdated a))
  | refusedTransaction (set : TransactionRow → TransactionRow) (row : TransactionRow)
      (hset : transactionUpdate a now = some set)
      (hview : s.view c (.transaction a.transaction.transactionId) = some row)
      (hok : (set row).admitted ≠ true) :
      CompleteStatement s c a now .updateTransaction s (.rollback completionFailed)
  | updatedTransaction (set : TransactionRow → TransactionRow) (row : TransactionRow)
      (hset : transactionUpdate a now = some set)
      (hview : s.view c (.transaction a.transaction.transactionId) = some row)
      (hversion : row.version = a.expectedVersion)
      (hblocked : s.blocked c (.transaction a.transaction.transactionId) = false)
      (hok : (set row).admitted = true) :
      CompleteStatement s c a now .updateTransaction
        (s.write c (.transaction a.transaction.transactionId) (set row)) (.updateRecord now)
  | badRecord (t : Timestamp) (hset : recordUpdate a t = none) :
      CompleteStatement s c a now (.updateRecord t) s (.rollback (recordUpdateError a))
  | missedRecord (t : Timestamp) (hrecord : ∀ record, s.view c (.record a.keyHash) = some record →
        recordGuard a record ≠ true) :
      CompleteStatement s c a now (.updateRecord t) s (.rollback (recordNotUpdated a))
  | refusedRecord (t : Timestamp) (set : IdempotencyRecord → IdempotencyRecord)
      (record : IdempotencyRecord) (hset : recordUpdate a t = some set)
      (hview : s.view c (.record a.keyHash) = some record) (hok : (set record).admitted ≠ true) :
      CompleteStatement s c a now (.updateRecord t) s (.rollback completionFailed)
  | updatedRecord (t : Timestamp) (set : IdempotencyRecord → IdempotencyRecord)
      (record : IdempotencyRecord) (hset : recordUpdate a t = some set)
      (hview : s.view c (.record a.keyHash) = some record) (hguard : recordGuard a record = true)
      (hblocked : s.blocked c (.record a.keyHash) = false) (hok : (set record).admitted = true) :
      CompleteStatement s c a now (.updateRecord t) (s.write c (.record a.keyHash) (set record))
        (.commit t)
  | committed (t : Timestamp) :
      CompleteStatement s c a now (.commit t) (s.commit c) (.done (.ok ()))
  | raised (e : Exc) :
      CompleteStatement s c a now (.rollback e) (s.rollback c) (.done (.error e))

theorem completeStatement_of_step {s s' : Server Row ι} {c : ι} {a : CompleteArgs}
    {now : Timestamp} {pc pc' : CompletePc} (h : completeStep s c a now pc = some (s', pc')) :
    CompleteStatement s c a now pc s' pc' := by
  cases pc with
  | updateTransaction =>
      simp only [completeStep] at h
      split at h
      · rename_i hset
        cases h
        exact .badTransaction hset
      · rename_i set hset
        split at h
        · rename_i hview
          cases h
          exact .missedTransaction (by simp [hview])
        · rename_i row hview
          split at h
          · rename_i hversion
            -- only an update whose `WHERE` clause holds waits
            split at h
            · cases h
            · rename_i hblocked
              split at h
              · rename_i hok
                cases h
                exact .updatedTransaction set row hset hview hversion (by simpa using hblocked) hok
              · rename_i hok
                cases h
                exact .refusedTransaction set row hset hview hok
          · rename_i hversion
            cases h
            exact .missedTransaction (by simpa [hview] using hversion)
  | updateRecord t =>
      simp only [completeStep] at h
      split at h
      · rename_i hset
        cases h
        exact .badRecord t hset
      · rename_i set hset
        split at h
        · rename_i hview
          cases h
          exact .missedRecord t (by simp [hview])
        · rename_i record hview
          split at h
          · rename_i hguard
            split at h
            · cases h
            · rename_i hblocked
              split at h
              · rename_i hok
                cases h
                exact .updatedRecord t set record hset hview hguard (by simpa using hblocked) hok
              · rename_i hok
                cases h
                exact .refusedRecord t set record hset hview hok
          · rename_i hguard
            cases h
            exact .missedRecord t (by simpa [hview] using hguard)
  | commit t =>
      cases h
      exact .committed t
  | rollback e =>
      cases h
      exact .raised e
  | done r =>
      cases h
  | gone =>
      cases h

end Infrastructure
end TransactionPlatform
