import TransactionPlatform.Infrastructure.Atomicity
import TransactionPlatform.Infrastructure.Statements
import TransactionPlatform.Migrations.InitialSchema

/-!
# Execution — the coordinator's calls as clients of the migrated database

A step of the coordination system does two things at once: the server executes a statement, and the
coroutine goes on with the result.  Here the two are apart.  `statement` is what a call sends next,
`resume` is what the code makes of the result, and between them stands the relational server with the
catalogue the migration has left.  Along every run the steps of the model are these exchanges.

`now()` is fixed when a transaction begins, so the later statements of a transaction carry its time.
-/

namespace TransactionPlatform
namespace Infrastructure

open Text Domain Ports Sql Relational ReadCommitted Transition

variable {ι : Type} [DecidableEq ι]

/-! ## Reading a row -/

def rowText (row : Dict Value) (name : PyStr) : Option PyStr :=
  match Dict.get row name with
  | some (some (.text s)) => some s
  | _ => none

def rowInteger (row : Dict Value) (name : PyStr) : Option Int :=
  match Dict.get row name with
  | some (some (.integer n)) => some n
  | _ => none

def rowJson (row : Dict Value) (name : PyStr) : Option Json :=
  match Dict.get row name with
  | some (some (.jsonb j)) => some j
  | _ => none

/-- The string members of an object. -/
def stringMembers : Json → Headers
  | .obj members =>
      members.filterMap fun m =>
        match m.2 with
        | .str s => some (m.1, s)
        | _ => none
  | _ => []

/-- `_classify_existing` on the mapping that a `SELECT` returns. -/
def classifyRow (record : Dict Value) (requestFingerprint : PyStr) :
    Except Exc IdempotencyReservation :=
  let processingStatus := rowText record (py "processing_status")
  if rowText record (py "request_fingerprint") ≠ some requestFingerprint then
    .ok (reservation .idempotencyConflict)
  else if processingStatus = some (py "IN_PROGRESS") then
    .ok (reservation .inProgress)
  else if processingStatus = some (py "COMPLETED") then
    match rowInteger record (py "stored_status_code") with
    | some code =>
        .ok
          { status := .completed
            storedEnvelope :=
              some (storedEnvelope code ((rowJson record (py "stored_response_body")).getD .null)
                ((rowJson record (py "stored_headers")).map stringMembers)) }
    | none => .error (.foreign (py "TypeError"))
  else
    .error (.persistence (py "Unexpected processing_status: " ++ processingStatus.getD (py "None")))

theorem stringMembers_headersJson (headers : Headers) :
    stringMembers (headersJson headers) = headers := by
  simp only [headersJson, stringMembers, List.filterMap_map]
  exact List.filterMap_some

/-- Reading the row by column names gives what the typed record gives. -/
theorem classifyRow_named (record : IdempotencyRecord) (requestFingerprint : PyStr) :
    classifyRow (idempotencyRecordsTable.named record.values) requestFingerprint =
      classifyExisting record requestFingerprint := by
  have hstatus : rowText (idempotencyRecordsTable.named record.values) (py "processing_status") =
      some record.processingStatus := rfl
  have hfingerprint :
      rowText (idempotencyRecordsTable.named record.values) (py "request_fingerprint") =
        some record.requestFingerprint := rfl
  have hcode : rowInteger (idempotencyRecordsTable.named record.values)
      (py "stored_status_code") = record.storedStatusCode := by
    have hget : Dict.get (idempotencyRecordsTable.named record.values) (py "stored_status_code") =
        some (record.storedStatusCode.map .integer) := rfl
    rw [rowInteger, hget]
    cases record.storedStatusCode <;> rfl
  have hbody : rowJson (idempotencyRecordsTable.named record.values)
      (py "stored_response_body") = record.storedResponseBody := by
    have hget : Dict.get (idempotencyRecordsTable.named record.values)
        (py "stored_response_body") = some (record.storedResponseBody.map .jsonb) := rfl
    rw [rowJson, hget]
    cases record.storedResponseBody <;> rfl
  have hheaders : (rowJson (idempotencyRecordsTable.named record.values)
      (py "stored_headers")).map stringMembers = record.storedHeaders := by
    have hget : Dict.get (idempotencyRecordsTable.named record.values) (py "stored_headers") =
        some (headersValue record.storedHeaders) := rfl
    rw [rowJson, hget]
    cases record.storedHeaders with
    | none =>
        rfl
    | some headers =>
        exact congrArg some (stringMembers_headersJson headers)
  simp only [classifyRow, classifyExisting, hstatus, hfingerprint, hcode, hbody, hheaders,
    Option.some.injEq, ne_eq, Option.getD_some]
  cases record.storedStatusCode with
  | none =>
      rfl
  | some code =>
      cases record.storedResponseBody <;> rfl

/-! ## `reserve` -/

def reserveStatement (a : ReserveArgs) : ReservePc → Option Statement
  | .select | .requery => some (selectRecord a)
  | .insertTransaction _ => some (insertTransaction a)
  | .insertRecord _ => some (insertRecord a)
  | .requeryTransaction => some (selectTransaction a)
  | .commitAcquired _ | .commitResult _ | .commitUnexplained => some .commit
  | .rollbackConflict | .rollback _ => some .rollback
  | .done _ | .gone => none

/-- The time of the transaction a statement runs in, when its first statement runs at `now`. -/
def ReservePc.began (now : Timestamp) : ReservePc → Timestamp
  | .insertTransaction t | .insertRecord t | .commitAcquired t => t
  | _ => now

/-- What `reserve` does with the result of its statement.  `IntegrityError` is caught around the two
`INSERT`s; any other error is wrapped, if the driver gets its message together. -/
def reserveResume (a : ReserveArgs) (now : Timestamp) : ReservePc → Result → ReservePc
  | .select, .row (some existing) | .requery, .row (some existing) =>
      afterClassify (classifyRow existing a.requestFingerprint)
  | .select, .row none => .insertTransaction now
  | .requery, .row none => .requeryTransaction
  | .insertTransaction t, .rowcount _ => .insertRecord t
  | .insertTransaction _, .error .integrity | .insertRecord _, .error .integrity =>
      .rollbackConflict
  | .insertRecord t, .rowcount _ => .commitAcquired t
  | .requeryTransaction, .row (some _) => .commitResult (reservation .transactionIdConflict)
  | .requeryTransaction, .row none => .commitUnexplained
  | .commitAcquired _, .ended => .done (.ok (reservation .acquired))
  | .commitResult r, .ended => .done (.ok r)
  | .commitUnexplained, .ended => .done (.error unexplainedConflict)
  | .rollbackConflict, .ended => .requery
  | .rollback e, .ended => .done (.error e)
  | .insertTransaction _, .error .data => .rollback (transactionInsertError a)
  | _, .error _ => .rollback reservationFailed
  | pc, _ => pc

/-- The parameters that earlier statements have bound already. -/
def ReservePc.Bound (a : ReserveArgs) : ReservePc → Prop
  | .insertRecord _ | .rollbackConflict | .requery | .requeryTransaction =>
      pgText a.keyHash = true ∧ pgText a.transactionId = true
  | .insertTransaction _ => pgText a.keyHash = true
  | _ => True

theorem transactionInsert_text {a : ReserveArgs} {now : Timestamp} {row : TransactionRow}
    (h : transactionInsert a now = some row) : pgText a.transactionId = true := by
  by_contra htext
  have hnone : varchar 128 a.transactionId = none := by simp [varchar, htext]
  simp [transactionInsert, hnone] at h

theorem afterClassify_bound (a : ReserveArgs) (r : Except Exc IdempotencyReservation) :
    (afterClassify r).Bound a := by
  cases r <;> exact True.intro

theorem bound_step {s s' : Server Row ι} {c : ι} {a : ReserveArgs} {now : Timestamp}
    {pc pc' : ReservePc} (h : pc.Bound a) (hstep : reserveStep s c a now pc = some (s', pc')) :
    pc'.Bound a := by
  cases reserveStatement_of_step hstep with
  | badKey htext =>
      exact True.intro
  | found existing hview =>
      exact afterClassify_bound a _
  | absent hview =>
      -- the `SELECT` has bound the key
      simp only [reserveStep] at hstep
      split at hstep
      · rename_i htext
        exact htext
      · cases hstep
  | badTransaction t hinsert =>
      exact True.intro
  | refusedTransaction t row hinsert hrow =>
      exact ⟨h, transactionInsert_text hinsert⟩
  | usedId t row other hinsert hview =>
      exact ⟨h, transactionInsert_text hinsert⟩
  | insertedTransaction t row hinsert hrow hblocked hview =>
      exact ⟨h, transactionInsert_text hinsert⟩
  | badRecord t hinsert =>
      exact True.intro
  | refusedRecord t record hinsert hrecord =>
      exact h
  | usedKey t record hinsert hview =>
      exact h
  | insertedRecord t record hinsert hrecord hblocked hview =>
      exact True.intro
  | acquired t =>
      exact True.intro
  | rolledBack =>
      exact h
  | foundAgain existing hview =>
      exact afterClassify_bound a _
  | absentAgain hview =>
      exact h
  | conflict existing hview =>
      exact True.intro
  | noConflict hview =>
      exact True.intro
  | returned r =>
      exact True.intro
  | unexplained =>
      exact True.intro
  | raised e =>
      exact True.intro

/-- The state of an exchange as the model has it. -/
def modelled {P : Type} (next : Server Row ι × P) : Database ι × P :=
  (tableLayout.server next.1, next.2)

section Exchanges

variable {cat : Catalogue ColumnType} {a : ReserveArgs}

/-- The first query and the one after a conflict go on differently when there is no record. -/
theorem selectRecord_exchange (hcat : SchemaDeclared cat) (s : Server Row ι) (c : ι)
    (now : Timestamp) {pc : ReservePc} (hpc : pc = .select ∨ pc = .requery) (hbound : pc.Bound a) :
    (reserveStep s c a now pc).map modelled =
      (execute postgresql cat (tableLayout.server s) c (pc.began now) (selectRecord a)).map
        fun r => (r.1, reserveResume a now pc r.2) := by
  rw [execute_selectRecord hcat]
  rcases hpc with rfl | rfl
  · by_cases htext : pgText a.keyHash = true
    · cases hview : s.view c (.record a.keyHash) with
      | none =>
          simp [reserveStep, htext, hview, modelled, reserveResume]
      | some existing =>
          simp [reserveStep, htext, hview, modelled, reserveResume, classifyRow_named]
    · simp [reserveStep, htext, modelled, reserveResume]
  · rw [hbound.1]
    cases hview : s.view c (.record a.keyHash) with
    | none =>
        simp [reserveStep, hview, modelled, reserveResume]
    | some existing =>
        simp [reserveStep, hview, modelled, reserveResume, classifyRow_named]

theorem selectTransaction_exchange (hcat : SchemaDeclared cat) (s : Server Row ι) (c : ι)
    (now : Timestamp) (htext : pgText a.transactionId = true) :
    (reserveStep s c a now .requeryTransaction).map modelled =
      (execute postgresql cat (tableLayout.server s) c now (selectTransaction a)).map
        fun r => (r.1, reserveResume a now .requeryTransaction r.2) := by
  rw [execute_selectTransaction hcat, htext]
  cases hview : s.view c (.transaction a.transactionId) with
  | none =>
      simp [reserveStep, hview, modelled, reserveResume]
  | some existing =>
      simp [reserveStep, hview, modelled, reserveResume]

theorem insertTransaction_exchange (hcat : SchemaDeclared cat) (s : Server Row ι) (c : ι)
    (now t : Timestamp) :
    (reserveStep s c a now (.insertTransaction t)).map modelled =
      (execute postgresql cat (tableLayout.server s) c t (insertTransaction a)).map
        fun r => (r.1, reserveResume a now (.insertTransaction t) r.2) := by
  rw [execute_insertTransaction hcat]
  simp only [reserveStep]
  cases transactionInsert a t with
  | none =>
      rfl
  | some row =>
      by_cases hadmitted : row.admitted = true
      · by_cases hblocked : s.blocked c (.transaction row.transactionId) = true
        · simp [hadmitted, hblocked]
        · cases hused : (s.view c (.transaction row.transactionId)).isSome with
          | false =>
              simp [hadmitted, hblocked, hused, modelled, reserveResume]
          | true =>
              simp [hadmitted, hblocked, hused, modelled, reserveResume]
      · simp [hadmitted, modelled, reserveResume]

theorem insertRecord_exchange (hcat : SchemaDeclared cat) (s : Server Row ι) (c : ι)
    (now t : Timestamp) :
    (reserveStep s c a now (.insertRecord t)).map modelled =
      (execute postgresql cat (tableLayout.server s) c t (insertRecord a)).map
        fun r => (r.1, reserveResume a now (.insertRecord t) r.2) := by
  rw [execute_insertRecord hcat]
  simp only [reserveStep]
  cases recordInsert a t with
  | none =>
      rfl
  | some record =>
      by_cases hadmitted : record.admitted = true
      · by_cases hblocked : s.blocked c (.record record.idempotencyKeyHash) = true
        · simp [hadmitted, hblocked]
        · cases hrefused : (s.view c (.record record.idempotencyKeyHash)).isSome ||
            (s.view c (.transaction record.transactionId)).isNone with
          | false =>
              simp [hadmitted, hblocked, hrefused, modelled, reserveResume]
          | true =>
              simp [hadmitted, hblocked, hrefused, modelled, reserveResume]
      · simp [hadmitted, modelled, reserveResume]

/-- One step of `reserve` is one exchange with the database: it waits when the server waits, and ends
with the server's new state and what the code makes of the result. -/
theorem reserve_exchange (hcat : SchemaDeclared cat) (s : Server Row ι) (c : ι) (now : Timestamp)
    {pc : ReservePc} (hbound : pc.Bound a) {stmt : Statement}
    (hstmt : reserveStatement a pc = some stmt) :
    (reserveStep s c a now pc).map modelled =
      (execute postgresql cat (tableLayout.server s) c (pc.began now) stmt).map
        fun r => (r.1, reserveResume a now pc r.2) := by
  cases pc with
  | select =>
      cases hstmt
      exact selectRecord_exchange hcat s c now (.inl rfl) hbound
  | insertTransaction t =>
      cases hstmt
      exact insertTransaction_exchange hcat s c now t
  | insertRecord t =>
      cases hstmt
      exact insertRecord_exchange hcat s c now t
  | requery =>
      cases hstmt
      exact selectRecord_exchange hcat s c now (.inr rfl) hbound
  | requeryTransaction =>
      cases hstmt
      exact selectTransaction_exchange hcat s c now hbound.2
  | commitAcquired t | commitResult r | commitUnexplained =>
      cases hstmt
      simp [reserveStep, execute, modelled, reserveResume, tableLayout.server_commit]
  | rollbackConflict | rollback e =>
      cases hstmt
      simp [reserveStep, execute, modelled, reserveResume, tableLayout.server_rollback]
  | done r | gone =>
      cases hstmt

end Exchanges

/-! ## `complete` -/

def completeStatement (a : CompleteArgs) : CompletePc → Option Statement
  | .updateTransaction => some (updateTransaction a)
  | .updateRecord _ => some (updateRecord a)
  | .commit _ => some .commit
  | .rollback _ => some .rollback
  | .done _ | .gone => none

def CompletePc.began (now : Timestamp) : CompletePc → Timestamp
  | .updateRecord t | .commit t => t
  | _ => now

/-- What `complete` does with the result of its statement: each update has to affect one row, and
every database error is wrapped, if the driver gets its message together. -/
def completeResume (a : CompleteArgs) (now : Timestamp) : CompletePc → Result → CompletePc
  | .updateTransaction, .rowcount n =>
      if n ≠ 1 then .rollback (transactionNotUpdated a) else .updateRecord now
  | .updateRecord t, .rowcount n =>
      if n ≠ 1 then .rollback (recordNotUpdated a) else .commit t
  | .commit _, .ended => .done (.ok ())
  | .rollback e, .ended => .done (.error e)
  | .updateTransaction, .error .data => .rollback (transactionUpdateError a)
  | .updateRecord _, .error .data => .rollback (recordUpdateError a)
  | _, .error _ => .rollback completionFailed
  | pc, _ => pc

/-- One step of `complete` is one exchange with the database. -/
theorem complete_exchange {cat : Catalogue ColumnType} (hcat : SchemaDeclared cat) (s : Server Row ι)
    (c : ι) {a : CompleteArgs} (now : Timestamp) {pc : CompletePc} {stmt : Statement}
    (hstmt : completeStatement a pc = some stmt) :
    (completeStep s c a now pc).map modelled =
      (execute postgresql cat (tableLayout.server s) c (pc.began now) stmt).map
        fun r => (r.1, completeResume a now pc r.2) := by
  cases pc with
  | updateTransaction =>
      cases hstmt
      rw [execute_updateTransaction hcat]
      simp only [completeStep, CompletePc.began]
      cases transactionUpdate a now with
      | none =>
          rfl
      | some set =>
          cases s.view c (.transaction a.transaction.transactionId) with
          | none =>
              rfl
          | some row =>
              by_cases hversion : row.version = a.expectedVersion
              · by_cases hblocked : s.blocked c (.transaction a.transaction.transactionId) = true
                · simp [hversion, hblocked]
                · by_cases hadmitted : (set row).admitted = true
                  · simp [hversion, hblocked, hadmitted, modelled, completeResume]
                  · simp [hversion, hblocked, hadmitted, modelled, completeResume]
              · simp [hversion, modelled, completeResume]
  | updateRecord t =>
      cases hstmt
      rw [execute_updateRecord hcat]
      simp only [completeStep, CompletePc.began]
      cases recordUpdate a t with
      | none =>
          rfl
      | some set =>
          cases s.view c (.record a.keyHash) with
          | none =>
              rfl
          | some record =>
              by_cases hguard : recordGuard a record = true
              · by_cases hblocked : s.blocked c (.record a.keyHash) = true
                · simp [hguard, hblocked]
                · by_cases hadmitted : (set record).admitted = true
                  · simp [hguard, hblocked, hadmitted, modelled, completeResume]
                  · simp [hguard, hblocked, hadmitted, modelled, completeResume]
              · simp [hguard, modelled, completeResume]
  | commit t =>
      cases hstmt
      simp [completeStep, execute, modelled, completeResume, tableLayout.server_commit]
  | rollback e =>
      cases hstmt
      simp [completeStep, execute, modelled, completeResume, tableLayout.server_rollback]
  | done r =>
      cases hstmt
  | gone =>
      cases hstmt

/-! ## Calls and runs -/

namespace CallState

/-- What a call sends next. -/
def statement : CallState → Option Statement
  | .idle => none
  | .reserve a pc => reserveStatement a pc
  | .complete a pc => completeStatement a pc

def began (now : Timestamp) : CallState → Timestamp
  | .idle => now
  | .reserve _ pc => pc.began now
  | .complete _ pc => pc.began now

def resume (now : Timestamp) (r : Result) : CallState → CallState
  | .idle => .idle
  | .reserve a pc => .reserve a (reserveResume a now pc r)
  | .complete a pc => .complete a (completeResume a now pc r)

def Bound : CallState → Prop
  | .reserve a pc => pc.Bound a
  | _ => True

end CallState

namespace Coordination

/-- The step of a call: an exchange with the database, if the call has something to send. -/
def Exchanges (cat : Catalogue ColumnType) (s : Coordination ι) (c : ι) (now : Timestamp) : Prop :=
  match (s.call c).statement with
  | some stmt =>
      (s.stepCall c now).map (fun s' => (tableLayout.server s'.server, s'.call c)) =
        (execute postgresql cat (tableLayout.server s.server) c ((s.call c).began now) stmt).map
          fun r => (r.1, (s.call c).resume now r.2)
  | none => s.stepCall c now = none

theorem exchanges {cat : Catalogue ColumnType} (hcat : SchemaDeclared cat) {s : Coordination ι} {c : ι}
    (hbound : (s.call c).Bound) (now : Timestamp) : s.Exchanges cat c now := by
  unfold Exchanges
  cases hcall : s.call c with
  | idle =>
      simp [CallState.statement, stepCall, hcall]
  | reserve a pc =>
      rw [hcall] at hbound
      cases hstmt : reserveStatement a pc with
      | none =>
          have hstuck : reserveStep s.server c a now pc = none := by
            cases pc <;> first | rfl | cases hstmt
          simp [CallState.statement, hstmt, stepCall, hcall, hstuck]
      | some stmt =>
          have hstep : (s.stepCall c now).map (fun s' => (tableLayout.server s'.server, s'.call c)) =
              ((reserveStep s.server c a now pc).map modelled).map
                fun r => (r.1, CallState.reserve a r.2) := by
            simp only [stepCall, hcall]
            cases reserveStep s.server c a now pc <;> simp [modelled, setCall]
          simp only [CallState.statement, hstmt]
          rw [hstep, reserve_exchange hcat s.server c now hbound hstmt, Option.map_map]
          rfl
  | complete a pc =>
      cases hstmt : completeStatement a pc with
      | none =>
          have hstuck : completeStep s.server c a now pc = none := by
            cases pc <;> first | rfl | cases hstmt
          simp [CallState.statement, hstmt, stepCall, hcall, hstuck]
      | some stmt =>
          have hstep : (s.stepCall c now).map (fun s' => (tableLayout.server s'.server, s'.call c)) =
              ((completeStep s.server c a now pc).map modelled).map
                fun r => (r.1, CallState.complete a r.2) := by
            simp only [stepCall, hcall]
            cases completeStep s.server c a now pc <;> simp [modelled, setCall]
          simp only [CallState.statement, hstmt]
          rw [hstep, complete_exchange hcat s.server c now hstmt, Option.map_map]
          rfl

/-! ### What has been bound stays bound -/

theorem reserveFail_bound {a : ReserveArgs} {e : Exc} {pc pc' : ReservePc} {o : Orphan}
    (h : reserveFail e pc = some (pc', o)) : pc'.Bound a := by
  unfold reserveFail at h
  split at h <;> cases h <;> exact True.intro

theorem bound_of_step {s s' : Coordination ι} {e : CoordinatorEvent ι}
    (h : ∀ c, (s.call c).Bound) (hstep : s.step e = some s') (c : ι) : (s'.call c).Bound := by
  cases hcall : s'.call c with
  | idle =>
      exact True.intro
  | complete a pc =>
      exact True.intro
  | reserve a pc =>
      change pc.Bound a
      cases reserveOrigin_of_step hstep hcall with
      | kept hkept =>
          have hbefore := h c
          rw [hkept] at hbefore
          exact hbefore
      | started hidle hpc =>
          rw [hpc]
          exact True.intro
      | statement now before he hbefore hs =>
          have hbound := h c
          rw [hbefore] at hbound
          exact bound_step hbound hs
      | fault fault before o he hbefore hfail =>
          exact reserveFail_bound hfail
      | killed he hpc =>
          rw [hpc]
          exact True.intro

theorem bound_of_reachable {T : Tables} {s : Coordination ι}
    (hreach : Reachable Coordination.step (init T) s) (c : ι) : (s.call c).Bound := by
  have hall : ∀ c, (s.call c).Bound :=
    hreach.invariant (I := fun m => ∀ c, (m.call c).Bound)
      (fun _ _ _ h hstep => bound_of_step h hstep) (fun _ => True.intro)
  exact hall c

/-! ### The server's side of a run -/

/-- A step of a call is served by the database. -/
theorem served_of_stepCall {cat : Catalogue ColumnType} (hcat : SchemaDeclared cat)
    {s s' : Coordination ι} {c : ι} (hbound : (s.call c).Bound) {now : Timestamp}
    (hstep : s.stepCall c now = some s') :
    Reachable (serve postgresql cat) (tableLayout.server s.server) (tableLayout.server s'.server) := by
  have hexchange := exchanges hcat hbound now
  unfold Exchanges at hexchange
  split at hexchange
  · rename_i stmt hstmt
    rw [hstep, Option.map_some] at hexchange
    rcases Option.map_eq_some_iff.mp hexchange.symm with ⟨r, hexec, hr⟩
    refine (Reachable.refl _).next (e := ⟨c, (s.call c).began now, stmt⟩) ?_
    simp only [serve, hexec, Option.map_some]
    exact congrArg (fun pair : Database ι × CallState => some pair.1) hr
  · rw [hstep] at hexchange
    cases hexchange

theorem served_of_step {cat : Catalogue ColumnType} (hcat : SchemaDeclared cat) {s s' : Coordination ι}
    {e : CoordinatorEvent ι} (hbound : ∀ c, (s.call c).Bound) (hstep : s.step e = some s') :
    Reachable (serve postgresql cat) (tableLayout.server s.server) (tableLayout.server s'.server) := by
  cases transition_of_step hstep with
  | reserve c now a pc pc' server hcall hs =>
      exact served_of_stepCall hcat (hbound c) hstep
  | complete c now a pc pc' server hcall hs =>
      exact served_of_stepCall hcat (hbound c) hstep
  | land c now call horphan hcall =>
      refine (Reachable.refl _).next (e := ⟨c, now, .commit⟩) ?_
      simp [serve, execute, tableLayout.server_commit]
  | reap c horphan =>
      refine (Reachable.refl _).next (e := ⟨c, 0, .rollback⟩) ?_
      simp [serve, execute, tableLayout.server_rollback]
  | start c call hcall =>
      exact Reachable.refl _
  | reserveFail c fault a pc pc' o hcall hfail =>
      exact Reachable.refl _
  | completeFail c fault a pc pc' o hcall hfail =>
      exact Reachable.refl _
  | reserveKill c a pc o hcall hkill =>
      exact Reachable.refl _
  | completeKill c a pc o hcall hkill =>
      exact Reachable.refl _

/-- The server of a run is a server the database can come to. -/
theorem served_of_reachable {cat : Catalogue ColumnType} (hcat : SchemaDeclared cat) {T : Tables}
    {s : Coordination ι} (hreach : Reachable Coordination.step (init T) s) :
    Reachable (serve postgresql cat) (Server.fresh (tableLayout.store T))
      (tableLayout.server s.server) := by
  have hboth : (∀ c, (s.call c).Bound) ∧
      Reachable (serve postgresql cat) (Server.fresh (tableLayout.store T))
        (tableLayout.server s.server) := by
    refine hreach.invariant (I := fun m => (∀ c, (m.call c).Bound) ∧
      Reachable (serve postgresql cat) (Server.fresh (tableLayout.store T))
        (tableLayout.server m.server)) ?_ ?_
    · intro m e m' h hstep
      exact ⟨bound_of_step h.1 hstep, h.2.trans (served_of_step hcat h.1 hstep)⟩
    · refine ⟨fun _ => True.intro, ?_⟩
      rw [← tableLayout.server_fresh]
      exact Reachable.refl _
  exact hboth.2

end Coordination

/-! ## The migrated database -/

/-- The migration leaves the two tables as declared, in a sound catalogue. -/
theorem declared_of_upgrade {base cat : Catalogue ColumnType}
    (hbase : Reachable Catalogue.apply Catalogue.empty base)
    (hmigrated : exec Catalogue.apply base Migrations.upgrade = some cat) :
    SchemaDeclared cat ∧ cat.Sound := by
  have hsound : cat.Sound := Catalogue.sound_of_reachable (hbase.trans ⟨_, hmigrated⟩)
  rcases Migrations.upgrade_appends hmigrated with ⟨hdisjoint, heq⟩
  rw [heq]
  refine ⟨⟨?_, ?_⟩, heq ▸ hsound⟩
  · exact Catalogue.table_append hdisjoint rfl
  · exact Catalogue.table_append hdisjoint rfl

/-- On a stored row every check is true, none unknown. -/
theorem checks_true_of_valid {cat : Catalogue ColumnType} (hcat : SchemaDeclared cat) {view : Rows}
    {T : Tables} {k : RelKey} {row : SqlRow} {t : Table ColumnType}
    (hrow : tableLayout.store T k = some row) (hvalid : RowValid postgresql cat view k row t) :
    ∀ check ∈ t.checks, check.expr.eval (t.named row) = .ok (some (.boolean true)) := by
  rcases tableLayout.store_eq_some hrow with ⟨pk, typed, rfl, _, rfl⟩
  have hchecked := hvalid.conforms.admitted
  cases pk with
  | transaction id =>
      have ht : t = transactionsTable :=
        Option.some.inj (hvalid.table.symm.trans hcat.transactions)
      subst ht
      have hrowAdmitted : TransactionRow.admitted typed = true := by
        by_contra hnot
        have hrefused := checkRow_transaction typed
        rw [if_neg hnot] at hrefused
        cases hchecked.symm.trans hrefused
      exact transactionChecks_true hrowAdmitted
  | record keyHash =>
      have ht : t = idempotencyRecordsTable :=
        Option.some.inj (hvalid.table.symm.trans hcat.records)
      subst ht
      have hrowAdmitted : IdempotencyRecord.admitted typed = true := by
        by_contra hnot
        have hrefused := checkRow_record typed
        rw [if_neg hnot] at hrefused
        cases hchecked.symm.trans hrefused
      exact recordChecks_true hrowAdmitted

/-- `reserve` and `complete` on the migrated database.  Whatever the database held before the
migration, along every run of any number of calls, with failing statements, cancellations, crashes and
lost acknowledgements: the server comes only to states that SQL statements lead to; the step of each
call is the exchange of its next statement for the database's result; and every stored row stands
under its primary key, has the declared types, meets its foreign key, and makes every check true. -/
theorem calls_run_on_migrated_database {base cat : Catalogue ColumnType}
    (hbase : Reachable Catalogue.apply Catalogue.empty base)
    (hmigrated : exec Catalogue.apply base Migrations.upgrade = some cat) {T : Tables}
    (hT : Valid postgresql cat (Server.fresh (tableLayout.store T) : Database ι))
    (es : List (CoordinatorEvent ι)) {s : Coordination ι}
    (hrun : exec Coordination.step (Coordination.init T) es = some s) :
    Reachable (serve postgresql cat) (Server.fresh (tableLayout.store T))
        (tableLayout.server s.server) ∧
      (∀ c now, s.Exchanges cat c now) ∧
      ∀ k row, tableLayout.store s.tables k = some row →
        ∃ t, RowValid postgresql cat (tableLayout.store s.tables) k row t ∧
          ∀ check ∈ t.checks, check.expr.eval (t.named row) = .ok (some (.boolean true)) := by
  rcases declared_of_upgrade hbase hmigrated with ⟨hcat, hsound⟩
  have hreach : Reachable Coordination.step (Coordination.init T) s := ⟨es, hrun⟩
  have hserved := Coordination.served_of_reachable hcat hreach
  refine ⟨hserved, ?_, ?_⟩
  · intro c now
    exact Coordination.exchanges hcat (Coordination.bound_of_reachable hreach c) now
  · intro k row hrow
    have hvalid := valid_of_reachable hsound hT hserved
    rcases hvalid.committed k row hrow with ⟨t, ht⟩
    exact ⟨t, ht, checks_true_of_valid hcat hrow ht⟩

/-- A reservation on an empty database. -/
theorem calls_run_on_migrated_database_reserve :
    let a : ReserveArgs :=
      { keyHash := List.replicate 64 0x61
        requestFingerprint := List.replicate 64 0x62
        transactionId := py "txn_1"
        merchantId := py "m_1"
        amount := 100
        currency := py "USD" }
    ∃ (s : Coordination Nat) (row : SqlRow) (t : Table ColumnType),
      exec Coordination.step (Coordination.init emptyTables)
        [.start 0 (.reserve a), .step 0 1, .step 0 1, .step 0 1, .step 0 1] = some s ∧
      tableLayout.store s.tables (py "transactions", py "txn_1") = some row ∧
      RowValid postgresql metadata (tableLayout.store s.tables) (py "transactions", py "txn_1") row
        t := by
  intro a
  have hany : (exec Coordination.step (Coordination.init emptyTables)
      [.start 0 (.reserve a), .step 0 1, .step 0 1, .step 0 1, .step 0 1]).any
      (fun s : Coordination Nat => (s.tables (.transaction (py "txn_1"))).isSome) = true := by
    decide +kernel
  rcases (Option.any_eq_true _ _).mp hany with ⟨s, hrun, hsome⟩
  rcases Option.isSome_iff_exists.mp hsome with ⟨row, hrow⟩
  have hempty : Valid postgresql metadata
      (Server.fresh (tableLayout.store emptyTables) : Database Nat) := by
    apply valid_fresh
    intro k v hv
    rcases tableLayout.store_eq_some hv with ⟨pk, typed, _, htyped, _⟩
    cases htyped
  have hstored : tableLayout.store s.tables (py "transactions", py "txn_1") =
      some (TransactionRow.values row) := by
    rw [← tableLayout_place_transaction, tableLayout.store_place, hrow]
    rfl
  rcases calls_run_on_migrated_database ⟨[], rfl⟩ Migrations.upgrade_empty hempty _ hrun with
    ⟨_, _, hrows⟩
  rcases hrows _ _ hstored with ⟨t, ht, _⟩
  exact ⟨s, TransactionRow.values row, t, hrun, hstored, ht⟩

end Infrastructure
end TransactionPlatform
