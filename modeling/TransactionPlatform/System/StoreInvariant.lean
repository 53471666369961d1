import TransactionPlatform.System.Reservable

/-!
# StoreInvariant — the two tables and the payment network agree

The row of a transaction, the answer stored for its key and the call of the payment network come
from different modules and are committed in two separate transactions.  Along every run from empty
tables, with crashes and faults at any step, they tell the same story.
-/

namespace TransactionPlatform
namespace System

open Text Domain Ports Common Application Adapters Api Infrastructure ReadCommitted Transition

/-! ## What the tables say -/

/-- How a completed record and its transaction fit together. -/
inductive CompletedAs (row : TransactionRow) (record : IdempotencyRecord) : Prop
  | authorized (networkReference authorizationCode : PyStr) (body : Json)
      (hstatus : row.status = py "AUTHORIZED") (hpending : row.pendingOperation = none)
      (hnet : row.networkReference = some networkReference)
      (hauth : row.authorizationCode = some authorizationCode) (hdecline : row.declineCode = none)
      (hcode : record.storedStatusCode = some 201) (hbody : record.storedResponseBody = some body)
      (hbodyId : body.member (py "transaction_id") = some (.str row.transactionId))
      (hbodyStatus : body.member (py "status") = some (.str row.status))
      (hbodyVersion : body.member (py "version") = some (.int row.version))
      (hbodyNet : body.member (py "network_reference") = some (.str networkReference))
      (hbodyAuth : body.member (py "authorization_code") = some (.str authorizationCode))
  | declined (declineCode : PyStr) (body : Json)
      (hstatus : row.status = py "DECLINED") (hpending : row.pendingOperation = none)
      (hnet : row.networkReference = none) (hauth : row.authorizationCode = none)
      (hdecline : row.declineCode = some declineCode)
      (hcode : record.storedStatusCode = some 201) (hbody : record.storedResponseBody = some body)
      (hbodyId : body.member (py "transaction_id") = some (.str row.transactionId))
      (hbodyStatus : body.member (py "status") = some (.str row.status))
      (hbodyVersion : body.member (py "version") = some (.int row.version))
      (hbodyDecline : body.member (py "decline_code") = some (.str declineCode))
  | pending (body : Json)
      (hstatus : row.status = py "PENDING_RECONCILIATION")
      (hpending : row.pendingOperation = some (py "AUTHORIZATION"))
      (hcode : record.storedStatusCode = some 202) (hbody : record.storedResponseBody = some body)
      (hbodyId : body.member (py "transaction_id") = some (.str row.transactionId))
      (hbodyStatus : body.member (py "status") = some (.str row.status))
      (hbodyVersion : body.member (py "version") = some (.int row.version))
  | failed (code : Int) (body : Json)
      (hstatus : row.status = py "FAILED") (hpending : row.pendingOperation = none)
      (hcodes : code = 502 ∨ code = 503)
      (hcode : record.storedStatusCode = some code) (hbody : record.storedResponseBody = some body)
      (hbodyStatus : body.member (py "status") = some (.int code))

/-- The agreement of the two tables with each other and with the calls of the payment network. -/
structure StoreInvariant (T : Tables) (sent : List (Nat × PaymentNetworkAuthorizationRequest)) :
    Prop where
  schema : SchemaOk T
  record_row : ∀ keyHash (record : IdempotencyRecord), T (.record keyHash) = some record →
    ∃ row : TransactionRow, T (.transaction record.transactionId) = some row
  row_record : ∀ id (row : TransactionRow), T (.transaction id) = some row →
    ∃! keyHash, ∃ record : IdempotencyRecord,
      T (.record keyHash) = some record ∧ record.transactionId = id
  in_progress : ∀ keyHash (record : IdempotencyRecord) (row : TransactionRow),
    T (.record keyHash) = some record → T (.transaction record.transactionId) = some row →
    record.processingStatus = py "IN_PROGRESS" →
    row.status = py "CREATED" ∧ row.version = 0 ∧ row.pendingOperation = none ∧
      row.networkReference = none ∧ row.authorizationCode = none ∧ row.declineCode = none
  completed : ∀ keyHash (record : IdempotencyRecord) (row : TransactionRow),
    T (.record keyHash) = some record → T (.transaction record.transactionId) = some row →
    record.processingStatus = py "COMPLETED" → row.version = 1 ∧ CompletedAs row record
  retry_after : ∀ keyHash (record : IdempotencyRecord), T (.record keyHash) = some record →
    ((∃ value, record.storedHeaders = some [(py "Retry-After", value)]) ↔
        record.storedStatusCode = some 503) ∧
      (record.storedStatusCode ≠ some 503 → record.storedHeaders = none)
  sent_row : ∀ p ∈ sent, ∃ row : TransactionRow, T (.transaction p.2.transactionId) = some row ∧
    row.merchantId = p.2.merchantId ∧ row.amount = p.2.amount ∧ row.currency = p.2.currency

/-! ## Values of admitted commands -/

/-- A currency of the admitted format is stored as it is: the newline that Python's `$` lets through
is no space, and so a data error. -/
theorem varchar_currency {s t : PyStr} (hformat : matchRepeat upperLetter 3 3 s = true)
    (h : varchar 3 s = some t) : t = s := by
  rw [(varchar_currency_validated hformat).1] at h
  split at h
  · cases h
  · exact (Option.some.inj h).symm

/-- What a reservation of an admitted command stores in its row. -/
theorem transactionInsert_admitted {acceptsStr : PyStr → Bool} {request : Request}
    (hadmitted : Admitted acceptsStr request.command) {a : ReserveArgs}
    (hargs : request.reserveArgs = .ok a) {row : TransactionRow}
    (hmerchant : varchar 128 a.merchantId = some row.merchantId) (hamount : row.amount = a.amount)
    (hcurrency : varchar 3 a.currency = some row.currency) :
    row.merchantId = request.command.merchantId ∧ row.amount = request.command.amount ∧
      row.currency = request.command.currency := by
  rcases reserveArgs_ok hargs with ⟨_, _, _, hmerchantArgs, hamountArgs, hcurrencyArgs⟩
  have hlength : request.command.merchantId.length ≤ 128 := hadmitted.valid.merchantId_length
  have hformat : matchRepeat upperLetter 3 3 request.command.currency = true :=
    hadmitted.valid.currency_format
  rw [hmerchantArgs] at hmerchant
  rw [hcurrencyArgs] at hcurrency
  exact ⟨varchar_fits hmerchant hlength, hamount.trans hamountArgs,
    varchar_currency hformat hcurrency⟩

/-- A stripped text that was stored was stored as it is. -/
theorem varcharOpt_stripped {s : PyStr} (hs : strip s = s) {column : Option PyStr}
    (h : varcharOpt 128 (some s) = some column) : column = some s := by
  simp only [varcharOpt, varchar_stripped hs] at h
  split at h
  · simpa using h.symm
  · cases h

namespace Requests

variable {requests : Nat → Request}

/-! ## The outcome behind a completed record -/

/-- Every `complete` was called for an outcome that `P` allows its request. -/
def CompletedFrom (requests : Nat → Request) (P : Nat → PortOutcome → Prop) (s : Requests) : Prop :=
  ∀ r a, (s.calls.call (.complete r)).call = some (.complete a) →
    ∃ keyHash o, P r o ∧ completion (requests r).command keyHash o = .ok a

theorem step_completedFrom {P : Nat → PortOutcome → Prop} {s s' : Requests} {e : Event}
    (he : ∀ r o, e = .respond r o → P r o) (hstep : s.step requests e = some s')
    (h : CompletedFrom requests P s) : CompletedFrom requests P s' := by
  intro r a hargs'
  cases transition_of_step hstep with
  | respond r₀ keyHash outcome a₀ calls hphase hargs hstart =>
      by_cases hr : r = r₀
      · subst hr
        -- the only event that gives a `complete` its arguments
        have hstarted := (CallArguments.of_start hstart).2
        cases hstarted.symm.trans hargs'
        exact ⟨keyHash, outcome, he r outcome rfl, hargs⟩
      · have hsame := CallArguments.of_step hstart (c := .complete r)
          (by simpa using fun heq => absurd heq.symm hr)
        exact h r a (hsame.symm.trans hargs')
  | arrive r₀ a₀ calls _ _ hstart =>
      have hsame := CallArguments.of_step hstart (c := .complete r) (by simp)
      exact h r a (hsame.symm.trans hargs')
  | database e calls hcalls =>
      have hsame := CallArguments.of_step hcalls (c := .complete r) (ne_start e _)
      exact h r a (hsame.symm.trans hargs')
  | crash r₀ calls _ hcalls =>
      rcases hcalls with hsame | ⟨c, _, hkill⟩
      · rw [hsame] at hargs'
        exact h r a hargs'
      · have hsame := CallArguments.of_step hkill (c := .complete r) (by simp)
        exact h r a (hsame.symm.trans hargs')
  | _ =>
      exact h r a hargs'

/-- Every `complete` was called for an outcome with stripped texts. -/
def FromTrimmed (requests : Nat → Request) (s : Requests) : Prop :=
  ∀ r a, (s.calls.call (.complete r)).call = some (.complete a) →
    ∃ keyHash o, Trimmed o ∧ completion (requests r).command keyHash o = .ok a

theorem step_fromTrimmed {s s' : Requests} {e : Event}
    (he : ∀ r o, e = .respond r o → Trimmed o) (hstep : s.step requests e = some s')
    (h : FromTrimmed requests s) : FromTrimmed requests s' :=
  step_completedFrom he hstep h

theorem fromTrimmed_of_run {T : Tables} {es : List Event}
    (htrimmed : ∀ r o, .respond r o ∈ es → Trimmed o) {s : Requests}
    (hrun : exec (Requests.step requests) (init T) es = some s) : FromTrimmed requests s := by
  refine exec_invariant_of (I := FromTrimmed requests)
    (A := fun e => ∀ r o, e = .respond r o → Trimmed o) ?_ ?_ ?_ hrun
  · intro m e m' hm he hstep
    exact step_fromTrimmed he hstep hm
  · intro r a hargs
    cases hargs
  · rintro e he r o rfl
    exact htrimmed r o he

/-- The rows a committed `complete` has left fit together. -/
theorem completedAs_of_records {T : Tables} (hschema : SchemaOk T) {id keyHash : PyStr}
    {o : PortOutcome} (htrimmed : Trimmed o) {a : CompleteArgs}
    (ha : settlement id keyHash o = .ok a) {reserved : ReserveArgs} {row : TransactionRow}
    {record : IdempotencyRecord} (h : Records T reserved a row record) :
    row.version = 1 ∧ CompletedAs row record := by
  rcases settlement_ok ha with ⟨_, hid, hversion, _⟩
  have hrowId : row.transactionId = id := by
    rw [← hid]
    exact (hschema.transaction_ok _ _ h.row_eq).1
  have hone : row.version = 1 := h.version.trans hversion
  refine ⟨hone, ?_⟩
  -- the ambiguous outcomes all lead to the same arguments
  have hpending : a = ambiguousArgs id keyHash → CompletedAs row record := by
    rintro rfl
    refine .pending _ h.status h.pendingOperation h.code h.body ?_ ?_ ?_
    · rw [hrowId]
      rfl
    · rw [h.status]
      rfl
    · rw [hone]
      rfl
  cases o with
  | authorized n c =>
      cases ha
      have hnet := varcharOpt_stripped htrimmed.1 h.networkReference
      have hauth := varcharOpt_stripped htrimmed.2 h.authorizationCode
      refine .authorized n c _ h.status h.pendingOperation hnet hauth
        (Option.some.inj h.declineCode).symm h.code h.body ?_ ?_ ?_ rfl rfl
      · rw [hrowId]
        rfl
      · rw [h.status]
        rfl
      · rw [hone]
        rfl
  | declined d =>
      cases ha
      have hdecline := varcharOpt_stripped htrimmed h.declineCode
      refine .declined d _ h.status h.pendingOperation (Option.some.inj h.networkReference).symm
        (Option.some.inj h.authorizationCode).symm hdecline h.code h.body ?_ ?_ ?_ rfl
      · rw [hrowId]
        rfl
      · rw [h.status]
        rfl
      · rw [hone]
        rfl
  | unrecognized =>
      cases ha
      exact hpending rfl
  | escaped e =>
      cases ha
  | raised e =>
      cases e with
      | rateLimit n =>
          rcases settlement_rateLimit ha with ⟨_, rfl⟩
          exact .failed 503 _ h.status h.pendingOperation (.inr rfl) h.code h.body rfl
      | rejected message =>
          cases ha
          exact .failed 502 _ h.status h.pendingOperation (.inl rfl) h.code h.body rfl
      | _ =>
          cases ha
          exact hpending rfl

/-! ## The owner of a row -/

/-- The two rows of a request's reservation, as the tables hold them. -/
structure Pair (T : Tables) (request : Request) (a : ReserveArgs) (row : TransactionRow)
    (record : IdempotencyRecord) : Prop where
  row_eq : T (.transaction request.command.transactionId) = some row
  record_eq : T (.record a.keyHash) = some record
  linked : record.transactionId = request.command.transactionId
  values : row.merchantId = request.command.merchantId ∧ row.amount = request.command.amount ∧
    row.currency = request.command.currency

/-- The two states such a pair can be in. -/
inductive PairState (row : TransactionRow) (record : IdempotencyRecord) : Prop
  | fresh (hprogress : record.processingStatus = py "IN_PROGRESS")
      (hrow : row.status = py "CREATED" ∧ row.version = 0 ∧ row.pendingOperation = none ∧
        row.networkReference = none ∧ row.authorizationCode = none ∧ row.declineCode = none)
      (hcode : record.storedStatusCode = none) (hheaders : record.storedHeaders = none)
  | done (hcompleted : record.processingStatus = py "COMPLETED")
      (hrow : row.version = 1 ∧ CompletedAs row record) (envelope : ResponseEnvelope)
      (hstored : StoredAnswer envelope) (hcode : record.storedStatusCode = some envelope.statusCode)
      (hheaders : record.storedHeaders = persistedHeaders envelope.headers)

/-- Where the two rows of a reservation stand: as they were inserted, or as a `complete` for an
outcome has left them. -/
inductive Standing (P : PortOutcome → Prop) (T : Tables) (id : PyStr) (reserved : ReserveArgs)
    (row : TransactionRow) (record : IdempotencyRecord) : Prop
  | fresh (hprogress : record.processingStatus = py "IN_PROGRESS")
      (hrow : row.status = py "CREATED" ∧ row.version = 0 ∧ row.pendingOperation = none ∧
        row.networkReference = none ∧ row.authorizationCode = none ∧ row.declineCode = none)
      (hcode : record.storedStatusCode = none) (hheaders : record.storedHeaders = none)
  | completed (keyHash : PyStr) (o : PortOutcome) (args : CompleteArgs) (ho : P o)
      (hsettled : settlement id keyHash o = .ok args)
      (hrecords : Records T reserved args row record)

section Pairs

variable {s : Requests} (hreach : Reachable (Requests.step requests) (init emptyTables) s)
  {acceptsStr : PyStr → Bool} (hadmitted : ∀ r, Admitted acceptsStr (requests r).command)

include hreach hadmitted in
/-- The rows of a committed reservation are those of its request, and have been completed at most
for an outcome of that request. -/
theorem standing_of_logged {P : Nat → PortOutcome → Prop} (hfrom : CompletedFrom requests P s)
    {r : Nat} {a : ReserveArgs} {now : Timestamp} (hargs : (requests r).reserveArgs = .ok a)
    (hlogged : ⟨.reserve r, .reserve a, now⟩ ∈ s.calls.log) :
    ∃ row record, Pair s.tables (requests r) a row record ∧
      Standing (P r) s.tables (requests r).command.transactionId a row record := by
  rcases (Coordination.reservationsInv_of_reachable (calls_reachable hreach)).rows _ hlogged a rfl
    with ⟨row, record, _, heq, hrow, hrecord⟩
  cases heq
  have hid : row.transactionId = (requests r).command.transactionId :=
    transactionInsert_id (hadmitted r) hargs hrow
  cases (contents_of_reachable hreach).owned r a now row record hlogged hrow hrecord with
  | fresh hopen hrowT hrecordT =>
      rcases transactionInsert_fields hrow with
        ⟨_, hmerchant, hamount, hcurrency, hstatus, hpending, hversion, hnet, hauth, hdecline⟩
      rcases recordInsert_fields hrecord with ⟨_, _, _, hprogress, hcode, _, hheaders⟩
      refine ⟨row, record, ?_, .fresh hprogress ⟨hstatus, hversion, hpending, hnet, hauth, hdecline⟩
        hcode hheaders⟩
      exact
        { row_eq := hid ▸ hrowT
          record_eq := recordInsert_keyHash hargs hrecord ▸ hrecordT
          linked := (recordInsert_transactionId hrow hrecord).trans hid
          values := transactionInsert_admitted (hadmitted r) hargs hmerchant hamount hcurrency }
  | completed args now' _ _ hlogged' =>
      rcases records_of_logged hreach (hadmitted r) hlogged' with
        ⟨reserved, row', record', hacquired, hrecords⟩
      cases hargs.symm.trans hacquired.1
      -- the arguments of the `complete` are those of an outcome of the request
      have hentry := (Coordination.logInv_of_reachable (calls_reachable hreach)).entry _ hlogged'
      rcases hfrom r args hentry.1 with ⟨keyHash, o, ho, hcompletion⟩
      have hsettled := (completion_ok hcompletion).2
      have hidArgs := (settlement_ok hsettled).2.1
      have hkeyArgs := (completing_of_call hreach hentry.1).keyHash hargs
      refine ⟨row', record', ?_, .completed keyHash o args ho hsettled hrecords⟩
      exact
        { row_eq := hidArgs ▸ hrecords.row_eq
          record_eq := hkeyArgs ▸ hrecords.record_eq
          linked := hrecords.linked.trans hidArgs
          values := transactionInsert_admitted (hadmitted r) hargs hrecords.merchantId
            hrecords.amount hrecords.currency }

variable (hfrom : FromTrimmed requests s)

include hreach hadmitted hfrom in
theorem pair_of_logged {r : Nat} {a : ReserveArgs} {now : Timestamp}
    (hargs : (requests r).reserveArgs = .ok a)
    (hlogged : ⟨.reserve r, .reserve a, now⟩ ∈ s.calls.log) :
    ∃ row record, Pair s.tables (requests r) a row record ∧ PairState row record := by
  have hschema := Coordination.schemaOk_of_reachable schemaOk_empty (calls_reachable hreach)
  rcases standing_of_logged hreach hadmitted hfrom hargs hlogged with ⟨row, record, hpair, hstanding⟩
  refine ⟨row, record, hpair, ?_⟩
  cases hstanding with
  | fresh hprogress hrow hcode hheaders =>
      exact .fresh hprogress hrow hcode hheaders
  | completed keyHash o args ho hsettled hrecords =>
      exact .done hrecords.completed (completedAs_of_records hschema ho hsettled hrecords)
        args.envelope (settlement_stored hsettled) hrecords.code hrecords.headers

/-- A reservation in the log belongs to a request. -/
theorem owner_of_inserts {T : Tables} {s : Requests}
    (hreach : Reachable (Requests.step requests) (init T) s) {e : Commit CallId}
    (he : e ∈ s.calls.log) {row : TransactionRow} {record : IdempotencyRecord}
    (h : Coordination.Inserts e row record) :
    ∃ r a, e = ⟨.reserve r, .reserve a, e.now⟩ ∧ (requests r).reserveArgs = .ok a ∧
      transactionInsert a e.now = some row ∧ recordInsert a e.now = some record := by
  rcases h with ⟨a, hcall, hrow, hrecord⟩
  rcases log_cases hreach he with ⟨r, a', hid, hcall', hargs⟩ | ⟨r, a', _, hcall', _⟩
  · cases hcall.symm.trans hcall'
    refine ⟨r, a, ?_, hargs, hrow, hrecord⟩
    cases e
    simp_all
  · cases hcall.symm.trans hcall'

include hreach hadmitted in
/-- From empty tables, every transaction row belongs to the reservation of a request. -/
theorem owner_of_transaction {id : PyStr} {row : TransactionRow}
    (h : s.tables (.transaction id) = some row) :
    ∃ r a now, (requests r).reserveArgs = .ok a ∧ (requests r).command.transactionId = id ∧
      ⟨.reserve r, .reserve a, now⟩ ∈ s.calls.log := by
  by_contra hnone
  have hempty : s.tables (.transaction id) = none := by
    refine (contents_of_reachable hreach).other_transactions id ?_
    intro e he row₀ record₀ hinserts heq
    apply hnone
    rcases owner_of_inserts hreach he hinserts with ⟨r, a, hentry, hargs, hrow, _⟩
    rw [hentry] at he
    exact ⟨r, a, e.now, hargs, (transactionInsert_id (hadmitted r) hargs hrow).symm.trans heq, he⟩
  cases h.symm.trans hempty

include hreach in
theorem owner_of_record {keyHash : PyStr} {record : IdempotencyRecord}
    (h : s.tables (.record keyHash) = some record) :
    ∃ r a now, (requests r).reserveArgs = .ok a ∧ a.keyHash = keyHash ∧
      ⟨.reserve r, .reserve a, now⟩ ∈ s.calls.log := by
  by_contra hnone
  have hempty : s.tables (.record keyHash) = none := by
    refine (contents_of_reachable hreach).other_records keyHash ?_
    intro e he row₀ record₀ hinserts heq
    apply hnone
    rcases owner_of_inserts hreach he hinserts with ⟨r, a, hentry, hargs, _, hrecord⟩
    rw [hentry] at he
    exact ⟨r, a, e.now, hargs, (recordInsert_keyHash hargs hrecord).symm.trans heq, he⟩
  cases h.symm.trans hempty

include hreach hadmitted hfrom in
/-- Every record stands with its transaction in one of the two states. -/
theorem pair_of_record {keyHash : PyStr} {record : IdempotencyRecord}
    (h : s.tables (.record keyHash) = some record) :
    ∃ row, s.tables (.transaction record.transactionId) = some row ∧ PairState row record := by
  rcases owner_of_record hreach h with ⟨r, a, now, hargs, rfl, hlogged⟩
  rcases pair_of_logged hreach hadmitted hfrom hargs hlogged with ⟨row, record', hpair, hstate⟩
  cases h.symm.trans hpair.record_eq
  exact ⟨row, by rw [hpair.linked]; exact hpair.row_eq, hstate⟩

include hreach hadmitted hfrom in
/-- The records of one transaction are one record. -/
theorem record_unique {keyHash keyHash' : PyStr} {record record' : IdempotencyRecord}
    (h : s.tables (.record keyHash) = some record)
    (h' : s.tables (.record keyHash') = some record')
    (hid : record.transactionId = record'.transactionId) : keyHash = keyHash' := by
  -- each record belongs to a reservation of the log
  rcases owner_of_record hreach h with ⟨r, a, now, hargs, rfl, hlogged⟩
  rcases owner_of_record hreach h' with ⟨r', a', now', hargs', rfl, hlogged'⟩
  rcases pair_of_logged hreach hadmitted hfrom hargs hlogged with ⟨_, record₁, hpair, _⟩
  rcases pair_of_logged hreach hadmitted hfrom hargs' hlogged' with ⟨_, record₂, hpair', _⟩
  cases h.symm.trans hpair.record_eq
  cases h'.symm.trans hpair'.record_eq
  rw [hpair.linked, hpair'.linked] at hid
  by_cases hr : r = r'
  · subst hr
    cases hargs.symm.trans hargs'
    rfl
  · -- two reservations in the log have different transaction ids
    have hrows := (Coordination.reservationsInv_of_reachable (calls_reachable hreach)).rows
    rcases hrows _ hlogged a rfl with ⟨row, record₃, hinserts⟩
    rcases hrows _ hlogged' a' rfl with ⟨row', record₄, hinserts'⟩
    have hexclusive := log_exclusive hreach hlogged hlogged' (by simpa using hr) row record₃ row'
      record₄ hinserts hinserts'
    rcases hinserts with ⟨_, heq, hrow, _⟩
    cases heq
    rcases hinserts' with ⟨_, heq', hrow', _⟩
    cases heq'
    exfalso
    apply hexclusive.1
    rw [transactionInsert_id (hadmitted r) hargs hrow,
      transactionInsert_id (hadmitted r') hargs' hrow', hid]

end Pairs

/-! ## The invariant -/

theorem storeInvariant_of_reachable {acceptsStr : PyStr → Bool}
    (hadmitted : ∀ r, Admitted acceptsStr (requests r).command) {s : Requests}
    (hreach : Reachable (Requests.step requests) (init emptyTables) s)
    (hfrom : FromTrimmed requests s) : StoreInvariant s.tables s.sent := by
  -- every conjunct reads the two rows of one reservation
  refine ⟨?_, ?_, ?_, ?_, ?_, ?_, ?_⟩
  · exact Coordination.schemaOk_of_reachable schemaOk_empty (calls_reachable hreach)
  · -- every record has its transaction
    intro keyHash record hrecord
    rcases pair_of_record hreach hadmitted hfrom hrecord with ⟨row, hrow, _⟩
    exact ⟨row, hrow⟩
  · -- and every transaction exactly one record
    intro id row hrow
    rcases owner_of_transaction hreach hadmitted hrow with ⟨r, a, now, hargs, rfl, hlogged⟩
    rcases pair_of_logged hreach hadmitted hfrom hargs hlogged with ⟨_, record, hpair, _⟩
    refine ⟨a.keyHash, ⟨record, hpair.record_eq, hpair.linked⟩, ?_⟩
    rintro keyHash ⟨record', hrecord', hlinked'⟩
    exact record_unique hreach hadmitted hfrom hrecord' hpair.record_eq
      (hlinked'.trans hpair.linked.symm)
  · -- in progress: both rows are as they were inserted
    intro keyHash record row hrecord hrow hprogress
    rcases pair_of_record hreach hadmitted hfrom hrecord with ⟨row', hrow', hstate⟩
    cases hrow.symm.trans hrow'
    cases hstate with
    | fresh _ hfresh =>
        exact hfresh
    | done hcompleted =>
        rw [hprogress] at hcompleted
        simp at hcompleted
  · -- completed: both rows are as one `complete` wrote them
    intro keyHash record row hrecord hrow hcompleted
    rcases pair_of_record hreach hadmitted hfrom hrecord with ⟨row', hrow', hstate⟩
    cases hrow.symm.trans hrow'
    cases hstate with
    | fresh hprogress =>
        rw [hcompleted] at hprogress
        simp at hprogress
    | done _ hdone =>
        exact hdone
  · -- the response columns are set together or not at all
    intro keyHash record hrecord
    rcases pair_of_record hreach hadmitted hfrom hrecord with ⟨_, _, hstate⟩
    cases hstate with
    | fresh _ _ hcode hheaders =>
        simp [hcode, hheaders]
    | done _ _ envelope hstored hcode hheaders =>
        rw [hcode, hheaders]
        rcases hstored.headers with ⟨hne, hnone⟩ | ⟨heq, n, hsome⟩
        · simp [hne, hnone]
        · simp [heq, hsome]
  · -- a call of the network comes after the reservation of its request
    intro p hp
    rcases (sentInv_of_reachable hreach).acquired p hp with ⟨hport, a, hacquired⟩
    rcases hacquired.logged hreach with ⟨now, hlogged⟩
    rcases pair_of_logged hreach hadmitted hfrom hacquired.1 hlogged with ⟨row, _, hpair, _⟩
    rw [hport]
    exact ⟨row, hpair.row_eq, hpair.values⟩

/-- In every state that any run of requests reaches from empty tables, with crashes and database
faults at any step and a port that delivers stripped texts (as the adapter does, `trimmed_authorize`),
the two tables are in bijection through the transaction id, an unfinished record
has an untouched transaction, a completed one has exactly the answer its transaction calls for, and
every call of the payment network was made with the values of its row. -/
theorem store_agrees {acceptsStr : PyStr → Bool}
    (hadmitted : ∀ r, Admitted acceptsStr (requests r).command) (es : List Event)
    (htrimmed : ∀ r o, .respond r o ∈ es → Trimmed o) {s : Requests}
    (hrun : exec (Requests.step requests) (init emptyTables) es = some s) :
    StoreInvariant s.tables s.sent :=
  storeInvariant_of_reachable hadmitted ⟨es, hrun⟩ (fromTrimmed_of_run htrimmed hrun)

/-- The sample request is declined; its call of the port has its row. -/
theorem store_agrees_decline :
    let x : Exchange := .response
      { statusCode := 200
        headers := []
        json := .ok (.obj [(py "outcome", .str (py "DECLINED")),
          (py "decline_code", .str (py "05"))]) }
    let run : List Event := sampleRun ++
      [.respond 0 (authorize x), .database (.step (.complete 0) 2),
        .database (.step (.complete 0) 2), .database (.step (.complete 0) 2), .finish 0]
    ∃ (s : Requests) (row : TransactionRow),
      exec (Requests.step fun _ => sampleRequest) (init emptyTables) run = some s ∧
      s.sent = [(0, portRequest sampleRequest.command)] ∧
      StoreInvariant s.tables s.sent ∧ s.tables (.transaction (py "txn_1")) = some row ∧
      row.merchantId = py "m_1" := by
  intro x run
  have hsent : (exec (Requests.step fun _ => sampleRequest) (init emptyTables) run).any
      (fun s => s.sent = [(0, portRequest sampleRequest.command)]) = true := by
    decide +kernel
  rcases (Option.any_eq_true _ _).mp hsent with ⟨s, hrun, hs⟩
  have hsent : s.sent = [(0, portRequest sampleRequest.command)] := by simpa using hs
  have hinvariant := store_agrees (fun _ => sample_admitted) run
    (by
      intro r o hmem
      simp only [run, sampleRun, List.mem_append, List.mem_cons] at hmem
      simp only [reduceCtorEq, Event.respond.injEq, false_or, List.not_mem_nil, or_false] at hmem
      rw [hmem.2]
      exact trimmed_authorize x) hrun
  rcases hinvariant.sent_row (0, portRequest sampleRequest.command) (by simp [hsent]) with
    ⟨row, hrow, hmerchant, _⟩
  exact ⟨s, row, hrun, hsent, hinvariant, hrow, hmerchant⟩

/-- The adapter strips what it delivers, so behind it every run keeps the invariant. -/
theorem adapter_store_agrees {acceptsStr : PyStr → Bool}
    (hadmitted : ∀ r, Admitted acceptsStr (requests r).command) (es : List Event)
    (hadapter : ∀ r o, .respond r o ∈ es → ∃ x, o = authorize x) {s : Requests}
    (hrun : exec (Requests.step requests) (init emptyTables) es = some s) :
    StoreInvariant s.tables s.sent := by
  refine storeInvariant_of_reachable hadmitted ⟨es, hrun⟩ (fromTrimmed_of_run ?_ hrun)
  intro r o hrespond
  rcases hadapter r o hrespond with ⟨x, rfl⟩
  exact trimmed_authorize x

end Requests

end System
end TransactionPlatform
