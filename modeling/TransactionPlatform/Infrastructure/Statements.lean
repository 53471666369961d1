import TransactionPlatform.Infrastructure.Constraints
import TransactionPlatform.Infrastructure.Envelopes
import TransactionPlatform.Infrastructure.Rehydration

/-!
# Statements — the SQL statements of the coordinator

The statements `reserve` and `complete` build with SQLAlchemy
(`src/transaction_platform/infrastructure/idempotency_coordinator.py`), and what the relational server
does with each of them when the two tables are declared as `metadata` says.
-/

namespace TransactionPlatform
namespace Infrastructure

open Text Domain Ports Sql Relational ReadCommitted

/-! ## The tables inside a database -/

def rowValues : (k : Pk) → Row k → SqlRow
  | .transaction _ => TransactionRow.values
  | .record _ => IdempotencyRecord.values

/-- The two tables under their names. -/
def tableLayout : Layout Row RelKey SqlRow where
  place
    | .transaction id => (py "transactions", id)
    | .record keyHash => (py "idempotency_records", keyHash)
  find k :=
    if k.1 = py "transactions" then some (.transaction k.2)
    else if k.1 = py "idempotency_records" then some (.record k.2)
    else none
  find_eq_some := by
    intro k' k
    rcases k' with ⟨table, key⟩
    cases k with
    | transaction id =>
        by_cases h : table = py "transactions"
        · simp [h, eq_comm]
        · by_cases h' : table = py "idempotency_records"
          · simp [h']
          · simp [h, h', eq_comm]
    | record keyHash =>
        by_cases h : table = py "transactions"
        · simp [h]
        · by_cases h' : table = py "idempotency_records"
          · simp [h', eq_comm]
          · simp [h, h', eq_comm]
  encode := rowValues

@[simp] theorem tableLayout_place_transaction (id : PyStr) :
    tableLayout.place (.transaction id) = (py "transactions", id) := rfl

@[simp] theorem tableLayout_place_record (keyHash : PyStr) :
    tableLayout.place (.record keyHash) = (py "idempotency_records", keyHash) := rfl

/-- The catalogue has the two tables as declared. -/
structure SchemaDeclared (cat : Catalogue ColumnType) : Prop where
  transactions : cat.table (py "transactions") = some transactionsTable
  records : cat.table (py "idempotency_records") = some idempotencyRecordsTable

/-! ## The statements -/

/-- `select(idempotency_records_table).where(idempotency_key_hash == key_hash)`. -/
def selectRecord (a : ReserveArgs) : Statement :=
  .select (py "idempotency_records") a.keyHash

/-- `select(transactions_table.c.transaction_id).where(transaction_id == ..)`. -/
def selectTransaction (a : ReserveArgs) : Statement :=
  .select (py "transactions") a.transactionId

def transactionValues (a : ReserveArgs) : Dict Parameter :=
  [(py "transaction_id", .bound (textValue a.transactionId)),
    (py "merchant_id", .bound (textValue a.merchantId)),
    (py "amount", .bound (integerValue a.amount)),
    (py "currency", .bound (textValue a.currency)),
    (py "status", .bound (textValue (py "CREATED"))),
    (py "pending_operation", .bound none),
    (py "version", .bound (integerValue 0)),
    (py "created_at", .now),
    (py "updated_at", .now)]

/-- Step A of `reserve`. -/
def insertTransaction (a : ReserveArgs) : Statement :=
  .insert (py "transactions") (transactionValues a)

def recordValues (a : ReserveArgs) : Dict Parameter :=
  [(py "idempotency_key_hash", .bound (textValue a.keyHash)),
    (py "request_fingerprint", .bound (textValue a.requestFingerprint)),
    (py "processing_status", .bound (textValue (py "IN_PROGRESS"))),
    (py "transaction_id", .bound (textValue a.transactionId)),
    (py "created_at", .now),
    (py "updated_at", .now)]

/-- Step B of `reserve`. -/
def insertRecord (a : ReserveArgs) : Statement :=
  .insert (py "idempotency_records") (recordValues a)

def transactionAssignments (a : CompleteArgs) : Dict Parameter :=
  [(py "status", .bound (textValue a.transaction.status.value)),
    (py "pending_operation", .bound ((a.transaction.pendingOperation.map (·.value)).map .text)),
    (py "version", .bound (integerValue a.transaction.version)),
    (py "network_reference", .bound (a.networkReference.map .text)),
    (py "authorization_code", .bound (a.authorizationCode.map .text)),
    (py "decline_code", .bound (a.declineCode.map .text)),
    (py "updated_at", .now)]

def transactionConditions (a : CompleteArgs) : Dict Datum :=
  [(py "version", .integer a.expectedVersion)]

/-- The first statement of `complete`. -/
def updateTransaction (a : CompleteArgs) : Statement :=
  .update (py "transactions") a.transaction.transactionId (transactionConditions a)
    (transactionAssignments a)

def recordAssignments (a : CompleteArgs) : Dict Parameter :=
  [(py "processing_status", .bound (textValue (py "COMPLETED"))),
    (py "stored_status_code", .bound (integerValue a.envelope.statusCode)),
    (py "stored_response_body", .bound ((noneAsNull a.envelope.body).map .jsonb)),
    (py "stored_headers", .bound (headersValue (persistedHeaders a.envelope.headers))),
    (py "updated_at", .now)]

def recordConditions (a : CompleteArgs) : Dict Datum :=
  [(py "transaction_id", .text a.transaction.transactionId),
    (py "processing_status", .text (py "IN_PROGRESS"))]

/-- The second statement of `complete`. -/
def updateRecord (a : CompleteArgs) : Statement :=
  .update (py "idempotency_records") a.keyHash (recordConditions a) (recordAssignments a)

/-! ## Assignments -/

theorem assignValue_text (n : Nat) (s : PyStr) :
    assignValue postgresql (.string n) (textValue s) =
      match varchar n s with
      | some stored => .ok (textValue stored)
      | none => .error .data := by
  simp only [assignValue, textValue, postgresql, ColumnType.assign]
  cases varchar n s <;> rfl

theorem assignValue_textOpt (n : Nat) (v : Option PyStr) :
    assignValue postgresql (.string n) (v.map .text) =
      match varcharOpt n v with
      | some stored => .ok (stored.map .text)
      | none => .error .data := by
  cases v with
  | none =>
      rfl
  | some s =>
      have htext := assignValue_text n s
      simp only [textValue] at htext
      simp only [Option.map_some, htext, varcharOpt]
      cases varchar n s <;> rfl

theorem assignValue_bigInteger (n : Int) :
    assignValue postgresql .bigInteger (integerValue n) =
      if bigint n then .ok (integerValue n) else .error .data := by
  simp only [assignValue, integerValue, postgresql, ColumnType.assign, ColumnType.binds]
  by_cases h : bigint n = true <;> simp [h]

theorem assignValue_integer (n : Int) :
    assignValue postgresql .integer (integerValue n) =
      if integer n then .ok (integerValue n) else .error .data := by
  simp only [assignValue, integerValue, postgresql, ColumnType.assign, ColumnType.binds]
  by_cases h : integer n = true <;> simp [h]

theorem assignValue_jsonb (j : Json) :
    assignValue postgresql .jsonb (some (.jsonb j)) =
      if jsonb j then .ok (some (.jsonb j.joined)) else .error .data := by
  simp only [assignValue, postgresql, ColumnType.assign]
  by_cases h : jsonb j = true <;> simp [h]

theorem assignValue_body (body : Json) :
    assignValue postgresql .jsonb ((noneAsNull body).map .jsonb) =
      if jsonb body then .ok (((noneAsNull body).map Json.joined).map .jsonb)
      else .error .data := by
  cases body with
  | null =>
      rfl
  | _ =>
      exact assignValue_jsonb _

/-- The object of some headers can be stored when the headers can. -/
theorem jsonb_headersJson (headers : Headers) :
    jsonb (headersJson headers) = jsonbHeaders (some headers) := by
  have hdumps : ∀ (n : Nat) (hs : Headers),
      Json.dumpableMembers n (hs.map fun h => (h.1, .str h.2)) = true := by
    intro n hs
    induction hs with
    | nil =>
        rfl
    | cons h hs ih =>
        simp [Json.dumpableMembers, Json.dumpable, ih]
  have hdumpable : (headersJson headers).dumpable maxNesting = true := hdumps _ headers
  rw [jsonb, hdumpable, Bool.true_and, headersJson, jsonbStores, jsonbHeaders]
  induction headers with
  | nil =>
      rfl
  | cons h headers ih =>
      rw [List.map_cons, jsonbStoresMembers, ih (hdumps _ headers), List.all_cons, jsonbStores]

/-- The headers `complete` persists have at most one name, so none of them is lost in an object. -/
theorem assignValue_headers (headers : Headers) :
    assignValue postgresql .jsonb (headersValue (persistedHeaders headers)) =
      if jsonbHeaders (persistedHeaders headers) then
        .ok (headersValue (joinedHeaders (persistedHeaders headers)))
      else .error .data := by
  have hkept := keptFrom_allowlistedHeaders headers
  unfold persistedHeaders
  generalize allowlistedHeaders headers = kept at hkept ⊢
  cases hkept with
  | nothing _ =>
      rfl
  | value header _ _ =>
      have hassign := assignValue_jsonb (headersJson [(py "Retry-After", header.2)])
      rw [jsonb_headersJson] at hassign
      exact hassign

theorem assignValue_now (now : Nat) :
    assignValue postgresql .dateTime (some (.timestamp now)) = .ok (some (.timestamp now)) :=
  rfl

/-! ## `INSERT`s -/

/-- The row of step A; a data error where the model has no row. -/
theorem inserted_transaction (a : ReserveArgs) (now : Timestamp) :
    transactionsTable.inserted postgresql now (transactionValues a) =
      match transactionInsert a now with
      | some row => .ok row.values
      | none => .error .data := by
  have hstatus : varchar 32 (py "CREATED") = some (py "CREATED") := by rfl
  have hversion : integer 0 = true := rfl
  have hassign : transactionsTable.inserted postgresql now (transactionValues a) =
      List.mapM (fun c => assignValue postgresql c.1 c.2)
        [(.string 128, textValue a.transactionId), (.string 128, textValue a.merchantId),
          (.bigInteger, integerValue a.amount), (.string 3, textValue a.currency),
          (.string 32, textValue (py "CREATED")), (.string 32, none), (.integer, integerValue 0),
          (.string 128, none), (.string 128, none), (.string 128, none),
          (.dateTime, some (.timestamp now)), (.dateTime, some (.timestamp now))] := rfl
  rw [hassign]
  simp only [List.mapM_cons, List.mapM_nil, assignValue_text, assignValue_bigInteger,
    assignValue_integer, assignValue_now, hstatus, hversion, transactionInsert]
  cases varchar 128 a.transactionId with
  | none =>
      rfl
  | some transactionId =>
      cases varchar 128 a.merchantId with
      | none =>
          rfl
      | some merchantId =>
          cases bigint a.amount with
          | false =>
              cases varchar 3 a.currency <;> rfl
          | true =>
              cases varchar 3 a.currency <;> rfl

/-- The row of step B. -/
theorem inserted_record (a : ReserveArgs) (now : Timestamp) :
    idempotencyRecordsTable.inserted postgresql now (recordValues a) =
      match recordInsert a now with
      | some record => .ok record.values
      | none => .error .data := by
  have hstatus : varchar 32 (py "IN_PROGRESS") = some (py "IN_PROGRESS") := by rfl
  have hassign : idempotencyRecordsTable.inserted postgresql now (recordValues a) =
      List.mapM (fun c => assignValue postgresql c.1 c.2)
        [(.string 64, textValue a.keyHash), (.string 64, textValue a.requestFingerprint),
          (.string 32, textValue (py "IN_PROGRESS")), (.string 128, textValue a.transactionId),
          (.integer, none), (.jsonb, none), (.jsonb, none),
          (.dateTime, some (.timestamp now)), (.dateTime, some (.timestamp now))] := rfl
  rw [hassign]
  simp only [List.mapM_cons, List.mapM_nil, assignValue_text, assignValue_now, hstatus,
    recordInsert]
  cases varchar 64 a.keyHash with
  | none =>
      rfl
  | some keyHash =>
      cases varchar 64 a.requestFingerprint with
      | none =>
          rfl
      | some requestFingerprint =>
          cases varchar 128 a.transactionId <;> rfl

section Execution

variable {ι : Type} [DecidableEq ι] {cat : Catalogue ColumnType}

/-- What `execute` says for step A: the model's cases, one for one. -/
theorem execute_insertTransaction (hcat : SchemaDeclared cat) (s : Server Row ι) (c : ι) (now : Timestamp)
    (a : ReserveArgs) :
    execute postgresql cat (tableLayout.server s) c now (insertTransaction a) =
      match transactionInsert a now with
      | none => some (tableLayout.server s, .error .data)
      | some row =>
          if row.admitted then
            if s.blocked c (.transaction row.transactionId) then none
            else if (s.view c (.transaction row.transactionId)).isSome then
              some (tableLayout.server s, .error .integrity)
            else
              some (tableLayout.server (s.write c (.transaction row.transactionId) row),
                .rowcount 1)
          else some (tableLayout.server s, .error .integrity) := by
  have hnames : (transactionValues a).all (fun v => transactionsTable.columnNames.contains v.1) =
      true := rfl
  simp only [execute, insertTransaction, hcat.transactions, execInsert, hnames, if_true,
    inserted_transaction]
  cases hinsert : transactionInsert a now with
  | none =>
      rfl
  | some row =>
      simp only [checkRow_transaction]
      by_cases hadmitted : row.admitted = true
      · have hkey : transactionsTable.key row.values = some row.transactionId := rfl
        have hplace : (transactionsTable.name, row.transactionId) =
            tableLayout.place (.transaction row.transactionId) := rfl
        have hforeign : transactionsTable.foreignKeys = [] := rfl
        simp only [hadmitted, if_true, hkey, hplace, tableLayout.server_blocked_place,
          tableLayout.server_view_place, Option.isSome_map, hforeign, List.all_nil, Bool.not_true,
          Bool.or_false, tableLayout.server_write]
        rfl
      · simp only [hadmitted]
        rfl

theorem execute_insertRecord (hcat : SchemaDeclared cat) (s : Server Row ι) (c : ι) (now : Timestamp)
    (a : ReserveArgs) :
    execute postgresql cat (tableLayout.server s) c now (insertRecord a) =
      match recordInsert a now with
      | none => some (tableLayout.server s, .error .data)
      | some record =>
          if record.admitted then
            if s.blocked c (.record record.idempotencyKeyHash) then none
            else if (s.view c (.record record.idempotencyKeyHash)).isSome ||
                (s.view c (.transaction record.transactionId)).isNone then
              some (tableLayout.server s, .error .integrity)
            else
              some (tableLayout.server (s.write c (.record record.idempotencyKeyHash) record),
                .rowcount 1)
          else some (tableLayout.server s, .error .integrity) := by
  have hnames : (recordValues a).all (fun v => idempotencyRecordsTable.columnNames.contains v.1) =
      true := rfl
  simp only [execute, insertRecord, hcat.records, execInsert, hnames, if_true, inserted_record]
  cases hinsert : recordInsert a now with
  | none =>
      rfl
  | some record =>
      simp only [checkRow_record]
      by_cases hadmitted : record.admitted = true
      · have hkey : idempotencyRecordsTable.key record.values = some record.idempotencyKeyHash := rfl
        have hplace : (idempotencyRecordsTable.name, record.idempotencyKeyHash) =
            tableLayout.place (.record record.idempotencyKeyHash) := rfl
        have hforeign : ∀ view : Rows,
            idempotencyRecordsTable.foreignKeys.all
                (idempotencyRecordsTable.refers view record.values) =
              (view (tableLayout.place (.transaction record.transactionId))).isSome :=
          fun view => Bool.and_true _
        simp only [hadmitted, if_true, hkey, hplace, hforeign, tableLayout.server_blocked_place,
          tableLayout.server_view_place, Option.isSome_map, Option.not_isSome,
          tableLayout.server_write]
        rfl
      · simp only [hadmitted]
        rfl

/-! ## `SELECT`s -/

theorem bound_transactionId (id : PyStr) (rest : Dict Datum) :
    transactionsTable.bound postgresql ((py "transaction_id", .text id) :: rest) =
      if pgText id then transactionsTable.bound postgresql rest else .error .data :=
  rfl

theorem bound_keyHash (keyHash : PyStr) (rest : Dict Datum) :
    idempotencyRecordsTable.bound postgresql ((py "idempotency_key_hash", .text keyHash) :: rest) =
      if pgText keyHash then idempotencyRecordsTable.bound postgresql rest else .error .data :=
  rfl

theorem execute_selectRecord (hcat : SchemaDeclared cat) (s : Server Row ι) (c : ι) (now : Timestamp)
    (a : ReserveArgs) :
    execute postgresql cat (tableLayout.server s) c now (selectRecord a) =
      some (tableLayout.server s,
        if pgText a.keyHash then
          .row ((s.view c (.record a.keyHash)).map fun record =>
            idempotencyRecordsTable.named record.values)
        else .error .data) := by
  have hplace : (idempotencyRecordsTable.name, a.keyHash) =
      tableLayout.place (.record a.keyHash) := rfl
  have hprimary : idempotencyRecordsTable.primaryKey = py "idempotency_key_hash" := rfl
  simp only [execute, selectRecord, hcat.records, execSelect, hprimary, bound_keyHash,
    Table.bound_nil, hplace, tableLayout.server_view_place]
  by_cases htext : pgText a.keyHash = true
  · simp only [htext, if_true, Option.map_map]
    rfl
  · simp only [htext]
    rfl

theorem execute_selectTransaction (hcat : SchemaDeclared cat) (s : Server Row ι) (c : ι)
    (now : Timestamp) (a : ReserveArgs) :
    execute postgresql cat (tableLayout.server s) c now (selectTransaction a) =
      some (tableLayout.server s,
        if pgText a.transactionId then
          .row ((s.view c (.transaction a.transactionId)).map fun row =>
            transactionsTable.named row.values)
        else .error .data) := by
  have hplace : (transactionsTable.name, a.transactionId) =
      tableLayout.place (.transaction a.transactionId) := rfl
  have hprimary : transactionsTable.primaryKey = py "transaction_id" := rfl
  simp only [execute, selectTransaction, hcat.transactions, execSelect, hprimary,
    bound_transactionId, Table.bound_nil, hplace, tableLayout.server_view_place]
  by_cases htext : pgText a.transactionId = true
  · simp only [htext, if_true, Option.map_map]
    rfl
  · simp only [htext]
    rfl

/-! ## `UPDATE`s -/

/-- The values of the first `SET` clause; a data error where the model has none. -/
theorem assigned_transaction (a : CompleteArgs) (now : Timestamp) :
    transactionsTable.assigned postgresql now (transactionAssignments a) =
      match varcharOpt 128 a.networkReference, varcharOpt 128 a.authorizationCode,
          varcharOpt 128 a.declineCode with
      | some networkReference, some authorizationCode, some declineCode =>
          if integer a.transaction.version then
            .ok
              [(py "status", textValue a.transaction.status.value),
                (py "pending_operation", (a.transaction.pendingOperation.map (·.value)).map .text),
                (py "version", integerValue a.transaction.version),
                (py "network_reference", networkReference.map .text),
                (py "authorization_code", authorizationCode.map .text),
                (py "decline_code", declineCode.map .text),
                (py "updated_at", some (.timestamp now))]
          else .error .data
      | _, _, _ => .error .data := by
  have hassign : transactionsTable.assigned postgresql now (transactionAssignments a) =
      List.mapM
        (fun c : PyStr × ColumnType × Value => do
          return (c.1, ← assignValue postgresql c.2.1 c.2.2))
        [(py "status", .string 32, textValue a.transaction.status.value),
          (py "pending_operation", .string 32,
            (a.transaction.pendingOperation.map (·.value)).map .text),
          (py "version", .integer, integerValue a.transaction.version),
          (py "network_reference", .string 128, a.networkReference.map .text),
          (py "authorization_code", .string 128, a.authorizationCode.map .text),
          (py "decline_code", .string 128, a.declineCode.map .text),
          (py "updated_at", .dateTime, some (.timestamp now))] := rfl
  rw [hassign]
  simp only [List.mapM_cons, List.mapM_nil, assignValue_text, assignValue_textOpt,
    assignValue_integer, assignValue_now, varchar_value, varcharOpt_value]
  cases integer a.transaction.version with
  | false =>
      cases varcharOpt 128 a.networkReference <;> cases varcharOpt 128 a.authorizationCode <;>
        cases varcharOpt 128 a.declineCode <;> rfl
  | true =>
      cases varcharOpt 128 a.networkReference <;> cases varcharOpt 128 a.authorizationCode <;>
        cases varcharOpt 128 a.declineCode <;> rfl

/-- What binding the values of an `UPDATE` amounts to: a data error, or a change of typed rows. -/
inductive Performs {R : Type} (t : Table ColumnType) (key : PyStr) (conditions : Dict Datum)
    (assignments : Dict Parameter) (now : Timestamp) (encode : R → SqlRow) :
    Option (R → R) → Prop
  | unbound (hbound : t.bound postgresql ((t.primaryKey, .text key) :: conditions) = .error .data) :
      Performs t key conditions assignments now encode none
  | unassigned (hbound : t.bound postgresql ((t.primaryKey, .text key) :: conditions) = .ok ())
      (hassigned : t.assigned postgresql now assignments = .error .data) :
      Performs t key conditions assignments now encode none
  | updates (set : R → R) (values : Dict Value)
      (hbound : t.bound postgresql ((t.primaryKey, .text key) :: conditions) = .ok ())
      (hassigned : t.assigned postgresql now assignments = .ok values)
      (hupdated : ∀ row, t.updated values (encode row) = encode (set row)) :
      Performs t key conditions assignments now encode (some set)

/-- The outcome of a keyed update of typed rows; `seen` is the row under the key. -/
def updateOutcome {R : Type} (db : Database ι) (c : ι) (k : RelKey) (encode : R → SqlRow)
    (admitted guard : R → Bool) (change : Option (R → R)) (seen : Option R) :
    Option (Database ι × Result) :=
  match change with
  | none => some (db, .error .data)
  | some set =>
      match seen with
      | none => some (db, .rowcount 0)
      | some row =>
          if guard row then
            if db.blocked c k then none
            else if admitted (set row) then some (db.write c k (encode (set row)), .rowcount 1)
            else some (db, .error .integrity)
          else some (db, .rowcount 0)

theorem execUpdate_of_performs {R : Type} {t : Table ColumnType} {key : PyStr}
    {conditions : Dict Datum} {assignments : Dict Parameter} {now : Timestamp} {encode : R → SqlRow}
    {change : Option (R → R)} (h : Performs t key conditions assignments now encode change)
    (hkeys : assignments.all (fun v => !t.isKeyColumn v.1) = true) {admitted guard : R → Bool}
    (hchecked : ∀ row, t.checkRow (encode row) = if admitted row then .ok () else .error .integrity)
    (hguard : ∀ row, t.matching conditions (encode row) = guard row) {db : Database ι} {c : ι}
    {seen : Option R} (hview : db.view c (t.name, key) = seen.map encode) :
    execUpdate postgresql db c now t key conditions assignments =
      updateOutcome db c (t.name, key) encode admitted guard change seen := by
  cases h with
  | unbound hbound =>
      simp [execUpdate, updateOutcome, hkeys, hbound]
  | unassigned hbound hassigned =>
      simp [execUpdate, updateOutcome, hkeys, hbound, hassigned]
  | updates set values hbound hassigned hupdated =>
      simp only [execUpdate, updateOutcome, hkeys, if_true, hbound, hassigned, hview]
      cases seen with
      | none =>
          rfl
      | some row =>
          simp only [Option.map_some, hguard, hupdated, hchecked]
          by_cases hadmitted : admitted (set row) = true
          · simp [hadmitted]
          · simp [hadmitted]

theorem bound_updateTransaction (a : CompleteArgs) :
    transactionsTable.bound postgresql
      ((py "transaction_id", .text a.transaction.transactionId) :: transactionConditions a) =
      if pgText a.transaction.transactionId && integer a.expectedVersion then .ok ()
      else .error .data := by
  rw [bound_transactionId]
  cases pgText a.transaction.transactionId <;> rfl

theorem performs_updateTransaction (a : CompleteArgs) (now : Timestamp) :
    Performs transactionsTable a.transaction.transactionId (transactionConditions a)
      (transactionAssignments a) now TransactionRow.values (transactionUpdate a now) := by
  have hbound := bound_updateTransaction a
  have hassigned := assigned_transaction a now
  cases hparameters : pgText a.transaction.transactionId && integer a.expectedVersion with
  | false =>
      have hnone : transactionUpdate a now = none := by
        unfold transactionUpdate
        rw [hparameters]
        split <;> rfl
      rw [hparameters] at hbound
      rw [hnone]
      exact .unbound hbound
  | true =>
      rw [hparameters] at hbound
      unfold transactionUpdate
      rw [hparameters]
      split
      · rename_i networkReference authorizationCode declineCode hnetwork hauthorization hdecline
        rw [hnetwork, hauthorization, hdecline] at hassigned
        cases hversion : integer a.transaction.version with
        | false =>
            rw [hversion] at hassigned
            exact .unassigned hbound hassigned
        | true =>
            rw [hversion] at hassigned
            exact .updates _ _ hbound hassigned fun _ => rfl
      · rename_i hnot
        refine .unassigned hbound ?_
        rw [hassigned]
        split
        · rename_i n d e hn hd he
          exact absurd he (hnot n d e hn hd)
        · rfl

theorem execute_updateTransaction (hcat : SchemaDeclared cat) (s : Server Row ι) (c : ι)
    (now : Timestamp) (a : CompleteArgs) :
    execute postgresql cat (tableLayout.server s) c now (updateTransaction a) =
      match transactionUpdate a now with
      | none => some (tableLayout.server s, .error .data)
      | some set =>
          match s.view c (.transaction a.transaction.transactionId) with
          | none => some (tableLayout.server s, .rowcount 0)
          | some row =>
              if row.version = a.expectedVersion then
                if s.blocked c (.transaction a.transaction.transactionId) then none
                else if (set row).admitted then
                  some (tableLayout.server
                      (s.write c (.transaction a.transaction.transactionId) (set row)),
                    .rowcount 1)
                else some (tableLayout.server s, .error .integrity)
              else some (tableLayout.server s, .rowcount 0) := by
  have hview := tableLayout.server_view_place s c (.transaction a.transaction.transactionId)
  have hblocked := tableLayout.server_blocked_place s c (.transaction a.transaction.transactionId)
  have hguard : ∀ row : TransactionRow, transactionsTable.matching (transactionConditions a)
      row.values = decide (row.version = a.expectedVersion) := fun row => Bool.and_true _
  simp only [execute, updateTransaction, hcat.transactions]
  rw [execUpdate_of_performs (performs_updateTransaction a now) rfl checkRow_transaction hguard hview]
  cases transactionUpdate a now with
  | none =>
      rfl
  | some set =>
      cases s.view c (.transaction a.transaction.transactionId) with
      | none =>
          rfl
      | some row =>
          simp only [updateOutcome, decide_eq_true_eq, ← hblocked, tableLayout.server_write]
          rfl

/-- The values of the second `SET` clause. -/
theorem assigned_record (a : CompleteArgs) (now : Timestamp) :
    idempotencyRecordsTable.assigned postgresql now (recordAssignments a) =
      if integer a.envelope.statusCode && jsonb a.envelope.body &&
          jsonbHeaders (persistedHeaders a.envelope.headers) then
        .ok
          [(py "processing_status", textValue (py "COMPLETED")),
            (py "stored_status_code", integerValue a.envelope.statusCode),
            (py "stored_response_body", ((noneAsNull a.envelope.body).map Json.joined).map .jsonb),
            (py "stored_headers", headersValue (joinedHeaders (persistedHeaders a.envelope.headers))),
            (py "updated_at", some (.timestamp now))]
      else .error .data := by
  have hstatus : varchar 32 (py "COMPLETED") = some (py "COMPLETED") := by rfl
  have hassign : idempotencyRecordsTable.assigned postgresql now (recordAssignments a) =
      List.mapM
        (fun c : PyStr × ColumnType × Value => do
          return (c.1, ← assignValue postgresql c.2.1 c.2.2))
        [(py "processing_status", .string 32, textValue (py "COMPLETED")),
          (py "stored_status_code", .integer, integerValue a.envelope.statusCode),
          (py "stored_response_body", .jsonb, (noneAsNull a.envelope.body).map .jsonb),
          (py "stored_headers", .jsonb, headersValue (persistedHeaders a.envelope.headers)),
          (py "updated_at", .dateTime, some (.timestamp now))] := rfl
  rw [hassign]
  simp only [List.mapM_cons, List.mapM_nil, assignValue_text, assignValue_integer,
    assignValue_body, assignValue_headers, assignValue_now, hstatus]
  cases integer a.envelope.statusCode with
  | false =>
      rfl
  | true =>
      cases jsonb a.envelope.body with
      | false =>
          rfl
      | true =>
          cases jsonbHeaders (persistedHeaders a.envelope.headers) <;> rfl

theorem bound_updateRecord (a : CompleteArgs) :
    idempotencyRecordsTable.bound postgresql
      ((py "idempotency_key_hash", .text a.keyHash) :: recordConditions a) =
      if pgText a.keyHash && pgText a.transaction.transactionId then .ok () else .error .data := by
  have hstatus : pgText (py "IN_PROGRESS") = true := by rfl
  have hconditions : idempotencyRecordsTable.bound postgresql (recordConditions a) =
      if pgText a.transaction.transactionId then
        if pgText (py "IN_PROGRESS") then .ok () else .error .data
      else .error .data := rfl
  rw [bound_keyHash, hconditions, hstatus]
  cases pgText a.keyHash <;> rfl

theorem performs_updateRecord (a : CompleteArgs) (now : Timestamp) :
    Performs idempotencyRecordsTable a.keyHash (recordConditions a) (recordAssignments a) now
      IdempotencyRecord.values (recordUpdate a now) := by
  have hbound := bound_updateRecord a
  have hassigned := assigned_record a now
  cases hparameters : pgText a.keyHash && pgText a.transaction.transactionId with
  | false =>
      have hnone : recordUpdate a now = none := by
        unfold recordUpdate
        rw [hparameters]
        rfl
      rw [hparameters] at hbound
      rw [hnone]
      exact .unbound hbound
  | true =>
      rw [hparameters] at hbound
      unfold recordUpdate
      rw [hparameters, Bool.true_and]
      cases hvalues : integer a.envelope.statusCode && jsonb a.envelope.body &&
          jsonbHeaders (persistedHeaders a.envelope.headers) with
      | false =>
          rw [hvalues] at hassigned
          exact .unassigned hbound hassigned
      | true =>
          rw [hvalues] at hassigned
          exact .updates _ _ hbound hassigned fun _ => rfl

theorem execute_updateRecord (hcat : SchemaDeclared cat) (s : Server Row ι) (c : ι) (now : Timestamp)
    (a : CompleteArgs) :
    execute postgresql cat (tableLayout.server s) c now (updateRecord a) =
      match recordUpdate a now with
      | none => some (tableLayout.server s, .error .data)
      | some set =>
          match s.view c (.record a.keyHash) with
          | none => some (tableLayout.server s, .rowcount 0)
          | some record =>
              if recordGuard a record then
                if s.blocked c (.record a.keyHash) then none
                else if (set record).admitted then
                  some (tableLayout.server (s.write c (.record a.keyHash) (set record)),
                    .rowcount 1)
                else some (tableLayout.server s, .error .integrity)
              else some (tableLayout.server s, .rowcount 0) := by
  have hview := tableLayout.server_view_place s c (.record a.keyHash)
  have hblocked := tableLayout.server_blocked_place s c (.record a.keyHash)
  have hguard : ∀ record : IdempotencyRecord,
      idempotencyRecordsTable.matching (recordConditions a) record.values = recordGuard a record := by
    intro record
    change (_ && (_ && true)) = _
    rw [Bool.and_true]
    rfl
  simp only [execute, updateRecord, hcat.records]
  rw [execUpdate_of_performs (performs_updateRecord a now) rfl checkRow_record hguard hview]
  cases recordUpdate a now with
  | none =>
      rfl
  | some set =>
      cases s.view c (.record a.keyHash) with
      | none =>
          rfl
      | some record =>
          simp only [← hblocked, tableLayout.server_write]
          rfl

end Execution

end Infrastructure
end TransactionPlatform
