import TransactionPlatform.Infrastructure.Coordination

/-!
# Sessions — what an open transaction holds at each statement

`SessionInv T p cs o` relates the committed tables `T` to the uncommitted rows `p` of one call in
state `cs` with leftover `o`.  It only speaks of rows the call has locked, or says that a row
exists, so it survives whatever the other calls commit.  From it follows `step_tables`: the tables
change only when a transaction that is complete commits, and then by exactly what the call would
do to them in one atomic step (`Applies`).
-/

namespace TransactionPlatform
namespace Infrastructure

open Text Domain Ports ReadCommitted

variable {ι : Type}

/-! ## Row sets of the two transactions -/

def noRows : Store Row :=
  fun _ => none

def oneRow (id : PyStr) (row : TransactionRow) : Store Row :=
  Function.update noRows (.transaction id) (some row)

def bothRows (id : PyStr) (row : TransactionRow) (keyHash : PyStr) (record : IdempotencyRecord) :
    Store Row :=
  Function.update (oneRow id row) (.record keyHash) (some record)

section RowSets

variable (id : PyStr) (row : TransactionRow) (keyHash : PyStr) (record : IdempotencyRecord)

@[simp] theorem noRows_apply (k : Pk) : noRows k = none := rfl

@[simp] theorem oneRow_self : oneRow id row (.transaction id) = some row := by
  simp [oneRow]

@[simp] theorem oneRow_record (k : PyStr) : oneRow id row (.record k) = none := by
  simp [oneRow]

@[simp] theorem bothRows_transaction :
    bothRows id row keyHash record (.transaction id) = some row := by
  simp [bothRows]

@[simp] theorem bothRows_record :
    bothRows id row keyHash record (.record keyHash) = some record := by
  simp [bothRows]

variable {id keyHash}

theorem bothRows_transaction_of_ne {id' : PyStr} (h : id' ≠ id) :
    bothRows id row keyHash record (.transaction id') = none := by
  simp [bothRows, oneRow, h]

theorem bothRows_record_of_ne {keyHash' : PyStr} (h : keyHash' ≠ keyHash) :
    bothRows id row keyHash record (.record keyHash') = none := by
  simp [bothRows, h]

end RowSets

@[simp] theorem overlay_noRows (T : Tables) : overlay noRows T = T := by
  funext k
  simp [overlay]

/-! ## Transactions that are ready to commit -/

/-- The rows of a finished reservation: new under both primary keys. -/
structure ReserveReady (T : Tables) (p : Store Row) (a : ReserveArgs) (now : Timestamp)
    (row : TransactionRow) (record : IdempotencyRecord) : Prop where
  insert_row : transactionInsert a now = some row
  row_ok : row.admitted = true
  insert_record : recordInsert a now = some record
  record_ok : record.admitted = true
  row_new : T (.transaction row.transactionId) = none
  record_new : T (.record record.idempotencyKeyHash) = none
  pending_eq : p = bothRows row.transactionId row record.idempotencyKeyHash record

/-- The transaction row a completion has updated. -/
structure TransactionReady (T : Tables) (a : CompleteArgs) (now : Timestamp)
    (set : TransactionRow → TransactionRow) (row : TransactionRow) : Prop where
  version_next : a.transaction.version = a.expectedVersion + 1
  update_row : transactionUpdate a now = some set
  row_eq : T (.transaction a.transaction.transactionId) = some row
  version_eq : row.version = a.expectedVersion
  row_ok : (set row).admitted = true

/-- The record a completion has updated. -/
structure RecordReady (T : Tables) (a : CompleteArgs) (now : Timestamp)
    (set : IdempotencyRecord → IdempotencyRecord) (record : IdempotencyRecord) : Prop where
  update_record : recordUpdate a now = some set
  record_eq : T (.record a.keyHash) = some record
  guard_ok : recordGuard a record = true
  record_ok : (set record).admitted = true

/-- The rows of a finished completion. -/
structure CompleteReady (T : Tables) (p : Store Row) (a : CompleteArgs) (now : Timestamp)
    (row row' : TransactionRow) (record record' : IdempotencyRecord) : Prop where
  transaction_ready : ∃ set, TransactionReady T a now set row ∧ row' = set row
  record_ready : ∃ set, RecordReady T a now set record ∧ record' = set record
  pending_eq : p = bothRows a.transaction.transactionId row' a.keyHash record'

/-- The transaction of a call is complete and would commit as it stands. -/
def Ready (T : Tables) (p : Store Row) (now : Timestamp) : CoordinatorCall → Prop
  | .reserve a => ∃ row record, ReserveReady T p a now row record
  | .complete a => ∃ row row' record record', CompleteReady T p a now row row' record record'

/-- A successful call as one atomic step on the tables. -/
def Applies (call : CoordinatorCall) (now : Timestamp) (T T' : Tables) : Prop :=
  ∃ p, Ready T p now call ∧ T' = overlay p T

/-! ## The session invariant -/

/-- The transaction row of a reservation, its values as given. -/
def createdRow (a : ReserveArgs) (now : Timestamp) : TransactionRow :=
  { transactionId := a.transactionId
    merchantId := a.merchantId
    amount := a.amount
    currency := a.currency
    status := py "CREATED"
    pendingOperation := none
    version := 0
    networkReference := none
    authorizationCode := none
    declineCode := none
    createdAt := now
    updatedAt := now }

/-- The record of a reservation, its values as given. -/
def inProgressRecord (a : ReserveArgs) (now : Timestamp) : IdempotencyRecord :=
  { idempotencyKeyHash := a.keyHash
    requestFingerprint := a.requestFingerprint
    processingStatus := py "IN_PROGRESS"
    transactionId := a.transactionId
    storedStatusCode := none
    storedResponseBody := none
    storedHeaders := none
    createdAt := now
    updatedAt := now }

/-- All values of a `reserve` call are admitted by the schema as they are. -/
structure Fits (a : ReserveArgs) : Prop where
  row_fits : ∀ now, transactionInsert a now = some (createdRow a now)
  row_ok : ∀ now, (createdRow a now).admitted = true
  record_fits : ∀ now, recordInsert a now = some (inProgressRecord a now)
  record_ok : ∀ now, (inProgressRecord a now).admitted = true

/-- Values of the columns' types that pass the checks are stored as they are. -/
theorem fits_of {a : ReserveArgs} (hid : varchar 128 a.transactionId = some a.transactionId)
    (hmerchant : varchar 128 a.merchantId = some a.merchantId) (hamount : bigint a.amount = true)
    (hcurrency : varchar 3 a.currency = some a.currency)
    (hrow : (createdRow a 0).admitted = true) (hkey : varchar 64 a.keyHash = some a.keyHash)
    (hfingerprint : varchar 64 a.requestFingerprint = some a.requestFingerprint)
    (hrecord : (inProgressRecord a 0).admitted = true) : Fits a where
  row_fits := by
    intro now
    simp [transactionInsert, hid, hmerchant, hamount, hcurrency, createdRow]
  row_ok := fun _ => hrow
  record_fits := by
    intro now
    simp [recordInsert, hid, hkey, hfingerprint, inProgressRecord]
  record_ok := fun _ => hrecord

/-- An integrity error of an insert of values the schema admits has a committed row behind it. -/
def Conflict (T : Tables) (a : ReserveArgs) : Prop :=
  Fits a → (T (.record a.keyHash)).isSome ∨ (T (.transaction a.transactionId)).isSome

/-- What a call without a running client has left on the server. -/
def OrphanInv (T : Tables) (p : Store Row) (call : CoordinatorCall) : Orphan → Prop
  | .none => p = noRows
  | .abandoned => True
  | .inFlight now => Ready T p now call

def ReserveInv (T : Tables) (p : Store Row) (a : ReserveArgs) (o : Orphan) : ReservePc → Prop
  | .select => o = .none ∧ p = noRows
  | .insertTransaction _ => o = .none ∧ p = noRows
  | .insertRecord now => o = .none ∧ ∃ row, transactionInsert a now = some row ∧
      row.admitted = true ∧ T (.transaction row.transactionId) = none ∧
      p = oneRow row.transactionId row
  | .commitAcquired now => o = .none ∧ Ready T p now (.reserve a)
  | .rollbackConflict => o = .none ∧ Conflict T a
  | .requery => o = .none ∧ p = noRows ∧ Conflict T a
  | .requeryTransaction => o = .none ∧ p = noRows ∧ Conflict T a
  | .commitResult r => o = .none ∧ p = noRows ∧ r.status ≠ .acquired
  | .commitUnexplained => o = .none ∧ p = noRows
  | .rollback _ => o = .none
  | .done _ => OrphanInv T p (.reserve a) o
  | .gone => OrphanInv T p (.reserve a) o

def CompleteInv (T : Tables) (p : Store Row) (a : CompleteArgs) (o : Orphan) : CompletePc → Prop
  | .updateTransaction => o = .none ∧ p = noRows ∧ a.transaction.version = a.expectedVersion + 1
  | .updateRecord now => o = .none ∧ ∃ set row, TransactionReady T a now set row ∧
      p = oneRow a.transaction.transactionId (set row)
  | .commit now => o = .none ∧ Ready T p now (.complete a)
  | .rollback _ => o = .none
  | .done _ => OrphanInv T p (.complete a) o
  | .gone => OrphanInv T p (.complete a) o

def SessionInv (T : Tables) (p : Store Row) : CallState → Orphan → Prop
  | .idle, o => o = .none ∧ p = noRows
  | .reserve a pc, o => ReserveInv T p a o pc
  | .complete a pc, o => CompleteInv T p a o pc

/-! ## Stability under the commits of others -/

/-- `T'` comes from `T` by commits of sessions that hold no row of `p`. -/
structure Undisturbed (T T' : Tables) (p : Store Row) : Prop where
  locked_eq : ∀ k, (p k).isSome → T' k = T k
  kept : ∀ k, (T k).isSome → (T' k).isSome

theorem Conflict.mono {T T' : Tables} {p : Store Row} {a : ReserveArgs} (h : Conflict T a)
    (hT : Undisturbed T T' p) : Conflict T' a := by
  intro hfits
  rcases h hfits with hrecord | htransaction
  · exact .inl (hT.kept _ hrecord)
  · exact .inr (hT.kept _ htransaction)

theorem Ready.mono {T T' : Tables} {p : Store Row} {now : Timestamp} {call : CoordinatorCall}
    (h : Ready T p now call) (hT : Undisturbed T T' p) : Ready T' p now call := by
  cases call with
  | reserve a =>
      rcases h with ⟨row, record, hready⟩
      -- the session holds both keys, so no other one has touched them
      have hrow : T' (.transaction row.transactionId) = T (.transaction row.transactionId) :=
        hT.locked_eq _ (by simp [hready.pending_eq])
      have hrecord :
          T' (.record record.idempotencyKeyHash) = T (.record record.idempotencyKeyHash) :=
        hT.locked_eq _ (by simp [hready.pending_eq])
      exact ⟨row, record,
        { hready with
          row_new := hrow.trans hready.row_new
          record_new := hrecord.trans hready.record_new }⟩
  | complete a =>
      rcases h with ⟨row, row', record, record', hready⟩
      have hrow : T' (.transaction a.transaction.transactionId) =
          T (.transaction a.transaction.transactionId) :=
        hT.locked_eq _ (by simp [hready.pending_eq])
      have hrecord : T' (.record a.keyHash) = T (.record a.keyHash) :=
        hT.locked_eq _ (by simp [hready.pending_eq])
      rcases hready.transaction_ready with ⟨setRow, hsetRow, hrow'⟩
      rcases hready.record_ready with ⟨setRecord, hsetRecord, hrecord'⟩
      exact ⟨row, row', record, record',
        { transaction_ready :=
            ⟨setRow, { hsetRow with row_eq := hrow.trans hsetRow.row_eq }, hrow'⟩
          record_ready :=
            ⟨setRecord, { hsetRecord with record_eq := hrecord.trans hsetRecord.record_eq },
              hrecord'⟩
          pending_eq := hready.pending_eq }⟩

theorem OrphanInv.mono {T T' : Tables} {p : Store Row} {call : CoordinatorCall} {o : Orphan}
    (h : OrphanInv T p call o) (hT : Undisturbed T T' p) : OrphanInv T' p call o := by
  cases o with
  | none =>
      exact h
  | abandoned =>
      trivial
  | inFlight now =>
      exact Ready.mono h hT

theorem ReserveInv.mono {T T' : Tables} {p : Store Row} {a : ReserveArgs} {o : Orphan}
    {pc : ReservePc} (h : ReserveInv T p a o pc) (hT : Undisturbed T T' p) :
    ReserveInv T' p a o pc := by
  -- only the states with writes, or with a conflict seen, speak of the tables
  cases pc with
  | insertRecord now =>
      rcases h with ⟨ho, row, hinsert, hok, hnew, hp⟩
      have hrow : T' (.transaction row.transactionId) = T (.transaction row.transactionId) :=
        hT.locked_eq _ (by simp [hp])
      exact ⟨ho, row, hinsert, hok, hrow.trans hnew, hp⟩
  | commitAcquired now =>
      exact ⟨h.1, Ready.mono h.2 hT⟩
  | rollbackConflict =>
      exact ⟨h.1, h.2.mono hT⟩
  | requery =>
      exact ⟨h.1, h.2.1, h.2.2.mono hT⟩
  | requeryTransaction =>
      exact ⟨h.1, h.2.1, h.2.2.mono hT⟩
  | done r =>
      exact OrphanInv.mono h hT
  | gone =>
      exact OrphanInv.mono h hT
  | _ =>
      exact h

theorem CompleteInv.mono {T T' : Tables} {p : Store Row} {a : CompleteArgs} {o : Orphan}
    {pc : CompletePc} (h : CompleteInv T p a o pc) (hT : Undisturbed T T' p) :
    CompleteInv T' p a o pc := by
  cases pc with
  | updateRecord now =>
      rcases h with ⟨ho, set, row, hready, hp⟩
      have hrow : T' (.transaction a.transaction.transactionId) =
          T (.transaction a.transaction.transactionId) :=
        hT.locked_eq _ (by simp [hp])
      exact ⟨ho, set, row, { hready with row_eq := hrow.trans hready.row_eq }, hp⟩
  | commit now =>
      exact ⟨h.1, Ready.mono h.2 hT⟩
  | done r =>
      exact OrphanInv.mono h hT
  | gone =>
      exact OrphanInv.mono h hT
  | _ =>
      exact h

theorem SessionInv.mono {T T' : Tables} {p : Store Row} {cs : CallState} {o : Orphan}
    (h : SessionInv T p cs o) (hT : Undisturbed T T' p) : SessionInv T' p cs o := by
  cases cs with
  | idle =>
      exact h
  | reserve a pc =>
      exact ReserveInv.mono h hT
  | complete a pc =>
      exact CompleteInv.mono h hT

/-! ## Moves of one session -/

/-- What a step of session `c` may do to the server: keep the lock table consistent, leave the
pending rows of every other session alone, and commit at most its own. -/
structure Move (s s' : Server Row ι) (c : ι) : Prop where
  consistent : s'.Consistent
  others : ∀ c', c' ≠ c → s'.pending c' = s.pending c'
  committed_eq : s'.committed = s.committed ∨ s'.committed = overlay (s.pending c) s.committed

namespace Move

variable {s : Server Row ι} {c : ι}

theorem refl (h : s.Consistent) : Move s s c where
  consistent := h
  others := fun _ _ => rfl
  committed_eq := .inl rfl

variable [DecidableEq ι]

theorem write (h : s.Consistent) {k : Pk} (hfree : s.blocked c k = false) (row : Row k) :
    Move s (s.write c k row) c where
  consistent := h.write hfree row
  others := fun _ hc => s.write_pending_of_ne k row hc
  committed_eq := .inl rfl

theorem rollback (h : s.Consistent) : Move s (s.rollback c) c where
  consistent := h.rollback c
  others := fun _ hc => s.rollback_pending_of_ne hc
  committed_eq := .inl rfl

theorem commit (h : s.Consistent) : Move s (s.commit c) c where
  consistent := h.commit c
  others := fun _ hc => s.commit_pending_of_ne hc
  committed_eq := .inr rfl

/-- A move of `c` does not disturb the rows another session has locked. -/
theorem undisturbed {s' : Server Row ι} (hmove : Move s s' c) (h : s.Consistent) {c' : ι}
    (hc : c' ≠ c) : Undisturbed s.committed s'.committed (s.pending c') := by
  rcases hmove.committed_eq with heq | heq
  · exact ⟨fun k _ => by rw [heq], fun k hk => by rwa [heq]⟩
  · refine ⟨fun k hk => ?_, fun k hk => ?_⟩
    · have hlocked : (s.commit c).committed k = s.committed k :=
        h.commit_committed_eq (fun e => hc e.symm) hk
      simpa [heq] using hlocked
    · have hkept : ((s.commit c).committed k).isSome := Server.commit_committed_isSome c hk
      simpa [heq] using hkept

end Move

/-- A session without pending rows reads the committed tables. -/
theorem view_eq_committed {s : Server Row ι} {c : ι} (h : s.pending c = noRows) (k : Pk) :
    s.view c k = s.committed k :=
  Server.view_of_pending_eq_none (by rw [h]; rfl)

theorem classifyExisting_not_acquired {record : IdempotencyRecord} {fingerprint : PyStr}
    {r : IdempotencyReservation} (h : classifyExisting record fingerprint = .ok r) :
    r.status ≠ .acquired := by
  unfold classifyExisting at h
  split at h
  · cases h
    simp [reservation]
  · split at h
    · cases h
      simp [reservation]
    · split at h
      · split at h <;> cases h <;> simp
      · cases h

theorem afterClassify_inv {T : Tables} {a : ReserveArgs} (record : IdempotencyRecord)
    (fingerprint : PyStr) :
    ReserveInv T noRows a .none (afterClassify (classifyExisting record fingerprint)) := by
  cases h : classifyExisting record fingerprint with
  | error e =>
      rfl
  | ok r =>
      exact ⟨rfl, rfl, classifyExisting_not_acquired h⟩

theorem recordInsert_transactionId {a : ReserveArgs} {now now' : Timestamp} {row : TransactionRow}
    {record : IdempotencyRecord} (hrow : transactionInsert a now = some row)
    (hrecord : recordInsert a now' = some record) : record.transactionId = row.transactionId := by
  unfold transactionInsert at hrow
  unfold recordInsert at hrecord
  split at hrow
  · rename_i id merchant currency hid _ _
    split at hrow
    · cases hrow
      split at hrecord
      · rename_i keyHash fp id' _ _ hid'
        cases hrecord
        exact Option.some.inj (hid'.symm.trans hid)
      · cases hrecord
    · cases hrow
  · cases hrow

/-! ## Refused inserts -/

/-- The insert of values the schema admits stores the values as given. -/
theorem Fits.row_eq {a : ReserveArgs} (h : Fits a) {t : Timestamp} {row : TransactionRow}
    (hinsert : transactionInsert a t = some row) : row = createdRow a t :=
  Option.some.inj (hinsert.symm.trans (h.row_fits t))

theorem Fits.record_eq {a : ReserveArgs} (h : Fits a) {t : Timestamp} {record : IdempotencyRecord}
    (hinsert : recordInsert a t = some record) : record = inProgressRecord a t :=
  Option.some.inj (hinsert.symm.trans (h.record_fits t))

theorem conflict_of_refusedRow {T : Tables} {a : ReserveArgs} {t : Timestamp}
    {row : TransactionRow} (hinsert : transactionInsert a t = some row)
    (hrow : row.admitted ≠ true) : Conflict T a := by
  intro hfits
  rw [hfits.row_eq hinsert] at hrow
  exact absurd (hfits.row_ok t) hrow

theorem conflict_of_refusedRecord {T : Tables} {a : ReserveArgs} {t : Timestamp}
    {record : IdempotencyRecord} (hinsert : recordInsert a t = some record)
    (hrecord : record.admitted ≠ true) : Conflict T a := by
  intro hfits
  rw [hfits.record_eq hinsert] at hrecord
  exact absurd (hfits.record_ok t) hrecord

theorem conflict_of_usedId {T : Tables} {a : ReserveArgs} {t : Timestamp} {row : TransactionRow}
    (hinsert : transactionInsert a t = some row)
    (hused : (T (.transaction row.transactionId)).isSome) : Conflict T a := by
  intro hfits
  rw [hfits.row_eq hinsert] at hused
  exact .inr hused

theorem conflict_of_usedKey {T : Tables} {a : ReserveArgs} {t : Timestamp}
    {record : IdempotencyRecord} (hinsert : recordInsert a t = some record)
    (hused : (T (.record record.idempotencyKeyHash)).isSome) : Conflict T a := by
  intro hfits
  rw [hfits.record_eq hinsert] at hused
  exact .inl hused

/-! ## What the second insert sees -/

section SecondInsert

variable {s : Server Row ι} {c : ι} {id : PyStr} {row : TransactionRow}

/-- After the insert of a transaction row the session still reads the committed records. -/
theorem view_record_of_oneRow (hp : s.pending c = oneRow id row) (keyHash : PyStr) :
    s.view c (.record keyHash) = s.committed (.record keyHash) :=
  Server.view_of_pending_eq_none (by simp [hp])

/-- The foreign key of the record is the row inserted before. -/
theorem refers_of_oneRow {a : ReserveArgs} {t t' : Timestamp} {record : IdempotencyRecord}
    (hp : s.pending c = oneRow row.transactionId row) (hrow : transactionInsert a t = some row)
    (hinsert : recordInsert a t' = some record) :
    (s.view c (.transaction record.transactionId)).isNone = false := by
  rw [recordInsert_transactionId hrow hinsert]
  simp [Server.view, hp]

/-- The unique violation of the second insert is one of its own key. -/
theorem conflict_of_insertRecord {a : ReserveArgs} {t : Timestamp} {record : IdempotencyRecord}
    (hinv : ReserveInv s.committed (s.pending c) a .none (.insertRecord t))
    (hinsert : recordInsert a t = some record)
    (hview : (s.view c (.record record.idempotencyKeyHash)).isSome ∨
      (s.view c (.transaction record.transactionId)).isNone) : Conflict s.committed a := by
  rcases hinv with ⟨_, row, hrow, _, _, hp⟩
  rcases hview with hused | hmissing
  · rw [view_record_of_oneRow hp] at hused
    exact conflict_of_usedKey hinsert hused
  · rw [refers_of_oneRow hp hrow hinsert] at hmissing
    cases hmissing

end SecondInsert

variable [DecidableEq ι]

/-! ## Own steps of `reserve` -/

/-- The first insert finds its primary key free and leaves the row pending. -/
theorem insertedTransaction_inv {s : Server Row ι} {c : ι} {a : ReserveArgs} {t : Timestamp}
    {row : TransactionRow} (hp : s.pending c = noRows) (hinsert : transactionInsert a t = some row)
    (hrow : row.admitted = true) (hview : s.view c (.transaction row.transactionId) = none) :
    ReserveInv (s.write c (.transaction row.transactionId) row).committed
      ((s.write c (.transaction row.transactionId) row).pending c) a .none (.insertRecord t) := by
  have hnew : s.committed (.transaction row.transactionId) = none := by
    rw [← view_eq_committed hp]
    exact hview
  refine ⟨rfl, row, hinsert, hrow, hnew, ?_⟩
  rw [Server.write_pending_self, hp]
  rfl

/-- With the second insert both rows are pending, and the transaction is ready to commit. -/
theorem insertedRecord_inv {s : Server Row ι} {c : ι} {a : ReserveArgs} {t : Timestamp}
    {record : IdempotencyRecord}
    (hinv : ReserveInv s.committed (s.pending c) a .none (.insertRecord t))
    (hinsert : recordInsert a t = some record) (hrecord : record.admitted = true)
    (hview : s.view c (.record record.idempotencyKeyHash) = none) :
    ReserveInv (s.write c (.record record.idempotencyKeyHash) record).committed
      ((s.write c (.record record.idempotencyKeyHash) record).pending c) a .none
      (.commitAcquired t) := by
  rcases hinv with ⟨_, row, hrow, hok, hnew, hp⟩
  rw [view_record_of_oneRow hp] at hview
  refine ⟨rfl, row, record, ?_⟩
  exact
    { insert_row := hrow
      row_ok := hok
      insert_record := hinsert
      record_ok := hrecord
      row_new := hnew
      record_new := hview
      pending_eq := by
        rw [Server.write_pending_self, hp]
        rfl }

/-- One statement of `reserve` is a move of its session and keeps its invariant. -/
theorem reserveStep_inv {s s' : Server Row ι} {c : ι} {a : ReserveArgs} {now : Timestamp}
    {o : Orphan} {pc pc' : ReservePc} (hs : s.Consistent)
    (hinv : ReserveInv s.committed (s.pending c) a o pc)
    (hstep : reserveStep s c a now pc = some (s', pc')) :
    o = .none ∧ Move s s' c ∧ ReserveInv s'.committed (s'.pending c) a .none pc' := by
  cases reserveStatement_of_step hstep with
  | badKey _ =>
      exact ⟨hinv.1, Move.refl hs, rfl⟩
  | found existing _ =>
      rcases hinv with ⟨ho, hp⟩
      refine ⟨ho, Move.refl hs, ?_⟩
      rw [hp]
      exact afterClassify_inv existing a.requestFingerprint
  | absent _ =>
      exact ⟨hinv.1, Move.refl hs, rfl, hinv.2⟩
  | badTransaction t _ | badRecord t _ =>
      exact ⟨hinv.1, Move.refl hs, rfl⟩
  | refusedTransaction t row hinsert hrow =>
      exact ⟨hinv.1, Move.refl hs, rfl, conflict_of_refusedRow hinsert hrow⟩
  | usedId t row other hinsert hview =>
      rcases hinv with ⟨ho, hp⟩
      -- nothing is pending yet, so the other row is committed
      rw [view_eq_committed hp] at hview
      exact ⟨ho, Move.refl hs, rfl,
        conflict_of_usedId hinsert (Option.isSome_iff_exists.mpr ⟨other, hview⟩)⟩
  | insertedTransaction t row hinsert hrow hblocked hview =>
      exact ⟨hinv.1, Move.write hs hblocked row,
        insertedTransaction_inv hinv.2 hinsert hrow hview⟩
  | refusedRecord t record hinsert hrecord =>
      exact ⟨hinv.1, Move.refl hs, rfl, conflict_of_refusedRecord hinsert hrecord⟩
  | usedKey t record hinsert hview =>
      cases hinv.1
      exact ⟨rfl, Move.refl hs, rfl, conflict_of_insertRecord hinv hinsert hview⟩
  | insertedRecord t record hinsert hrecord hblocked hview =>
      cases hinv.1
      exact ⟨rfl, Move.write hs hblocked record, insertedRecord_inv hinv hinsert hrecord hview⟩
  | acquired t | returned r | unexplained =>
      -- the transaction ends and nothing stays pending
      exact ⟨hinv.1, Move.commit hs, s.commit_pending_self c⟩
  | rolledBack =>
      exact ⟨hinv.1, Move.rollback hs, rfl, s.rollback_pending_self c, hinv.2⟩
  | foundAgain existing _ =>
      rcases hinv with ⟨ho, hp, _⟩
      refine ⟨ho, Move.refl hs, ?_⟩
      rw [hp]
      exact afterClassify_inv existing a.requestFingerprint
  | absentAgain _ =>
      rcases hinv with ⟨ho, hp, hconflict⟩
      exact ⟨ho, Move.refl hs, rfl, hp, hconflict⟩
  | conflict existing _ =>
      rcases hinv with ⟨ho, hp, _⟩
      exact ⟨ho, Move.refl hs, rfl, hp, by simp [reservation]⟩
  | noConflict _ =>
      rcases hinv with ⟨ho, hp, _⟩
      exact ⟨ho, Move.refl hs, rfl, hp⟩
  | raised e =>
      exact ⟨hinv, Move.rollback hs, s.rollback_pending_self c⟩

/-! ## Own steps of `complete` -/

/-- One statement of `complete` is a move of its session and keeps its invariant. -/
theorem completeStep_inv {s s' : Server Row ι} {c : ι} {a : CompleteArgs} {now : Timestamp}
    {o : Orphan} {pc pc' : CompletePc} (hs : s.Consistent)
    (hinv : CompleteInv s.committed (s.pending c) a o pc)
    (hstep : completeStep s c a now pc = some (s', pc')) :
    o = .none ∧ Move s s' c ∧ CompleteInv s'.committed (s'.pending c) a .none pc' := by
  cases completeStatement_of_step hstep with
  | badTransaction _ =>
      exact ⟨hinv.1, Move.refl hs, rfl⟩
  | missedTransaction _ =>
      exact ⟨hinv.1, Move.refl hs, rfl⟩
  | refusedTransaction set row _ _ _ =>
      exact ⟨hinv.1, Move.refl hs, rfl⟩
  | updatedTransaction set row hset hview hversion hblocked hok =>
      rcases hinv with ⟨ho, hp, hnext⟩
      rw [view_eq_committed hp] at hview
      refine ⟨ho, Move.write hs hblocked (set row), rfl, set, row, ?_, ?_⟩
      · exact
          { version_next := hnext
            update_row := hset
            row_eq := hview
            version_eq := hversion
            row_ok := hok }
      · rw [Server.write_pending_self, hp]
        rfl
  | badRecord t _ =>
      exact ⟨hinv.1, Move.refl hs, rfl⟩
  | missedRecord t _ =>
      exact ⟨hinv.1, Move.refl hs, rfl⟩
  | refusedRecord t set record _ _ _ =>
      exact ⟨hinv.1, Move.refl hs, rfl⟩
  | updatedRecord t set record hset hview hguard hblocked hok =>
      rcases hinv with ⟨ho, setRow, row, hready, hp⟩
      -- only the transaction row is pending, so the record it sees is the committed one
      rw [view_record_of_oneRow hp] at hview
      refine ⟨ho, Move.write hs hblocked (set record), rfl, row, setRow row, record, set record, ?_⟩
      exact
        { transaction_ready := ⟨setRow, hready, rfl⟩
          record_ready :=
            ⟨set,
              { update_record := hset
                record_eq := hview
                guard_ok := hguard
                record_ok := hok }, rfl⟩
          pending_eq := by
            rw [Server.write_pending_self, hp]
            rfl }
  | committed t =>
      exact ⟨hinv.1, Move.commit hs, s.commit_pending_self c⟩
  | raised e =>
      exact ⟨hinv, Move.rollback hs, s.rollback_pending_self c⟩

end Infrastructure
end TransactionPlatform
