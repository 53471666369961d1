import TransactionPlatform.Infrastructure.Atomicity
import TransactionPlatform.Lib.Likeness

/-!
# Renaming — calls that cannot tell digests and clocks apart

The coordinator only ever compares a key hash with a key hash and a fingerprint with a fingerprint,
and it never reads a timestamp.  So two systems whose digests correspond one to one, and whose
clocks may differ, make the same moves: `Renaming.step_like`.  A renaming also says which transaction
ids are in view; rows under any other key are not compared.
-/

namespace TransactionPlatform
namespace Infrastructure

open Text Domain Ports ReadCommitted

/-! ## Digests -/

/-- 64 lower-case hexadecimal digits. -/
def IsDigest (s : PyStr) : Prop :=
  matchesClass lowerHex 64 s = true

namespace IsDigest

variable {s : PyStr}

theorem length_eq (h : IsDigest s) : s.length = 64 := by
  unfold IsDigest matchesClass at h
  rw [Bool.and_eq_true] at h
  exact of_decide_eq_true h.1

theorem text (h : IsDigest s) : pgText s = true := by
  unfold IsDigest matchesClass at h
  rw [Bool.and_eq_true] at h
  apply pgText_of_ascii
  intro c hc
  have hhex := List.all_eq_true.mp h.2 c hc
  simp only [lowerHex, Bool.or_eq_true, Bool.and_eq_true, decide_eq_true_eq] at hhex
  omega

/-- A digest is stored as it is. -/
theorem fits (h : IsDigest s) : varchar 64 s = some s := by
  have hlength : s.length ≤ 64 := h.length_eq.le
  simp [varchar, h.text, hlength]

end IsDigest

/-! ## Renamings -/

/-- Key hashes and fingerprints that correspond one to one. -/
structure DigestPairs where
  keyHash : PyStr → PyStr → Prop
  fingerprint : PyStr → PyStr → Prop
  keyHash_unique : Relator.BiUnique keyHash
  fingerprint_unique : Relator.BiUnique fingerprint
  keyHash_digest : ∀ k k', keyHash k k' → IsDigest k ∧ IsDigest k'
  fingerprint_digest : ∀ f f', fingerprint f f' → IsDigest f ∧ IsDigest f'

/-- No digest has been stored yet. -/
def DigestPairs.none : DigestPairs :=
  { keyHash := fun _ _ => False
    fingerprint := fun _ _ => False
    keyHash_unique := ⟨fun _ _ _ h => h.elim, fun _ _ _ h => h.elim⟩
    fingerprint_unique := ⟨fun _ _ _ h => h.elim, fun _ _ _ h => h.elim⟩
    keyHash_digest := fun _ _ h => h.elim
    fingerprint_digest := fun _ _ h => h.elim }

structure Renaming extends DigestPairs where
  time : Timestamp → Timestamp → Prop
  ids : PyStr → Prop

namespace Renaming

variable {R : Renaming}

/-- Two transaction rows that differ in their times only. -/
inductive LikeTransactions (R : Renaming) (row : TransactionRow) : TransactionRow → Prop
  | intro (createdAt updatedAt : Timestamp) (hcreated : R.time row.createdAt createdAt)
      (hupdated : R.time row.updatedAt updatedAt) :
      LikeTransactions R row { row with createdAt := createdAt, updatedAt := updatedAt }

/-- Two records that differ in their digests and times only. -/
inductive LikeRecords (R : Renaming) (record : IdempotencyRecord) : IdempotencyRecord → Prop
  | intro (keyHash requestFingerprint : PyStr) (createdAt updatedAt : Timestamp)
      (hkey : R.keyHash record.idempotencyKeyHash keyHash)
      (hprint : R.fingerprint record.requestFingerprint requestFingerprint)
      (hcreated : R.time record.createdAt createdAt)
      (hupdated : R.time record.updatedAt updatedAt) :
      LikeRecords R record
        { record with
          idempotencyKeyHash := keyHash
          requestFingerprint := requestFingerprint
          createdAt := createdAt
          updatedAt := updatedAt }

def keys (R : Renaming) : Pk → Pk → Prop
  | .transaction id, .transaction id' => id = id' ∧ R.ids id
  | .record k, .record k' => R.keyHash k k'
  | _, _ => False

def rows (R : Renaming) : ∀ k k', Row k → Row k' → Prop
  | .transaction _, .transaction _, row, row' => R.LikeTransactions row row'
  | .record _, .record _, record, record' => R.LikeRecords record record'
  | .transaction _, .record _, _, _ => False
  | .record _, .transaction _, _, _ => False

theorem keys_unique (R : Renaming) : Relator.BiUnique R.keys := by
  constructor
  · intro k₁ k' k₂ h₁ h₂
    cases k₁ <;> cases k₂ <;> cases k' <;> simp only [keys] at h₁ h₂
    · rw [h₁.1, h₂.1]
    · rw [R.keyHash_unique.1 h₁ h₂]
  · intro k k₁ k₂ h₁ h₂
    cases k <;> cases k₁ <;> cases k₂ <;> simp only [keys] at h₁ h₂
    · rw [← h₁.1, ← h₂.1]
    · rw [R.keyHash_unique.2 h₁ h₂]

/-- The likeness of a renaming, for the sessions in `C`. -/
def likeness {ι : Type} (R : Renaming) (C : ι → Prop) : Likeness Row ι :=
  { keys := R.keys
    rows := R.rows
    sessions := C
    keys_unique := R.keys_unique }

theorem LikeTransactions.admitted {row row' : TransactionRow} (h : R.LikeTransactions row row') :
    row'.admitted = row.admitted := by
  cases h
  rfl

theorem LikeRecords.admitted {record record' : IdempotencyRecord} (h : R.LikeRecords record record') :
    record'.admitted = record.admitted := by
  cases h with
  | intro keyHash requestFingerprint createdAt updatedAt hkey hprint hcreated hupdated =>
      rcases R.keyHash_digest _ _ hkey with ⟨hold, hnew⟩
      rcases R.fingerprint_digest _ _ hprint with ⟨hold', hnew'⟩
      unfold IsDigest at hold hnew hold' hnew'
      simp only [IdempotencyRecord.admitted, hold, hnew, hold', hnew',
        IdempotencyRecord.payloadIntegrity, IdempotencyRecord.storedStatusCodeRange,
        IdempotencyRecord.storedHeadersAllowlist]

/-! ## Arguments -/

inductive LikeReserve (R : Renaming) (a : ReserveArgs) : ReserveArgs → Prop
  | intro (keyHash requestFingerprint : PyStr) (hkey : R.keyHash a.keyHash keyHash)
      (hprint : R.fingerprint a.requestFingerprint requestFingerprint)
      (hid : R.ids a.transactionId)
      (hstored : ∀ id, varchar 128 a.transactionId = some id → R.ids id) :
      LikeReserve R a { a with keyHash := keyHash, requestFingerprint := requestFingerprint }

inductive LikeComplete (R : Renaming) (a : CompleteArgs) : CompleteArgs → Prop
  | intro (keyHash : PyStr) (hkey : R.keyHash a.keyHash keyHash)
      (hid : R.ids a.transaction.transactionId) :
      LikeComplete R a { a with keyHash := keyHash }

theorem LikeReserve.keyHash {a a' : ReserveArgs} (h : R.LikeReserve a a') :
    R.keyHash a.keyHash a'.keyHash := by
  cases h
  assumption

theorem LikeComplete.envelope {a a' : CompleteArgs} (h : R.LikeComplete a a') :
    a'.envelope = a.envelope := by
  cases h
  rfl

/-- One message of `complete` names the key hash. -/
inductive LikeExceptions (R : Renaming) : Exc → Exc → Prop
  | same (e : Exc) : LikeExceptions R e e
  | recordNotUpdated {a a' : CompleteArgs} (h : R.LikeComplete a a') :
      LikeExceptions R (recordNotUpdated a) (recordNotUpdated a')

inductive LikeCalls (R : Renaming) : CoordinatorCall → CoordinatorCall → Prop
  | reserve {a a' : ReserveArgs} (h : R.LikeReserve a a') : LikeCalls R (.reserve a) (.reserve a')
  | complete {a a' : CompleteArgs} (h : R.LikeComplete a a') :
      LikeCalls R (.complete a) (.complete a')

/-! ## Program counters -/

inductive LikeReservePc (R : Renaming) : ReservePc → ReservePc → Prop
  | select : LikeReservePc R .select .select
  | insertTransaction {t t' : Timestamp} (ht : R.time t t') :
      LikeReservePc R (.insertTransaction t) (.insertTransaction t')
  | insertRecord {t t' : Timestamp} (ht : R.time t t') :
      LikeReservePc R (.insertRecord t) (.insertRecord t')
  | commitAcquired {t t' : Timestamp} (ht : R.time t t') :
      LikeReservePc R (.commitAcquired t) (.commitAcquired t')
  | rollbackConflict : LikeReservePc R .rollbackConflict .rollbackConflict
  | requery : LikeReservePc R .requery .requery
  | requeryTransaction : LikeReservePc R .requeryTransaction .requeryTransaction
  | commitResult (r : IdempotencyReservation) : LikeReservePc R (.commitResult r) (.commitResult r)
  | commitUnexplained : LikeReservePc R .commitUnexplained .commitUnexplained
  | rollback (e : Exc) : LikeReservePc R (.rollback e) (.rollback e)
  | done (r : Except Exc IdempotencyReservation) : LikeReservePc R (.done r) (.done r)
  | gone : LikeReservePc R .gone .gone

inductive LikeCompletePc (R : Renaming) : CompletePc → CompletePc → Prop
  | updateTransaction : LikeCompletePc R .updateTransaction .updateTransaction
  | updateRecord {t t' : Timestamp} (ht : R.time t t') :
      LikeCompletePc R (.updateRecord t) (.updateRecord t')
  | commit {t t' : Timestamp} (ht : R.time t t') : LikeCompletePc R (.commit t) (.commit t')
  | rollback {e e' : Exc} (he : R.LikeExceptions e e') :
      LikeCompletePc R (.rollback e) (.rollback e')
  | completed : LikeCompletePc R (.done (.ok ())) (.done (.ok ()))
  | raised {e e' : Exc} (he : R.LikeExceptions e e') :
      LikeCompletePc R (.done (.error e)) (.done (.error e'))
  | gone : LikeCompletePc R .gone .gone

theorem LikeReservePc.afterClassify (x : Except Exc IdempotencyReservation) :
    R.LikeReservePc (afterClassify x) (afterClassify x) := by
  cases x with
  | ok r =>
      exact .commitResult r
  | error e =>
      exact .rollback e

/-- A record and a fingerprint classify as their counterparts do. -/
theorem classifyExisting_like {record record' : IdempotencyRecord} {f f' : PyStr}
    (h : R.LikeRecords record record') (hf : R.fingerprint f f') :
    classifyExisting record' f' = classifyExisting record f := by
  cases h with
  | intro keyHash requestFingerprint createdAt updatedAt hkey hprint hcreated hupdated =>
      have hiff : requestFingerprint ≠ f' ↔ record.requestFingerprint ≠ f := by
        refine not_congr ⟨?_, ?_⟩
        · rintro rfl
          exact R.fingerprint_unique.1 hprint hf
        · intro heq
          rw [heq] at hprint
          exact R.fingerprint_unique.2 hprint hf
      unfold classifyExisting
      simp only [hiff]

/-! ## Values of the statements -/

theorem transactionInsert_like {a a' : ReserveArgs} (h : R.LikeReserve a a') {t t' : Timestamp}
    (ht : R.time t t') :
    Option.Rel R.LikeTransactions (transactionInsert a t) (transactionInsert a' t') := by
  cases h
  unfold transactionInsert
  dsimp only
  split
  · split
    · exact .some (.intro t' t' ht ht)
    · exact .none
  · exact .none

theorem transactionInsert_ids {a a' : ReserveArgs} (h : R.LikeReserve a a') {t : Timestamp}
    {row : TransactionRow} (hrow : transactionInsert a t = some row) : R.ids row.transactionId := by
  cases h with
  | intro keyHash requestFingerprint hkey hprint hid hstored =>
      unfold transactionInsert at hrow
      split at hrow
      · rename_i id merchantId currency hvarchar _ _
        split at hrow
        · cases hrow
          exact hstored id hvarchar
        · cases hrow
      · cases hrow

theorem recordInsert_like {a a' : ReserveArgs} (h : R.LikeReserve a a') {t t' : Timestamp}
    (ht : R.time t t') :
    Option.Rel R.LikeRecords (recordInsert a t) (recordInsert a' t') := by
  cases h with
  | intro keyHash requestFingerprint hkey hprint hid hstored =>
      rcases R.keyHash_digest _ _ hkey with ⟨hold, hnew⟩
      rcases R.fingerprint_digest _ _ hprint with ⟨hold', hnew'⟩
      unfold recordInsert
      rw [hold.fits, hnew.fits, hold'.fits, hnew'.fits]
      cases varchar 128 a.transactionId with
      | none =>
          exact .none
      | some id =>
          exact .some (.intro keyHash requestFingerprint t' t' hkey hprint ht ht)

theorem recordInsert_ids {a a' : ReserveArgs} (h : R.LikeReserve a a') {t : Timestamp}
    {record : IdempotencyRecord} (hrecord : recordInsert a t = some record) :
    R.ids record.transactionId := by
  cases h with
  | intro keyHash requestFingerprint hkey hprint hid hstored =>
      unfold recordInsert at hrecord
      split at hrecord
      · rename_i key print id _ _ hvarchar
        cases hrecord
        exact hstored id hvarchar
      · cases hrecord

/-- Paired updates take paired rows to paired rows. -/
def LikeSets {α : Type} (rel : α → α → Prop) (set set' : α → α) : Prop :=
  ∀ x x', rel x x' → rel (set x) (set' x')

theorem transactionUpdate_like {a a' : CompleteArgs} (h : R.LikeComplete a a') {t t' : Timestamp}
    (ht : R.time t t') :
    Option.Rel (LikeSets R.LikeTransactions) (transactionUpdate a t) (transactionUpdate a' t') := by
  cases h
  unfold transactionUpdate
  dsimp only
  split
  · split
    · refine .some ?_
      rintro row _ ⟨createdAt, updatedAt, hcreated, hupdated⟩
      exact .intro createdAt t' hcreated ht
    · exact .none
  · exact .none

theorem recordUpdate_like {a a' : CompleteArgs} (h : R.LikeComplete a a') {t t' : Timestamp}
    (ht : R.time t t') :
    Option.Rel (LikeSets R.LikeRecords) (recordUpdate a t) (recordUpdate a' t') := by
  cases h with
  | intro keyHash hkey hid =>
      rcases R.keyHash_digest _ _ hkey with ⟨hold, hnew⟩
      unfold recordUpdate
      simp only [hold.text, hnew.text]
      split
      · refine .some ?_
        rintro record _ ⟨keyHash', requestFingerprint, createdAt, updatedAt, hkey', hprint,
          hcreated, hupdated⟩
        exact .intro keyHash' requestFingerprint createdAt t' hkey' hprint hcreated ht
      · exact .none

/-! ## One statement -/

section Statements

variable {ι : Type} {C : ι → Prop} {s s' : Server Row ι} {c : ι}

/-- What a call leaves: the server and the next statement. -/
def LikeReserved (R : Renaming) (C : ι → Prop) (x x' : Server Row ι × ReservePc) : Prop :=
  (R.likeness C).Servers x.1 x'.1 ∧ R.LikeReservePc x.2 x'.2

def LikeCompleted (R : Renaming) (C : ι → Prop) (x x' : Server Row ι × CompletePc) : Prop :=
  (R.likeness C).Servers x.1 x'.1 ∧ R.LikeCompletePc x.2 x'.2

theorem keys_transaction {id : PyStr} (hid : R.ids id) :
    (R.likeness C).keys (.transaction id) (.transaction id) :=
  ⟨rfl, hid⟩

theorem keys_record {k k' : PyStr} (hk : R.keyHash k k') :
    (R.likeness C).keys (.record k) (.record k') :=
  hk

theorem view_transaction (hs : (R.likeness C).Servers s s') (hc : C c) {id : PyStr}
    (hid : R.ids id) :
    Option.Rel R.LikeTransactions (s.view c (.transaction id)) (s'.view c (.transaction id)) :=
  hs.view hc (keys_transaction hid)

theorem view_record (hs : (R.likeness C).Servers s s') (hc : C c) {k k' : PyStr}
    (hk : R.keyHash k k') :
    Option.Rel R.LikeRecords (s.view c (.record k)) (s'.view c (.record k')) :=
  hs.view hc (keys_record hk)

/-- Reading the record of the key and classifying it, as the first and the repeated query do. -/
theorem classified_like (hs : (R.likeness C).Servers s s') (hc : C c) {a a' : ReserveArgs}
    (ha : R.LikeReserve a a') {pc pc' : ReservePc} (hpc : R.LikeReservePc pc pc') :
    Option.Rel (R.LikeReserved C)
      (match s.view c (.record a.keyHash) with
        | some existing => some (s, afterClassify (classifyExisting existing a.requestFingerprint))
        | none => some (s, pc))
      (match s'.view c (.record a'.keyHash) with
        | some existing => some (s', afterClassify (classifyExisting existing a'.requestFingerprint))
        | none => some (s', pc')) := by
  cases ha with
  | intro keyHash requestFingerprint hkey hprint hid hstored =>
      rcases rel_cases (view_record hs hc hkey) with ⟨h, h'⟩ | ⟨record, record', h, h', hrecord⟩
      · simp only [h, h']
        exact .some ⟨hs, hpc⟩
      · simp only [h, h', classifyExisting_like hrecord hprint]
        exact .some ⟨hs, LikeReservePc.afterClassify _⟩

variable [DecidableEq ι]

theorem blocked_transaction (hs : (R.likeness C).Servers s s') {id : PyStr} (hid : R.ids id) :
    s'.blocked c (.transaction id) = s.blocked c (.transaction id) :=
  (hs.blocked (keys_transaction hid)).symm

theorem blocked_record (hs : (R.likeness C).Servers s s') {k k' : PyStr} (hk : R.keyHash k k') :
    s'.blocked c (.record k') = s.blocked c (.record k) :=
  (hs.blocked (keys_record hk)).symm

theorem write_transaction (hs : (R.likeness C).Servers s s') (hc : C c) {id : PyStr}
    (hid : R.ids id) {row row' : TransactionRow} (hrow : R.LikeTransactions row row') :
    (R.likeness C).Servers (s.write c (.transaction id) row) (s'.write c (.transaction id) row') :=
  hs.write hc (keys_transaction hid) hrow

theorem write_record (hs : (R.likeness C).Servers s s') (hc : C c) {k k' : PyStr}
    (hk : R.keyHash k k') {record record' : IdempotencyRecord}
    (hrecord : R.LikeRecords record record') :
    (R.likeness C).Servers (s.write c (.record k) record) (s'.write c (.record k') record') :=
  hs.write hc (keys_record hk) hrecord

theorem insertTransaction_like (hs : (R.likeness C).Servers s s') (hc : C c) {a a' : ReserveArgs}
    (ha : R.LikeReserve a a') {t t' now now' : Timestamp} (ht : R.time t t') :
    Option.Rel (R.LikeReserved C) (reserveStep s c a now (.insertTransaction t))
      (reserveStep s' c a' now' (.insertTransaction t')) := by
  have herror : transactionInsertError a' = transactionInsertError a := by
    cases ha
    rfl
  rcases rel_cases (transactionInsert_like ha ht) with ⟨h, h'⟩ | ⟨row, row', h, h', hrow⟩
  · simp only [reserveStep, h, h', herror]
    exact .some ⟨hs, .rollback _⟩
  · have hid : R.ids row.transactionId := transactionInsert_ids ha h
    have hadmitted := hrow.admitted
    have hwrite := write_transaction hs hc hid hrow
    have hview := rel_isSome (view_transaction hs hc hid)
    cases hrow
    simp only [reserveStep, h, h', hadmitted, blocked_transaction hs hid, ← hview]
    split
    · split
      · exact .none
      · split
        · exact .some ⟨hs, .rollbackConflict⟩
        · exact .some ⟨hwrite, .insertRecord ht⟩
    · exact .some ⟨hs, .rollbackConflict⟩

theorem insertRecord_like (hs : (R.likeness C).Servers s s') (hc : C c) {a a' : ReserveArgs}
    (ha : R.LikeReserve a a') {t t' now now' : Timestamp} (ht : R.time t t') :
    Option.Rel (R.LikeReserved C) (reserveStep s c a now (.insertRecord t))
      (reserveStep s' c a' now' (.insertRecord t')) := by
  rcases rel_cases (recordInsert_like ha ht) with ⟨h, h'⟩ | ⟨record, record', h, h', hrecord⟩
  · simp only [reserveStep, h, h']
    exact .some ⟨hs, .rollback _⟩
  · have hid : R.ids record.transactionId := recordInsert_ids ha h
    have hadmitted := hrecord.admitted
    have hkey : R.keyHash record.idempotencyKeyHash record'.idempotencyKeyHash := by
      cases hrecord
      assumption
    have hwrite := write_record hs hc hkey hrecord
    have hview := rel_isSome (view_record hs hc hkey)
    have hnone := rel_isNone (view_transaction hs hc hid)
    cases hrecord
    simp only [reserveStep, h, h', hadmitted, blocked_record hs hkey, ← hview, ← hnone]
    split
    · split
      · exact .none
      · split
        · exact .some ⟨hs, .rollbackConflict⟩
        · exact .some ⟨hwrite, .commitAcquired ht⟩
    · exact .some ⟨hs, .rollbackConflict⟩

/-- A statement of `reserve` cannot tell the two servers apart. -/
theorem reserveStep_like (hs : (R.likeness C).Servers s s') (hc : C c) {a a' : ReserveArgs}
    (ha : R.LikeReserve a a') {now now' : Timestamp} (hnow : R.time now now') {pc pc' : ReservePc}
    (hpc : R.LikeReservePc pc pc') :
    Option.Rel (R.LikeReserved C) (reserveStep s c a now pc) (reserveStep s' c a' now' pc') := by
  cases hpc with
  | select =>
      have htexts : pgText a.keyHash = true ∧ pgText a'.keyHash = true := by
        -- both parameters can be bound: a digest is plain text
        cases ha with
        | intro keyHash requestFingerprint hkey hprint hid hstored =>
            rcases R.keyHash_digest _ _ hkey with ⟨hold, hnew⟩
            exact ⟨hold.text, hnew.text⟩
      simp only [reserveStep, htexts.1, htexts.2, if_true]
      exact classified_like hs hc ha (.insertTransaction hnow)
  | insertTransaction ht =>
      exact insertTransaction_like hs hc ha ht
  | insertRecord ht =>
      exact insertRecord_like hs hc ha ht
  | commitAcquired ht =>
      exact .some ⟨hs.commit hc, .done _⟩
  | rollbackConflict =>
      exact .some ⟨hs.rollback c, .requery⟩
  | requery =>
      exact classified_like hs hc ha .requeryTransaction
  | requeryTransaction =>
      cases ha with
      | intro keyHash requestFingerprint hkey hprint hid hstored =>
          rcases rel_cases (view_transaction hs hc hid) with ⟨h, h'⟩ | ⟨row, row', h, h', hrow⟩
          · simp only [reserveStep, h, h']
            exact .some ⟨hs, .commitUnexplained⟩
          · simp only [reserveStep, h, h']
            exact .some ⟨hs, .commitResult _⟩
  | commitResult r =>
      exact .some ⟨hs.commit hc, .done _⟩
  | commitUnexplained =>
      exact .some ⟨hs.commit hc, .done _⟩
  | rollback e =>
      exact .some ⟨hs.rollback c, .done _⟩
  | done r =>
      exact .none
  | gone =>
      exact .none

theorem updateTransaction_like (hs : (R.likeness C).Servers s s') (hc : C c) {a a' : CompleteArgs}
    (ha : R.LikeComplete a a') {now now' : Timestamp} (hnow : R.time now now') :
    Option.Rel (R.LikeCompleted C) (completeStep s c a now .updateTransaction)
      (completeStep s' c a' now' .updateTransaction) := by
  have hset := transactionUpdate_like ha hnow
  cases ha with
  | intro keyHash hkey hid =>
      rcases rel_cases hset with ⟨h, h'⟩ | ⟨set, set', h, h', hlike⟩
      · simp only [completeStep, h, h']
        exact .some ⟨hs, .rollback (.same _)⟩
      · rcases rel_cases (view_transaction hs hc hid) with ⟨hv, hv'⟩ | ⟨row, row', hv, hv', hrow⟩
        · simp only [completeStep, h, h', hv, hv']
          exact .some ⟨hs, .rollback (.same (transactionNotUpdated a))⟩
        · have hversion : row'.version = row.version := by
            cases hrow
            rfl
          simp only [completeStep, h, h', hv, hv', hversion, blocked_transaction hs hid,
            (hlike row row' hrow).admitted]
          split
          · split
            · exact .none
            · split
              · exact .some ⟨write_transaction hs hc hid (hlike row row' hrow), .updateRecord hnow⟩
              · exact .some ⟨hs, .rollback (.same _)⟩
          · exact .some ⟨hs, .rollback (.same (transactionNotUpdated a))⟩

theorem updateRecord_like (hs : (R.likeness C).Servers s s') (hc : C c) {a a' : CompleteArgs}
    (ha : R.LikeComplete a a') {t t' now now' : Timestamp} (ht : R.time t t') :
    Option.Rel (R.LikeCompleted C) (completeStep s c a now (.updateRecord t))
      (completeStep s' c a' now' (.updateRecord t')) := by
  have hset := recordUpdate_like ha ht
  have hraised := LikeExceptions.recordNotUpdated ha
  cases ha with
  | intro keyHash hkey hid =>
      rcases rel_cases hset with ⟨h, h'⟩ | ⟨set, set', h, h', hlike⟩
      · simp only [completeStep, h, h']
        exact .some ⟨hs, .rollback (.same _)⟩
      · rcases rel_cases (view_record hs hc hkey) with
          ⟨hv, hv'⟩ | ⟨record, record', hv, hv', hrecord⟩
        · simp only [completeStep, h, h', hv, hv']
          exact .some ⟨hs, .rollback hraised⟩
        · -- the guard reads the columns that are the same on both sides
          have hguard : recordGuard { a with keyHash := keyHash } record' = recordGuard a record := by
            cases hrecord
            rfl
          simp only [completeStep, h, h', hv, hv', hguard, blocked_record hs hkey,
            (hlike record record' hrecord).admitted]
          split
          · split
            · exact .none
            · split
              · exact .some ⟨write_record hs hc hkey (hlike record record' hrecord), .commit ht⟩
              · exact .some ⟨hs, .rollback (.same _)⟩
          · exact .some ⟨hs, .rollback hraised⟩

/-- A statement of `complete` cannot tell the two servers apart. -/
theorem completeStep_like (hs : (R.likeness C).Servers s s') (hc : C c) {a a' : CompleteArgs}
    (ha : R.LikeComplete a a') {now now' : Timestamp} (hnow : R.time now now') {pc pc' : CompletePc}
    (hpc : R.LikeCompletePc pc pc') :
    Option.Rel (R.LikeCompleted C) (completeStep s c a now pc) (completeStep s' c a' now' pc') := by
  cases hpc with
  | updateTransaction =>
      exact updateTransaction_like hs hc ha hnow
  | updateRecord ht =>
      exact updateRecord_like hs hc ha ht
  | commit ht =>
      exact .some ⟨hs.commit hc, .completed⟩
  | rollback he =>
      exact .some ⟨hs.rollback c, .raised he⟩
  | completed =>
      exact .none
  | raised he =>
      exact .none
  | gone =>
      exact .none

end Statements

/-! ## Concurrent calls -/

inductive LikeCallStates (R : Renaming) : CallState → CallState → Prop
  | idle : LikeCallStates R .idle .idle
  | reserve {a a' : ReserveArgs} {pc pc' : ReservePc} (ha : R.LikeReserve a a')
      (hpc : R.LikeReservePc pc pc') : LikeCallStates R (.reserve a pc) (.reserve a' pc')
  | complete {a a' : CompleteArgs} {pc pc' : CompletePc} (ha : R.LikeComplete a a')
      (hpc : R.LikeCompletePc pc pc') : LikeCallStates R (.complete a pc) (.complete a' pc')

inductive LikeOrphans (R : Renaming) : Orphan → Orphan → Prop
  | none : LikeOrphans R .none .none
  | abandoned : LikeOrphans R .abandoned .abandoned
  | inFlight {t t' : Timestamp} (ht : R.time t t') : LikeOrphans R (.inFlight t) (.inFlight t')

inductive LikeEvents {ι : Type} (R : Renaming) : CoordinatorEvent ι → CoordinatorEvent ι → Prop
  | start (c : ι) {call call' : CoordinatorCall} (h : R.LikeCalls call call') :
      LikeEvents R (.start c call) (.start c call')
  | step (c : ι) {now now' : Timestamp} (ht : R.time now now') :
      LikeEvents R (.step c now) (.step c now')
  | fail (c : ι) (fault : Fault) : LikeEvents R (.fail c fault) (.fail c fault)
  | kill (c : ι) : LikeEvents R (.kill c) (.kill c)
  | land (c : ι) : LikeEvents R (.land c) (.land c)
  | reap (c : ι) : LikeEvents R (.reap c) (.reap c)

section Calls

variable {ι : Type} {C : ι → Prop}

/-- The servers are alike, and every call in view is where its counterpart is. -/
structure LikeCoordinations (R : Renaming) (C : ι → Prop) (s s' : Coordination ι) : Prop where
  server : (R.likeness C).Servers s.server s'.server
  call : ∀ c, C c → R.LikeCallStates (s.call c) (s'.call c)
  orphan : ∀ c, C c → R.LikeOrphans (s.orphan c) (s'.orphan c)

theorem LikeCalls.begin {call call' : CoordinatorCall} (h : R.LikeCalls call call') :
    R.LikeCallStates call.begin call'.begin := by
  cases h with
  | reserve ha =>
      exact .reserve ha .select
  | @complete a a' ha =>
      refine .complete ha ?_
      cases ha with
      | intro keyHash hkey hid =>
          by_cases hversion : a.transaction.version = a.expectedVersion + 1
          · simp only [completeStart, hversion, ne_eq, not_true_eq_false, if_false]
            exact .updateTransaction
          · simp only [completeStart, hversion, ne_eq, not_false_eq_true, if_true]
            exact .raised (.same (versionMismatch a))

theorem reserveFail_like (e : Exc) {pc pc' : ReservePc} (h : R.LikeReservePc pc pc') :
    Option.Rel (fun x x' => R.LikeReservePc x.1 x'.1 ∧ R.LikeOrphans x.2 x'.2) (reserveFail e pc)
      (reserveFail e pc') := by
  cases h with
  | commitAcquired ht =>
      exact .some ⟨.done _, .inFlight ht⟩
  | done r =>
      exact .none
  | gone =>
      exact .none
  | _ =>
      all_goals first
        | exact .some ⟨.done _, .abandoned⟩
        | exact .some ⟨.rollback e, .none⟩

theorem completeFail_like (e : Exc) {pc pc' : CompletePc} (h : R.LikeCompletePc pc pc') :
    Option.Rel (fun x x' => R.LikeCompletePc x.1 x'.1 ∧ R.LikeOrphans x.2 x'.2) (completeFail e pc)
      (completeFail e pc') := by
  cases h with
  | updateTransaction =>
      exact .some ⟨.rollback (.same e), .none⟩
  | updateRecord ht =>
      exact .some ⟨.rollback (.same e), .none⟩
  | commit ht =>
      exact .some ⟨.raised (.same e), .inFlight ht⟩
  | rollback he =>
      exact .some ⟨.raised (.same e), .abandoned⟩
  | _ =>
      exact .none

theorem reserveKill_like {pc pc' : ReservePc} (h : R.LikeReservePc pc pc') :
    Option.Rel R.LikeOrphans (reserveKill pc) (reserveKill pc') := by
  cases h with
  | commitAcquired ht =>
      exact .some (.inFlight ht)
  | done r =>
      exact .none
  | gone =>
      exact .none
  | _ =>
      exact .some .abandoned

theorem completeKill_like {pc pc' : CompletePc} (h : R.LikeCompletePc pc pc') :
    Option.Rel R.LikeOrphans (completeKill pc) (completeKill pc') := by
  cases h with
  | commit ht =>
      exact .some (.inFlight ht)
  | updateTransaction =>
      exact .some .abandoned
  | updateRecord ht =>
      exact .some .abandoned
  | rollback he =>
      exact .some .abandoned
  | _ =>
      exact .none

namespace LikeCoordinations

variable {s s' : Coordination ι} {c : ι}

theorem init {T T' : Tables} (h : (R.likeness C).Stores T T') :
    R.LikeCoordinations C (Coordination.init T) (Coordination.init T') where
  server := .fresh h
  call := fun _ _ => .idle
  orphan := fun _ _ => .none

variable [DecidableEq ι]

/-- New servers, and the same new place for one call. -/
theorem setCall (h : R.LikeCoordinations C s s') {server server' : Server Row ι}
    (hserver : (R.likeness C).Servers server server') {cs cs' : CallState}
    (hcs : R.LikeCallStates cs cs') (log log' : List (Commit ι)) :
    R.LikeCoordinations C { (s.setCall c cs) with server := server, log := log }
      { (s'.setCall c cs') with server := server', log := log' } where
  server := hserver
  call := by
    intro c₁ hc₁
    by_cases heq : c₁ = c
    · subst heq
      simpa [Coordination.setCall] using hcs
    · simpa [Coordination.setCall, heq] using h.call c₁ hc₁
  orphan := h.orphan

/-- One call leaves its transaction behind. -/
theorem leave (h : R.LikeCoordinations C s s') {cs cs' : CallState}
    (hcs : R.LikeCallStates cs cs') {o o' : Orphan} (ho : R.LikeOrphans o o') :
    R.LikeCoordinations C { (s.setCall c cs) with orphan := Function.update s.orphan c o }
      { (s'.setCall c cs') with orphan := Function.update s'.orphan c o' } where
  server := h.server
  call := (h.setCall h.server hcs s.log s'.log).call
  orphan := by
    intro c₁ hc₁
    by_cases heq : c₁ = c
    · subst heq
      simpa using ho
    · simpa [heq] using h.orphan c₁ hc₁

/-- The server ends a transaction that was left behind. -/
theorem ended (h : R.LikeCoordinations C s s') {server server' : Server Row ι}
    (hserver : (R.likeness C).Servers server server') (log log' : List (Commit ι)) :
    R.LikeCoordinations C
      { s with server := server, orphan := Function.update s.orphan c .none, log := log }
      { s' with server := server', orphan := Function.update s'.orphan c .none, log := log' } where
  server := hserver
  call := h.call
  orphan := by
    intro c₁ hc₁
    by_cases heq : c₁ = c
    · subst heq
      simpa using .none
    · simpa [heq] using h.orphan c₁ hc₁

theorem stepCall (h : R.LikeCoordinations C s s') (hc : C c) {now now' : Timestamp}
    (hnow : R.time now now') :
    Option.Rel (R.LikeCoordinations C) (s.stepCall c now) (s'.stepCall c now') := by
  have hcall := h.call c hc
  unfold Coordination.stepCall
  generalize s.call c = cs at hcall ⊢
  generalize s'.call c = cs' at hcall ⊢
  cases hcall with
  | idle =>
      exact .none
  | reserve ha hpc =>
      rcases rel_cases (reserveStep_like h.server hc ha hnow hpc) with
        ⟨hx, hx'⟩ | ⟨⟨server, next⟩, ⟨server', next'⟩, hx, hx', hserver, hnext⟩
      · simp only [hx, hx']
        exact .none
      · simp only [hx, hx']
        exact .some (h.setCall hserver (.reserve ha hnext) _ _)
  | complete ha hpc =>
      rcases rel_cases (completeStep_like h.server hc ha hnow hpc) with
        ⟨hx, hx'⟩ | ⟨⟨server, next⟩, ⟨server', next'⟩, hx, hx', hserver, hnext⟩
      · simp only [hx, hx']
        exact .none
      · simp only [hx, hx']
        exact .some (h.setCall hserver (.complete ha hnext) _ _)

theorem failCall (h : R.LikeCoordinations C s s') (hc : C c) (fault : Fault) :
    Option.Rel (R.LikeCoordinations C) (s.failCall c fault) (s'.failCall c fault) := by
  have hcall := h.call c hc
  unfold Coordination.failCall
  generalize s.call c = cs at hcall ⊢
  generalize s'.call c = cs' at hcall ⊢
  cases hcall with
  | idle =>
      exact .none
  | reserve ha hpc =>
      rcases rel_cases (reserveFail_like (fault.during reservationFailed) hpc) with
        ⟨hx, hx'⟩ | ⟨⟨next, o⟩, ⟨next', o'⟩, hx, hx', hnext, ho⟩
      · simp only [hx, hx']
        exact .none
      · simp only [hx, hx']
        exact .some (h.leave (.reserve ha hnext) ho)
  | complete ha hpc =>
      rcases rel_cases (completeFail_like (fault.during completionFailed) hpc) with
        ⟨hx, hx'⟩ | ⟨⟨next, o⟩, ⟨next', o'⟩, hx, hx', hnext, ho⟩
      · simp only [hx, hx']
        exact .none
      · simp only [hx, hx']
        exact .some (h.leave (.complete ha hnext) ho)

theorem killCall (h : R.LikeCoordinations C s s') (hc : C c) :
    Option.Rel (R.LikeCoordinations C) (s.killCall c) (s'.killCall c) := by
  have hcall := h.call c hc
  unfold Coordination.killCall
  generalize s.call c = cs at hcall ⊢
  generalize s'.call c = cs' at hcall ⊢
  cases hcall with
  | idle =>
      exact .none
  | reserve ha hpc =>
      rcases rel_cases (reserveKill_like hpc) with ⟨hx, hx'⟩ | ⟨o, o', hx, hx', ho⟩
      · simp only [hx, hx']
        exact .none
      · simp only [hx, hx']
        exact .some (h.leave (.reserve ha .gone) ho)
  | complete ha hpc =>
      rcases rel_cases (completeKill_like hpc) with ⟨hx, hx'⟩ | ⟨o, o', hx, hx', ho⟩
      · simp only [hx, hx']
        exact .none
      · simp only [hx, hx']
        exact .some (h.leave (.complete ha .gone) ho)

theorem land (h : R.LikeCoordinations C s s') (hc : C c) :
    Option.Rel (R.LikeCoordinations C) (s.land c) (s'.land c) := by
  have hcall := h.call c hc
  have horphan := h.orphan c hc
  unfold Coordination.land
  generalize s.call c = cs at hcall ⊢
  generalize s'.call c = cs' at hcall ⊢
  generalize s.orphan c = o at horphan ⊢
  generalize s'.orphan c = o' at horphan ⊢
  cases horphan with
  | inFlight ht =>
      cases hcall with
      | idle =>
          exact .none
      | reserve ha hpc =>
          exact .some (h.ended (h.server.commit hc) _ _)
      | complete ha hpc =>
          exact .some (h.ended (h.server.commit hc) _ _)
  | _ =>
      exact .none

theorem reap (h : R.LikeCoordinations C s s') (hc : C c) :
    Option.Rel (R.LikeCoordinations C) (s.reap c) (s'.reap c) := by
  have horphan := h.orphan c hc
  unfold Coordination.reap
  generalize s.orphan c = o at horphan ⊢
  generalize s'.orphan c = o' at horphan ⊢
  cases horphan with
  | none =>
      exact .none
  | _ =>
      exact .some (h.ended (h.server.rollback c) s.log s'.log)

theorem start (h : R.LikeCoordinations C s s') (hc : C c) {call call' : CoordinatorCall}
    (hcalls : R.LikeCalls call call') :
    Option.Rel (R.LikeCoordinations C) (s.start c call) (s'.start c call') := by
  have hcall := h.call c hc
  unfold Coordination.start
  generalize s.call c = cs at hcall ⊢
  generalize s'.call c = cs' at hcall ⊢
  cases hcall with
  | idle =>
      exact .some (h.setCall h.server hcalls.begin s.log s'.log)
  | _ =>
      exact .none

/-- An event of a call in view takes systems that are alike to systems that are alike, or can happen
in neither. -/
theorem step (h : R.LikeCoordinations C s s') {e e' : CoordinatorEvent ι} (he : R.LikeEvents e e')
    (hc : C e.id) : Option.Rel (R.LikeCoordinations C) (s.step e) (s'.step e') := by
  cases he with
  | start c hcalls =>
      exact h.start hc hcalls
  | step c ht =>
      exact h.stepCall hc ht
  | fail c fault =>
      exact h.failCall hc fault
  | kill c =>
      exact h.killCall hc
  | land c =>
      exact h.land hc
  | reap c =>
      exact h.reap hc

end LikeCoordinations

end Calls

end Renaming

end Infrastructure
end TransactionPlatform
