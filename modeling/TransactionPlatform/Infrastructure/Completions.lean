import TransactionPlatform.Infrastructure.Envelopes
import TransactionPlatform.Infrastructure.Linearizability
import TransactionPlatform.Infrastructure.Rehydration

/-!
# Completions — one `complete` with the database to itself

A `complete` that runs alone either changes its two rows or raises and changes nothing, also when
the database refuses one of its updates.  Whether it succeeds depends on the version, on the two rows
it names and on whether the values it writes fit the schema.
-/

namespace TransactionPlatform
namespace Infrastructure

open Text Domain Ports ReadCommitted Transition

/-! ## Runs with a failing update -/

/-- The two `UPDATE` statements of `complete`. -/
inductive Update
  | transaction
  | record
  deriving DecidableEq, Repr

def CompletePc.update : CompletePc → Option Update
  | .updateTransaction => some .transaction
  | .updateRecord _ => some .record
  | _ => none

/-- Why a `complete` raises. -/
inductive Refusal (T : Tables) (a : CompleteArgs) : Exc → Prop
  | version (h : a.transaction.version ≠ a.expectedVersion + 1) :
      Refusal T a (versionMismatch a)
  | database : Refusal T a completionFailed
  | transactionValues : Refusal T a (transactionUpdateError a)
  | transaction : Refusal T a (transactionNotUpdated a)
  | recordValues (now : Timestamp) (set : TransactionRow → TransactionRow) (row : TransactionRow)
      (hready : TransactionReady T a now set row) : Refusal T a (recordUpdateError a)
  | record : Refusal T a (recordNotUpdated a)

/-- A transaction row after the update. -/
def updatedTransaction (a : CompleteArgs) (networkReference authorizationCode declineCode : Option PyStr)
    (now : Timestamp) (row : TransactionRow) : TransactionRow :=
  { row with
    status := a.transaction.status.value
    pendingOperation := a.transaction.pendingOperation.map PendingOperation.value
    version := a.transaction.version
    networkReference := networkReference
    authorizationCode := authorizationCode
    declineCode := declineCode
    updatedAt := now }

/-- A record after the update. -/
def updatedRecord (a : CompleteArgs) (now : Timestamp) (record : IdempotencyRecord) :
    IdempotencyRecord :=
  { record with
    processingStatus := py "COMPLETED"
    storedStatusCode := some a.envelope.statusCode
    storedResponseBody := (noneAsNull a.envelope.body).map Json.joined
    storedHeaders := joinedHeaders (persistedHeaders a.envelope.headers)
    updatedAt := now }

theorem ColumnTypesOk.overlay {T : Tables} (hT : ColumnTypesOk T) {id keyHash : PyStr}
    {row : TransactionRow} {record : IdempotencyRecord} (hrow : row.Typed) (hrecord : record.Typed) :
    ColumnTypesOk (overlay (bothRows id row keyHash record) T) where
  transaction_typed := by
    intro id' other h
    rw [overlay_bothRows_transaction] at h
    split at h
    · cases h
      exact hrow
    · exact hT.transaction_typed id' other h
  record_typed := by
    intro keyHash' other h
    rw [overlay_bothRows_record] at h
    split at h
    · cases h
      exact hrecord
    · exact hT.record_typed keyHash' other h

end Infrastructure
end TransactionPlatform
