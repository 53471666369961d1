import TransactionPlatform.Infrastructure.Models
import TransactionPlatform.Lib.Integrity

/-!
# Schema — the metadata of the two tables

`src/transaction_platform/infrastructure/models.py` declares the tables with the texts of their check
constraints.  `func.now()` and `text("now()")` are one default; `none_as_null` belongs to the binding
of parameters and not to the column.
-/

namespace TransactionPlatform
namespace Infrastructure

open Text Sql Relational Transition

/-! ## Column types -/

inductive ColumnType
  | string (length : Nat)
  | bigInteger
  | integer
  | dateTime
  | jsonb
  deriving DecidableEq, Repr

namespace ColumnType

def binds : ColumnType → Datum → Bool
  | .string _, .text s => pgText s
  | .bigInteger, .integer n => bigint n
  | .integer, .integer n => Infrastructure.integer n
  | .dateTime, .timestamp _ => true
  | .jsonb, .jsonb j => Infrastructure.jsonb j
  | _, _ => false

/-- Assignment stores a bound value as it is, except that a text may lose spaces at its end and that
JSON is read from its text. -/
def assign : ColumnType → Datum → Option Datum
  | .string n, .text s => (varchar n s).map .text
  | .jsonb, .jsonb j => if Infrastructure.jsonb j then some (.jsonb j.joined) else none
  | ty, d => if ty.binds d then some d else none

theorem varchar_stored {n : Nat} {s stored : PyStr} (h : varchar n s = some stored) :
    varchar n stored = some stored := by
  unfold varchar at h
  split at h
  · rename_i htext
    split at h
    · rename_i hfits
      cases h
      simp [varchar, htext, hfits]
    · split at h
      · cases h
        have hprefix : pgText (s.take n) = true :=
          List.all_eq_true.mpr fun c hc => List.all_eq_true.mp htext c (List.mem_of_mem_take hc)
        simp [varchar, hprefix]
      · cases h
  · cases h

end ColumnType

/-- The column types as PostgreSQL treats them. -/
def postgresql : TypeSystem ColumnType where
  binds := ColumnType.binds
  assign := ColumnType.assign
  assign_stored := by
    intro ty d stored h
    unfold ColumnType.assign at h
    split at h
    · rename_i n s
      rcases Option.map_eq_some_iff.mp h with ⟨text, htext, rfl⟩
      simp [ColumnType.assign, ColumnType.varchar_stored htext]
    · rename_i j
      split at h
      · rename_i hjson
        cases h
        simp [ColumnType.assign, jsonb_joined hjson, Json.joined_joined]
      · cases h
    · split at h
      · rename_i hbinds
        cases h
        simp_all [ColumnType.assign]
      · cases h

/-! ## `metadata` -/

def column (name : String) (type : ColumnType) (nullable : Bool) : Column ColumnType :=
  { name := py name
    type := type
    nullable := nullable
    default := none }

/-- A column with a `server_default`. -/
def columnDefault (name : String) (type : ColumnType) (default : Default) : Column ColumnType :=
  { name := py name
    type := type
    nullable := false
    default := some default }

/-- `CheckConstraint(sqltext, name=name)`. -/
def checkConstraint (sqltext : PyStr) (name : String) {expr : Expr} (h : parse sqltext = some expr) :
    Check :=
  { name := py name
    sqltext := sqltext
    expr := expr
    parsed := h }

/-! ## What the texts of the constraints say -/

def trimmedLengthExpr (name : PyStr) : Expr :=
  .between (.length (.btrim (.column name))) (.integer 1) (.integer 128)

def digestFormatExpr (name : PyStr) : Expr :=
  .similar (.column name) ⟨[(0x30, 0x39), (0x61, 0x66)], 64⟩

def amountPositiveExpr : Expr :=
  .compare .gt (.column (py "amount")) (.integer 0)

def currencyFormatExpr : Expr :=
  .similar (.column (py "currency")) ⟨[(0x41, 0x5A)], 3⟩

def versionNonNegativeExpr : Expr :=
  .compare .ge (.column (py "version")) (.integer 0)

def statusValidExpr : Expr :=
  .isIn (.column (py "status"))
    [py "CREATED", py "AUTHORIZED", py "DECLINED", py "CAPTURED", py "REFUNDED",
      py "PENDING_RECONCILIATION", py "FAILED"]

def pendingOperationValidExpr : Expr :=
  .or (.isNull (.column (py "pending_operation")))
    (.isIn (.column (py "pending_operation")) [py "AUTHORIZATION", py "CAPTURE", py "REFUND"])

def reconciliationInvariantExpr : Expr :=
  .or
    (.and (.compare .eq (.column (py "status")) (.text (py "PENDING_RECONCILIATION")))
      (.isNotNull (.column (py "pending_operation"))))
    (.and (.compare .ne (.column (py "status")) (.text (py "PENDING_RECONCILIATION")))
      (.isNull (.column (py "pending_operation"))))

def processingStatusValidExpr : Expr :=
  .isIn (.column (py "processing_status")) [py "IN_PROGRESS", py "COMPLETED"]

def payloadIntegrityExpr : Expr :=
  .or
    (.and (.compare .eq (.column (py "processing_status")) (.text (py "COMPLETED")))
      (.and (.isNotNull (.column (py "stored_status_code")))
        (.isNotNull (.column (py "stored_response_body")))))
    (.and (.compare .eq (.column (py "processing_status")) (.text (py "IN_PROGRESS")))
      (.and (.isNull (.column (py "stored_status_code")))
        (.and (.isNull (.column (py "stored_response_body")))
          (.isNull (.column (py "stored_headers"))))))

def storedStatusCodeRangeExpr : Expr :=
  .or (.isNull (.column (py "stored_status_code")))
    (.between (.column (py "stored_status_code")) (.integer 100) (.integer 599))

def storedHeadersAllowlistExpr : Expr :=
  .or (.isNull (.column (py "stored_headers")))
    (.and (.compare .eq (.jsonbTypeof (.column (py "stored_headers"))) (.text (py "object")))
      (.isEmptyObject (.without (.column (py "stored_headers")) (py "Retry-After"))))

theorem parse_trimmedTransactionId :
    parse (py "length(btrim(transaction_id)) BETWEEN 1 AND 128") =
      some (trimmedLengthExpr (py "transaction_id")) := by
  rfl

theorem parse_trimmedMerchantId :
    parse (py "length(btrim(merchant_id)) BETWEEN 1 AND 128") =
      some (trimmedLengthExpr (py "merchant_id")) := by
  rfl

theorem parse_amountPositive : parse (py "amount > 0") = some amountPositiveExpr := by
  rfl

theorem parse_currencyFormat :
    parse (py "currency ~ '^[A-Z]\x7b3\x7d$'") = some currencyFormatExpr := by
  rfl

theorem parse_versionNonNegative : parse (py "version >= 0") = some versionNonNegativeExpr := by
  rfl

theorem parse_statusValid :
    parse
      (py "status IN ('CREATED', 'AUTHORIZED', 'DECLINED', 'CAPTURED', " ++
        py "'REFUNDED', 'PENDING_RECONCILIATION', 'FAILED')") =
      some statusValidExpr := by
  rfl

theorem parse_pendingOperationValid :
    parse
      (py "pending_operation IS NULL OR " ++
        py "pending_operation IN ('AUTHORIZATION', 'CAPTURE', 'REFUND')") =
      some pendingOperationValidExpr := by
  rfl

theorem parse_reconciliationInvariant :
    parse
      (py "((status = 'PENDING_RECONCILIATION' AND pending_operation IS NOT NULL) OR " ++
        py "(status != 'PENDING_RECONCILIATION' AND pending_operation IS NULL))") =
      some reconciliationInvariantExpr := by
  decide +kernel

theorem parse_keyHashFormat :
    parse (py "idempotency_key_hash ~ '^[0-9a-f]\x7b64\x7d$'") =
      some (digestFormatExpr (py "idempotency_key_hash")) := by
  rfl

theorem parse_fingerprintFormat :
    parse (py "request_fingerprint ~ '^[0-9a-f]\x7b64\x7d$'") =
      some (digestFormatExpr (py "request_fingerprint")) := by
  rfl

theorem parse_processingStatusValid :
    parse (py "processing_status IN ('IN_PROGRESS', 'COMPLETED')") = some processingStatusValidExpr := by
  rfl

theorem parse_payloadIntegrity :
    parse
      (py "((processing_status = 'COMPLETED' AND stored_status_code IS NOT NULL " ++
        py "AND stored_response_body IS NOT NULL) OR " ++
        py "(processing_status = 'IN_PROGRESS' AND stored_status_code IS NULL " ++
        py "AND stored_response_body IS NULL AND stored_headers IS NULL))") =
      some payloadIntegrityExpr := by
  decide +kernel

theorem parse_storedStatusCodeRange :
    parse (py "stored_status_code IS NULL OR (stored_status_code BETWEEN 100 AND 599)") =
      some storedStatusCodeRangeExpr := by
  rfl

theorem parse_storedHeadersAllowlist :
    parse
      (py "stored_headers IS NULL OR (" ++
        py "jsonb_typeof(stored_headers) = 'object' AND " ++
        py "(stored_headers - 'Retry-After') = '\x7b\x7d'::jsonb)") =
      some storedHeadersAllowlistExpr := by
  rfl

/-! ## The tables -/

def transactionsTable : Table ColumnType :=
  { name := py "transactions"
    columns :=
      [column "transaction_id" (.string 128) false,
        column "merchant_id" (.string 128) false,
        column "amount" .bigInteger false,
        column "currency" (.string 3) false,
        column "status" (.string 32) false,
        column "pending_operation" (.string 32) true,
        columnDefault "version" .integer (.integer 0),
        column "network_reference" (.string 128) true,
        column "authorization_code" (.string 128) true,
        column "decline_code" (.string 128) true,
        columnDefault "created_at" .dateTime .now,
        columnDefault "updated_at" .dateTime .now]
    primaryKey := py "transaction_id"
    foreignKeys := []
    checks :=
      [checkConstraint (py "length(btrim(transaction_id)) BETWEEN 1 AND 128")
          "chk_transactions_transaction_id_trimmed_length" parse_trimmedTransactionId,
        checkConstraint (py "length(btrim(merchant_id)) BETWEEN 1 AND 128")
          "chk_transactions_merchant_id_trimmed_length" parse_trimmedMerchantId,
        checkConstraint (py "amount > 0") "chk_transactions_amount_positive" parse_amountPositive,
        checkConstraint (py "currency ~ '^[A-Z]\x7b3\x7d$'") "chk_transactions_currency_format"
          parse_currencyFormat,
        checkConstraint (py "version >= 0") "chk_transactions_version_non_negative"
          parse_versionNonNegative,
        checkConstraint
          (py "status IN ('CREATED', 'AUTHORIZED', 'DECLINED', 'CAPTURED', " ++
            py "'REFUNDED', 'PENDING_RECONCILIATION', 'FAILED')")
          "chk_transactions_status_valid" parse_statusValid,
        checkConstraint
          (py "pending_operation IS NULL OR " ++
            py "pending_operation IN ('AUTHORIZATION', 'CAPTURE', 'REFUND')")
          "chk_transactions_pending_operation_valid" parse_pendingOperationValid,
        checkConstraint
          (py "((status = 'PENDING_RECONCILIATION' AND pending_operation IS NOT NULL) OR " ++
            py "(status != 'PENDING_RECONCILIATION' AND pending_operation IS NULL))")
          "chk_transactions_reconciliation_invariant" parse_reconciliationInvariant] }

def idempotencyRecordsTable : Table ColumnType :=
  { name := py "idempotency_records"
    columns :=
      [column "idempotency_key_hash" (.string 64) false,
        column "request_fingerprint" (.string 64) false,
        column "processing_status" (.string 32) false,
        column "transaction_id" (.string 128) false,
        column "stored_status_code" .integer true,
        column "stored_response_body" .jsonb true,
        column "stored_headers" .jsonb true,
        columnDefault "created_at" .dateTime .now,
        columnDefault "updated_at" .dateTime .now]
    primaryKey := py "idempotency_key_hash"
    foreignKeys := [⟨py "transaction_id", py "transactions", py "transaction_id"⟩]
    checks :=
      [checkConstraint (py "idempotency_key_hash ~ '^[0-9a-f]\x7b64\x7d$'")
          "chk_idempotency_key_hash_format" parse_keyHashFormat,
        checkConstraint (py "request_fingerprint ~ '^[0-9a-f]\x7b64\x7d$'")
          "chk_idempotency_fingerprint_format" parse_fingerprintFormat,
        checkConstraint (py "processing_status IN ('IN_PROGRESS', 'COMPLETED')")
          "chk_idempotency_status_valid" parse_processingStatusValid,
        checkConstraint
          (py "((processing_status = 'COMPLETED' AND stored_status_code IS NOT NULL " ++
            py "AND stored_response_body IS NOT NULL) OR " ++
            py "(processing_status = 'IN_PROGRESS' AND stored_status_code IS NULL " ++
            py "AND stored_response_body IS NULL AND stored_headers IS NULL))")
          "chk_idempotency_payload_integrity" parse_payloadIntegrity,
        checkConstraint (py "stored_status_code IS NULL OR (stored_status_code BETWEEN 100 AND 599)")
          "chk_idempotency_stored_status_code_range" parse_storedStatusCodeRange,
        checkConstraint
          (py "stored_headers IS NULL OR (" ++
            py "jsonb_typeof(stored_headers) = 'object' AND " ++
            py "(stored_headers - 'Retry-After') = '\x7b\x7d'::jsonb)")
          "chk_idempotency_stored_headers_allowlist" parse_storedHeadersAllowlist] }

/-- `Index(name, column)`. -/
def index (name table columnName : String) : Index :=
  { name := py name
    table := py table
    columns := [py columnName]
    unique := false }

def metadata : Catalogue ColumnType :=
  { tables := [transactionsTable, idempotencyRecordsTable]
    indexes :=
      [index "idx_transactions_merchant_id" "transactions" "merchant_id",
        index "idx_transactions_status" "transactions" "status",
        index "idx_idempotency_records_transaction_id" "idempotency_records" "transaction_id"] }

end Infrastructure
end TransactionPlatform
