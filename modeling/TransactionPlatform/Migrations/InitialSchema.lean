import TransactionPlatform.Infrastructure.Schema

/-!
# InitialSchema — the migration `0001`

`migrations/versions/0001_initial_schema.py`.  The migration writes out the tables a second time.
From any sound catalogue without their names it creates exactly what `metadata` declares, and
`downgrade` leads back.
-/

namespace TransactionPlatform
namespace Migrations

open Text Relational Transition Infrastructure

/-! ## The script -/

/-- `op.create_table("transactions", ..)`. -/
def createTransactions : Table ColumnType :=
  { name := py "transactions"
    columns :=
      [column "transaction_id" (.string 128) false,
        column "merchant_id" (.string 128) false,
        column "amount" .bigInteger false,
        column "currency" (.string 3) false,
        column "status" (.string 32) false,
        column "pending_operation" (.string 32) true,
        columnDefault "version" .integer (.integer 0),
        column "network_reference" (.string 128) true,
        column "authorization_code" (.string 128) true,
        column "decline_code" (.string 128) true,
        columnDefault "created_at" .dateTime .now,
        columnDefault "updated_at" .dateTime .now]
    primaryKey := py "transaction_id"
    foreignKeys := []
    checks :=
      [checkConstraint (py "length(btrim(transaction_id)) BETWEEN 1 AND 128")
          "chk_transactions_transaction_id_trimmed_length" parse_trimmedTransactionId,
        checkConstraint (py "length(btrim(merchant_id)) BETWEEN 1 AND 128")
          "chk_transactions_merchant_id_trimmed_length" parse_trimmedMerchantId,
        checkConstraint (py "amount > 0") "chk_transactions_amount_positive" parse_amountPositive,
        checkConstraint (py "currency ~ '^[A-Z]\x7b3\x7d$'") "chk_transactions_currency_format"
          parse_currencyFormat,
        checkConstraint (py "version >= 0") "chk_transactions_version_non_negative"
          parse_versionNonNegative,
        checkConstraint
          (py "status IN ('CREATED', 'AUTHORIZED', 'DECLINED', 'CAPTURED', " ++
            py "'REFUNDED', 'PENDING_RECONCILIATION', 'FAILED')")
          "chk_transactions_status_valid" parse_statusValid,
        checkConstraint
          (py "pending_operation IS NULL OR " ++
            py "pending_operation IN ('AUTHORIZATION', 'CAPTURE', 'REFUND')")
          "chk_transactions_pending_operation_valid" parse_pendingOperationValid,
        checkConstraint
          (py "((status = 'PENDING_RECONCILIATION' AND pending_operation IS NOT NULL) OR " ++
            py "(status != 'PENDING_RECONCILIATION' AND pending_operation IS NULL))")
          "chk_transactions_reconciliation_invariant" parse_reconciliationInvariant] }

/-- `op.create_table("idempotency_records", ..)`. -/
def createIdempotencyRecords : Table ColumnType :=
  { name := py "idempotency_records"
    columns :=
      [column "idempotency_key_hash" (.string 64) false,
        column "request_fingerprint" (.string 64) false,
        column "processing_status" (.string 32) false,
        column "transaction_id" (.string 128) false,
        column "stored_status_code" .integer true,
        column "stored_response_body" .jsonb true,
        column "stored_headers" .jsonb true,
        columnDefault "created_at" .dateTime .now,
        columnDefault "updated_at" .dateTime .now]
    primaryKey := py "idempotency_key_hash"
    foreignKeys := [⟨py "transaction_id", py "transactions", py "transaction_id"⟩]
    checks :=
      [checkConstraint (py "idempotency_key_hash ~ '^[0-9a-f]\x7b64\x7d$'")
          "chk_idempotency_key_hash_format" parse_keyHashFormat,
        checkConstraint (py "request_fingerprint ~ '^[0-9a-f]\x7b64\x7d$'")
          "chk_idempotency_fingerprint_format" parse_fingerprintFormat,
        checkConstraint (py "processing_status IN ('IN_PROGRESS', 'COMPLETED')")
          "chk_idempotency_status_valid" parse_processingStatusValid,
        checkConstraint
          (py "((processing_status = 'COMPLETED' AND stored_status_code IS NOT NULL " ++
            py "AND stored_response_body IS NOT NULL) OR " ++
            py "(processing_status = 'IN_PROGRESS' AND stored_status_code IS NULL " ++
            py "AND stored_response_body IS NULL AND stored_headers IS NULL))")
          "chk_idempotency_payload_integrity" parse_payloadIntegrity,
        checkConstraint (py "stored_status_code IS NULL OR (stored_status_code BETWEEN 100 AND 599)")
          "chk_idempotency_stored_status_code_range" parse_storedStatusCodeRange,
        checkConstraint
          (py "stored_headers IS NULL OR (" ++
            py "jsonb_typeof(stored_headers) = 'object' AND " ++
            py "(stored_headers - 'Retry-After') = '\x7b\x7d'::jsonb)")
          "chk_idempotency_stored_headers_allowlist" parse_storedHeadersAllowlist] }

def upgrade : List (Operation ColumnType) :=
  [.createTable createTransactions,
    .createIndex (index "idx_transactions_merchant_id" "transactions" "merchant_id"),
    .createIndex (index "idx_transactions_status" "transactions" "status"),
    .createTable createIdempotencyRecords,
    .createIndex
      (index "idx_idempotency_records_transaction_id" "idempotency_records" "transaction_id")]

def downgrade : List (Operation ColumnType) :=
  [.dropIndex (py "idx_idempotency_records_transaction_id"),
    .dropTable (py "idempotency_records"),
    .dropIndex (py "idx_transactions_status"),
    .dropIndex (py "idx_transactions_merchant_id"),
    .dropTable (py "transactions")]

/-! ## What the script does -/

theorem createTransactions_eq : createTransactions = transactionsTable :=
  rfl

theorem createIdempotencyRecords_eq : createIdempotencyRecords = idempotencyRecordsTable :=
  rfl

/-- `downgrade` is the inverse of `upgrade`, operation by operation. -/
theorem downgrade_eq : upgrade.mapM Operation.inverse = some downgrade.reverse :=
  rfl

theorem upgrade_creates : ∀ op ∈ upgrade, op.inverse.isSome := by
  simp [upgrade, Operation.inverse]

theorem upgrade_empty : exec Catalogue.apply Catalogue.empty upgrade = some metadata := by
  rfl

/-- The migration runs on a catalogue exactly when none of its names is taken there. -/
theorem upgrade_isSome_iff {cat : Catalogue ColumnType} :
    (exec Catalogue.apply cat upgrade).isSome ↔ cat.Disjoint metadata := by
  constructor
  · intro h name hname
    rcases Option.isSome_iff_exists.mp h with ⟨cat', hrun⟩
    rcases Catalogue.created_of_run upgrade_creates upgrade_empty hname with hempty | ⟨op, hop, hcreates⟩
    · cases hempty
    · exact Catalogue.fresh_of_run upgrade_creates hrun hop hcreates
  · intro h
    have hrun := Catalogue.frame_run upgrade_creates upgrade_empty h
    rw [Catalogue.append_empty] at hrun
    rw [hrun]
    rfl

/-- The migration adds what `metadata` declares and nothing else. -/
theorem upgrade_appends {cat cat' : Catalogue ColumnType}
    (hrun : exec Catalogue.apply cat upgrade = some cat') :
    cat.Disjoint metadata ∧ cat' = cat.append metadata := by
  have hdisjoint : cat.Disjoint metadata := upgrade_isSome_iff.mp (by rw [hrun]; rfl)
  have hframed := Catalogue.frame_run upgrade_creates upgrade_empty hdisjoint
  rw [Catalogue.append_empty, hrun] at hframed
  exact ⟨hdisjoint, Option.some.inj hframed⟩

/-- From every catalogue that schema changes can build: the migration runs exactly when none of its
names is taken; it adds exactly the declared tables and indexes; and `downgrade` takes exactly these
away again. -/
theorem upgrade_downgrade (cat : Catalogue ColumnType)
    (hreach : Reachable Catalogue.apply Catalogue.empty cat) :
    ((exec Catalogue.apply cat upgrade).isSome ↔ cat.Disjoint metadata) ∧
      ∀ cat', exec Catalogue.apply cat upgrade = some cat' →
        cat' = cat.append metadata ∧ exec Catalogue.apply cat' downgrade = some cat := by
  refine ⟨upgrade_isSome_iff, ?_⟩
  intro cat' hrun
  have hsound : cat.Sound := Catalogue.sound_of_reachable hreach
  constructor
  · exact (upgrade_appends hrun).2
  · have hundo := Catalogue.undo_run hsound downgrade_eq hrun
    rwa [List.reverse_reverse] at hundo

/-- `alembic_version`, where Alembic keeps the revision a database is at. -/
def alembicVersion : Table ColumnType :=
  { name := py "alembic_version"
    columns := [column "version_num" (.string 32) false]
    primaryKey := py "version_num"
    foreignKeys := []
    checks := [] }

theorem upgrade_downgrade_alembic :
    ∃ cat' : Catalogue ColumnType,
      exec Catalogue.apply { tables := [alembicVersion], indexes := [] } upgrade = some cat' ∧
        exec Catalogue.apply cat' downgrade = some { tables := [alembicVersion], indexes := [] } := by
  have hreach : Reachable Catalogue.apply Catalogue.empty
      { tables := [alembicVersion], indexes := [] } :=
    ⟨[.createTable alembicVersion], rfl⟩
  rcases upgrade_downgrade _ hreach with ⟨_, hback⟩
  have hrun : exec Catalogue.apply { tables := [alembicVersion], indexes := [] } upgrade =
      some { tables := alembicVersion :: metadata.tables, indexes := metadata.indexes } := by
    rfl
  exact ⟨_, hrun, (hback _ hrun).2⟩

end Migrations
end TransactionPlatform
