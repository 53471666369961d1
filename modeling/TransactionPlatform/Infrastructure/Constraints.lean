import TransactionPlatform.Infrastructure.Schema
import TransactionPlatform.Lib.Layout

/-!
# Constraints — the rows of the model as rows of the declared tables

A typed row is laid out column by column.  On every row each check constraint has a truth value, so no
`NULL` slips through an unknown one, and the table admits the row exactly when the model does.
-/

namespace TransactionPlatform
namespace Infrastructure

open Text Ports Sql Relational ReadCommitted

/-! ## Rows -/

def textValue (s : PyStr) : Value :=
  some (.text s)

def integerValue (n : Int) : Value :=
  some (.integer n)

def TransactionRow.values (row : TransactionRow) : SqlRow :=
  [textValue row.transactionId, textValue row.merchantId, integerValue row.amount,
    textValue row.currency, textValue row.status, row.pendingOperation.map .text,
    integerValue row.version, row.networkReference.map .text, row.authorizationCode.map .text,
    row.declineCode.map .text, some (.timestamp row.createdAt), some (.timestamp row.updatedAt)]

/-- The JSON object of a dictionary of strings. -/
def headersJson (headers : Headers) : Json :=
  .obj (headers.map fun h => (h.1, .str h.2))

def headersValue (headers : Option Headers) : Value :=
  headers.map fun hs => .jsonb (headersJson hs)

def IdempotencyRecord.values (record : IdempotencyRecord) : SqlRow :=
  [textValue record.idempotencyKeyHash, textValue record.requestFingerprint,
    textValue record.processingStatus, textValue record.transactionId,
    record.storedStatusCode.map .integer, record.storedResponseBody.map .jsonb,
    headersValue record.storedHeaders, some (.timestamp record.createdAt),
    some (.timestamp record.updatedAt)]

/-! ## Checks of one column -/

section Checks

variable {row : Dict Value} {name s : PyStr}

theorem eval_trimmedLength (h : Dict.get row name = some (textValue s)) :
    (trimmedLengthExpr name).eval row = .ok (some (.boolean (trimmedLength s))) := by
  have hlength : (Expr.length (.btrim (.column name))).eval row =
      .ok (some (.integer (btrim s).length)) := by
    simp [Expr.eval, h, textValue, strict, btrimOf, lengthOf, trimSpaces, btrim, bind, Except.bind]
  have hbetween := Expr.eval_between 1 128 hlength
  have hcast : (decide ((1 : Int) ≤ ((btrim s).length : Int)) &&
      decide (((btrim s).length : Int) ≤ 128)) = trimmedLength s := by
    unfold trimmedLength
    congr 1 <;> simp only [decide_eq_decide] <;> omega
  rw [hcast] at hbetween
  exact hbetween

/-- A pattern of one class accepts what `matchesClass` does. -/
theorem isMatch_eq {p : Pattern} {cls : CodePoint → Bool} (hcls : ∀ c, p.cls c = cls c)
    (s : PyStr) : p.isMatch s = matchesClass cls p.count s := by
  rw [Bool.eq_iff_iff, Pattern.isMatch_iff]
  simp [matchesClass, hcls]

theorem eval_digestFormat (h : Dict.get row name = some (textValue s)) :
    (digestFormatExpr name).eval row = .ok (some (.boolean (matchesClass lowerHex 64 s))) := by
  have hcls : ∀ c, Pattern.cls ⟨[(0x30, 0x39), (0x61, 0x66)], 64⟩ c = lowerHex c := by
    intro c
    simp only [Pattern.cls, lowerHex, List.any_cons, List.any_nil, Bool.or_false, Fin.le_def]
    rfl
  have hmatch := Expr.eval_similar ⟨[(0x30, 0x39), (0x61, 0x66)], 64⟩ (Expr.eval_column h)
  rw [isMatch_eq hcls] at hmatch
  exact hmatch

theorem eval_currencyFormat (h : Dict.get row (py "currency") = some (textValue s)) :
    currencyFormatExpr.eval row = .ok (some (.boolean (matchesClass upperLetter 3 s))) := by
  have hcls : ∀ c, Pattern.cls ⟨[(0x41, 0x5A)], 3⟩ c = upperLetter c := by
    intro c
    simp only [Pattern.cls, upperLetter, List.any_cons, List.any_nil, Bool.or_false, Fin.le_def]
    rfl
  have hmatch := Expr.eval_similar ⟨[(0x41, 0x5A)], 3⟩ (Expr.eval_column h)
  rw [isMatch_eq hcls] at hmatch
  exact hmatch

end Checks

/-! ## `transactions` -/

section Transactions

variable (row : TransactionRow)

theorem eval_pendingOperationValid :
    pendingOperationValidExpr.eval (transactionsTable.named row.values) =
      .ok (some (.boolean row.pendingOperationValid)) := by
  have hcolumn : (Expr.column (py "pending_operation")).eval
      (transactionsTable.named row.values) = .ok (row.pendingOperation.map .text) :=
    Expr.eval_column rfl
  have hvalid : row.pendingOperationValid =
      row.pendingOperation.all fun s => s ∈ [py "AUTHORIZATION", py "CAPTURE", py "REFUND"] := by
    unfold TransactionRow.pendingOperationValid
    cases row.pendingOperation <;> rfl
  rw [hvalid]
  exact Expr.eval_isNull_or hcolumn fun _ h => Expr.eval_isIn _ h

theorem eval_reconciliationInvariant :
    reconciliationInvariantExpr.eval (transactionsTable.named row.values) =
      .ok (some (.boolean row.reconciliationInvariant)) := by
  have hstatus : (Expr.column (py "status")).eval (transactionsTable.named row.values) =
      .ok (textValue row.status) := Expr.eval_column rfl
  have hpending : (Expr.column (py "pending_operation")).eval
      (transactionsTable.named row.values) = .ok (row.pendingOperation.map .text) :=
    Expr.eval_column rfl
  have hboth := Expr.eval_or
    (Expr.eval_and (Expr.eval_text_eq (py "PENDING_RECONCILIATION") hstatus)
      (Expr.eval_isNotNull hpending))
    (Expr.eval_and (Expr.eval_text_ne (py "PENDING_RECONCILIATION") hstatus)
      (Expr.eval_isNull hpending))
  rw [Option.isSome_map, Option.isNone_map] at hboth
  exact hboth

/-- On a row of the model every check of `transactions` has a truth value. -/
theorem eval_transactionChecks :
    List.Forall₂
      (fun c b => c.expr.eval (transactionsTable.named row.values) = .ok (some (.boolean b)))
      transactionsTable.checks
      [trimmedLength row.transactionId, trimmedLength row.merchantId, 0 < row.amount,
        matchesClass upperLetter 3 row.currency, 0 ≤ row.version, row.statusValid,
        row.pendingOperationValid, row.reconciliationInvariant] := by
  have hamount : (Expr.column (py "amount")).eval (transactionsTable.named row.values) =
      .ok (integerValue row.amount) := Expr.eval_column rfl
  have hversion : (Expr.column (py "version")).eval (transactionsTable.named row.values) =
      .ok (integerValue row.version) := Expr.eval_column rfl
  have hstatus : (Expr.column (py "status")).eval (transactionsTable.named row.values) =
      .ok (textValue row.status) := Expr.eval_column rfl
  refine .cons (eval_trimmedLength rfl) (.cons (eval_trimmedLength rfl) (.cons ?_
    (.cons (eval_currencyFormat rfl) (.cons ?_ (.cons ?_
      (.cons (eval_pendingOperationValid row) (.cons (eval_reconciliationInvariant row) .nil)))))))
  · exact Expr.eval_compare .gt hamount rfl
  · exact Expr.eval_compare .ge hversion rfl
  · exact Expr.eval_isIn _ hstatus

/-- The table admits a row exactly when the model does. -/
theorem checkRow_transaction :
    transactionsTable.checkRow row.values =
      if row.admitted then .ok () else .error .integrity := by
  rw [Table.checkRow_eq rfl (eval_transactionChecks row)]
  simp [TransactionRow.admitted, and_assoc]

/-- On an admitted row every check is true. -/
theorem transactionChecks_true {row : TransactionRow} (h : row.admitted = true) :
    ∀ c ∈ transactionsTable.checks,
      c.expr.eval (transactionsTable.named row.values) = .ok (some (.boolean true)) := by
  refine Table.checks_true (eval_transactionChecks row) ?_
  simpa [TransactionRow.admitted, and_assoc] using h

end Transactions

/-! ## `idempotency_records` -/

section Records

variable (record : IdempotencyRecord)

theorem eval_payloadIntegrity :
    payloadIntegrityExpr.eval (idempotencyRecordsTable.named record.values) =
      .ok (some (.boolean record.payloadIntegrity)) := by
  have hstatus : (Expr.column (py "processing_status")).eval
      (idempotencyRecordsTable.named record.values) = .ok (textValue record.processingStatus) :=
    Expr.eval_column rfl
  have hcode : (Expr.column (py "stored_status_code")).eval
      (idempotencyRecordsTable.named record.values) = .ok (record.storedStatusCode.map .integer) :=
    Expr.eval_column rfl
  have hbody : (Expr.column (py "stored_response_body")).eval
      (idempotencyRecordsTable.named record.values) = .ok (record.storedResponseBody.map .jsonb) :=
    Expr.eval_column rfl
  have hheaders : (Expr.column (py "stored_headers")).eval
      (idempotencyRecordsTable.named record.values) = .ok (headersValue record.storedHeaders) :=
    Expr.eval_column rfl
  have hboth := Expr.eval_or
    (Expr.eval_and (Expr.eval_text_eq (py "COMPLETED") hstatus)
      (Expr.eval_and (Expr.eval_isNotNull hcode) (Expr.eval_isNotNull hbody)))
    (Expr.eval_and (Expr.eval_text_eq (py "IN_PROGRESS") hstatus)
      (Expr.eval_and (Expr.eval_isNull hcode)
        (Expr.eval_and (Expr.eval_isNull hbody) (Expr.eval_isNull hheaders))))
  simp only [Option.isSome_map, Option.isNone_map, headersValue, ← Bool.and_assoc] at hboth
  exact hboth

theorem eval_storedStatusCodeRange :
    storedStatusCodeRangeExpr.eval (idempotencyRecordsTable.named record.values) =
      .ok (some (.boolean record.storedStatusCodeRange)) := by
  have hcode : (Expr.column (py "stored_status_code")).eval
      (idempotencyRecordsTable.named record.values) = .ok (record.storedStatusCode.map .integer) :=
    Expr.eval_column rfl
  have hrange : record.storedStatusCodeRange =
      record.storedStatusCode.all fun code => 100 ≤ code && code ≤ 599 := by
    unfold IdempotencyRecord.storedStatusCodeRange
    cases record.storedStatusCode <;> rfl
  rw [hrange]
  exact Expr.eval_isNull_or hcode fun _ h => Expr.eval_between 100 599 h

theorem eval_storedHeadersAllowlist :
    storedHeadersAllowlistExpr.eval (idempotencyRecordsTable.named record.values) =
      .ok (some (.boolean record.storedHeadersAllowlist)) := by
  have hheaders : (Expr.column (py "stored_headers")).eval
      (idempotencyRecordsTable.named record.values) = .ok (headersValue record.storedHeaders) :=
    Expr.eval_column rfl
  have hallowed : record.storedHeadersAllowlist =
      record.storedHeaders.all fun hs => hs.all fun h => h.1 = py "Retry-After" := by
    unfold IdempotencyRecord.storedHeadersAllowlist
    cases record.storedHeaders <;> rfl
  rw [hallowed]
  refine Expr.eval_isNull_or hheaders ?_
  intro headers h
  have hobject : (Expr.jsonbTypeof (.column (py "stored_headers"))).eval
      (idempotencyRecordsTable.named record.values) = .ok (textValue (py "object")) := by
    simp only [Expr.eval] at h ⊢
    rw [h]
    rfl
  have hboth := Expr.eval_and (Expr.eval_text_eq (py "object") hobject)
    (Expr.eval_isEmptyObject_without (py "Retry-After") h)
  rw [decide_eq_true rfl, Bool.true_and] at hboth
  rw [hboth, List.all_map]
  rfl

/-- On a row of the model every check of `idempotency_records` has a truth value. -/
theorem eval_recordChecks :
    List.Forall₂
      (fun c b => c.expr.eval (idempotencyRecordsTable.named record.values) =
        .ok (some (.boolean b)))
      idempotencyRecordsTable.checks
      [matchesClass lowerHex 64 record.idempotencyKeyHash,
        matchesClass lowerHex 64 record.requestFingerprint,
        record.processingStatus ∈ [py "IN_PROGRESS", py "COMPLETED"], record.payloadIntegrity,
        record.storedStatusCodeRange, record.storedHeadersAllowlist] := by
  have hstatus : (Expr.column (py "processing_status")).eval
      (idempotencyRecordsTable.named record.values) = .ok (textValue record.processingStatus) :=
    Expr.eval_column rfl
  refine .cons (eval_digestFormat rfl) (.cons (eval_digestFormat rfl) (.cons ?_
    (.cons (eval_payloadIntegrity record) (.cons (eval_storedStatusCodeRange record)
      (.cons (eval_storedHeadersAllowlist record) .nil)))))
  exact Expr.eval_isIn _ hstatus

/-- The table admits a record exactly when the model does. -/
theorem checkRow_record :
    idempotencyRecordsTable.checkRow record.values =
      if record.admitted then .ok () else .error .integrity := by
  rw [Table.checkRow_eq rfl (eval_recordChecks record)]
  simp [IdempotencyRecord.admitted, and_assoc]

theorem recordChecks_true {record : IdempotencyRecord} (h : record.admitted = true) :
    ∀ c ∈ idempotencyRecordsTable.checks,
      c.expr.eval (idempotencyRecordsTable.named record.values) = .ok (some (.boolean true)) := by
  refine Table.checks_true (eval_recordChecks record) ?_
  simpa [IdempotencyRecord.admitted, and_assoc] using h

end Records

end Infrastructure
end TransactionPlatform
