import TransactionPlatform.Lib.ReadCommitted
import TransactionPlatform.Ports.IdempotencyCoordinator

/-!
# Models — the two tables, their column types and check constraints

`src/transaction_platform/infrastructure/models.py` (the migration creates the same schema).
Columns hold what PostgreSQL holds: texts, not enumeration members.  A value that a column type
does not take is a data error of the statement; a row that breaks a `CHECK` is an integrity error.
-/

namespace TransactionPlatform
namespace Infrastructure

open Text Domain Ports ReadCommitted

abbrev Timestamp := Nat

structure TransactionRow where
  transactionId : PyStr
  merchantId : PyStr
  amount : Int
  currency : PyStr
  status : PyStr
  pendingOperation : Option PyStr
  version : Int
  networkReference : Option PyStr
  authorizationCode : Option PyStr
  declineCode : Option PyStr
  createdAt : Timestamp
  updatedAt : Timestamp
  deriving DecidableEq, Repr

structure IdempotencyRecord where
  idempotencyKeyHash : PyStr
  requestFingerprint : PyStr
  processingStatus : PyStr
  transactionId : PyStr
  storedStatusCode : Option Int
  storedResponseBody : Option Json
  storedHeaders : Option Headers
  createdAt : Timestamp
  updatedAt : Timestamp
  deriving Repr

/-! ## Column types -/

/-- A string PostgreSQL takes as text: UTF-8 has no surrogates, and NUL is refused. -/
def pgText (s : PyStr) : Bool :=
  s.all fun c => c ≠ 0 && isScalar c

theorem pgText_of_ascii {s : PyStr} (h : ∀ c ∈ s, 0 < c.val ∧ c.val < 0x80) : pgText s = true := by
  apply List.all_eq_true.mpr
  intro c hc
  have hne : c ≠ 0 := by
    rintro rfl
    exact absurd (h 0 hc).1 (by decide)
  simp [hne, isScalar_of_ascii (h c hc).2]

theorem isScalar_of_pgText {s : PyStr} (h : pgText s = true) : s.all isScalar = true := by
  refine List.all_eq_true.mpr fun c hc => ?_
  have htext := List.all_eq_true.mp h c hc
  rw [Bool.and_eq_true] at htext
  exact htext.2

/-- Assignment to `VARCHAR(n)`: too long a value is an error unless the excess is all spaces. -/
def varchar (n : Nat) (s : PyStr) : Option PyStr :=
  if pgText s then
    if s.length ≤ n then some s
    else if (s.drop n).all (fun c => c = 0x20) then some (s.take n)
    else none
  else none

/-- `NULL` passes every type. -/
def varcharOpt (n : Nat) : Option PyStr → Option (Option PyStr)
  | none => some none
  | some s => (varchar n s).map some

def bigint (n : Int) : Bool :=
  -2 ^ 63 ≤ n && n < 2 ^ 63

def integer (n : Int) : Bool :=
  -2 ^ 31 ≤ n && n < 2 ^ 31

/-- The nesting `json.dumps` and the server's parser have stack for.  It depends on how both were
built; Python's default recursion limit stands for it. -/
def maxNesting : Nat := 1000

mutual

/-- The server's `jsonb` takes the text of a value: strings are PostgreSQL texts, where an escaped
surrogate pair is a character, and numbers are JSON numbers. -/
def jsonbStores : Json → Bool
  | .float text => text ≠ py "NaN" && text ≠ py "Infinity" && text ≠ py "-Infinity"
  | .str s => pgText (joinPairs s)
  | .arr items => jsonbStoresItems items
  | .obj members => jsonbStoresMembers members
  | _ => true

def jsonbStoresItems : List Json → Bool
  | [] => true
  | j :: js => jsonbStores j && jsonbStoresItems js

def jsonbStoresMembers : List (PyStr × Json) → Bool
  | [] => true
  | (k, j) :: js => pgText (joinPairs k) && jsonbStores j && jsonbStoresMembers js

end

/-- `JSONB` takes a value that `json.dumps` prints and the server stores; it holds the value a decoder
reads from that text. -/
def jsonb (j : Json) : Bool :=
  j.dumpable maxNesting && jsonbStores j

theorem jsonb_obj (members : List (PyStr × Json)) :
    jsonb (.obj members) =
      (Json.dumpableMembers (maxNesting - 1) members && jsonbStoresMembers members) := rfl

mutual

theorem jsonbStores_joined : ∀ {j : Json}, jsonbStores j = true → jsonbStores j.joined = true
  | .null, h | .bool _, h | .int _, h | .float _, h => h
  | .str s, h => by
      rw [jsonbStores] at h
      rw [Json.joined, jsonbStores, joinPairs_joinPairs]
      exact h
  | .arr items, h => by
      rw [jsonbStores] at h
      rw [Json.joined, jsonbStores]
      exact jsonbStoresItems_joinedItems h
  | .obj members, h => by
      rw [jsonbStores] at h
      rw [Json.joined, jsonbStores]
      exact jsonbStoresMembers_joinedMembers h

theorem jsonbStoresItems_joinedItems : ∀ {items : List Json},
    jsonbStoresItems items = true → jsonbStoresItems (Json.joinedItems items) = true
  | [], h => h
  | j :: js, h => by
      rw [jsonbStoresItems, Bool.and_eq_true] at h
      rw [Json.joinedItems, jsonbStoresItems, jsonbStores_joined h.1, jsonbStoresItems_joinedItems h.2]
      rfl

theorem jsonbStoresMembers_joinedMembers : ∀ {members : List (PyStr × Json)},
    jsonbStoresMembers members = true → jsonbStoresMembers (Json.joinedMembers members) = true
  | [], h => h
  | (k, j) :: js, h => by
      rw [jsonbStoresMembers, Bool.and_eq_true, Bool.and_eq_true] at h
      have ih := jsonbStoresMembers_joinedMembers h.2
      rw [Json.joinedMembers]
      split
      · exact ih
      · rw [jsonbStoresMembers, joinPairs_joinPairs, h.1.1, jsonbStores_joined h.1.2, ih]
        rfl

end

/-- What `JSONB` holds can be stored again. -/
theorem jsonb_joined {j : Json} (h : jsonb j = true) : jsonb j.joined = true := by
  rw [jsonb, Bool.and_eq_true] at h
  rw [jsonb, Json.dumpable_joined h.1, jsonbStores_joined h.2]
  rfl

/-- `JSONB(none_as_null=True)`: Python's `None` is stored as `NULL`. -/
def noneAsNull : Json → Option Json
  | .null => none
  | j => some j

def jsonbHeaders (headers : Option Headers) : Bool :=
  match headers with
  | none => true
  | some hs => hs.all fun h => pgText (joinPairs h.1) && pgText (joinPairs h.2)

/-- Headers as `JSONB` holds them. -/
def joinedHeaders (headers : Option Headers) : Option Headers :=
  headers.map fun hs => hs.map fun h => (joinPairs h.1, joinPairs h.2)

/-! ## Check constraints -/

/-- `btrim(s)`: spaces only. -/
def btrim (s : PyStr) : PyStr :=
  (s.dropWhile fun c => c = 0x20).rdropWhile fun c => c = 0x20

def trimmedLength (s : PyStr) : Bool :=
  1 ≤ (btrim s).length && (btrim s).length ≤ 128

/-- `s ~ '^[lo-hi]{n}$'` for a class of characters; PostgreSQL's `$` is the end of the text. -/
def matchesClass (cls : CodePoint → Bool) (n : Nat) (s : PyStr) : Bool :=
  s.length = n && s.all cls

def lowerHex (c : CodePoint) : Bool :=
  (0x30 ≤ c.val && c.val ≤ 0x39) || (0x61 ≤ c.val && c.val ≤ 0x66)

namespace TransactionRow

def statusValid (row : TransactionRow) : Bool :=
  row.status ∈ [py "CREATED", py "AUTHORIZED", py "DECLINED", py "CAPTURED", py "REFUNDED",
    py "PENDING_RECONCILIATION", py "FAILED"]

def pendingOperationValid (row : TransactionRow) : Bool :=
  match row.pendingOperation with
  | none => true
  | some op => op ∈ [py "AUTHORIZATION", py "CAPTURE", py "REFUND"]

def reconciliationInvariant (row : TransactionRow) : Bool :=
  (row.status = py "PENDING_RECONCILIATION" && row.pendingOperation.isSome) ||
    (row.status ≠ py "PENDING_RECONCILIATION" && row.pendingOperation.isNone)

/-- The eight `CHECK` constraints of `transactions`. -/
def admitted (row : TransactionRow) : Bool :=
  trimmedLength row.transactionId && trimmedLength row.merchantId && 0 < row.amount &&
    matchesClass upperLetter 3 row.currency && 0 ≤ row.version && row.statusValid &&
    row.pendingOperationValid && row.reconciliationInvariant

end TransactionRow

namespace IdempotencyRecord

def payloadIntegrity (record : IdempotencyRecord) : Bool :=
  (record.processingStatus = py "COMPLETED" && record.storedStatusCode.isSome &&
      record.storedResponseBody.isSome) ||
    (record.processingStatus = py "IN_PROGRESS" && record.storedStatusCode.isNone &&
      record.storedResponseBody.isNone && record.storedHeaders.isNone)

def storedStatusCodeRange (record : IdempotencyRecord) : Bool :=
  match record.storedStatusCode with
  | none => true
  | some code => 100 ≤ code && code ≤ 599

def storedHeadersAllowlist (record : IdempotencyRecord) : Bool :=
  match record.storedHeaders with
  | none => true
  | some hs => hs.all fun h => h.1 = py "Retry-After"

/-- The six `CHECK` constraints of `idempotency_records`. -/
def admitted (record : IdempotencyRecord) : Bool :=
  matchesClass lowerHex 64 record.idempotencyKeyHash &&
    matchesClass lowerHex 64 record.requestFingerprint &&
    record.processingStatus ∈ [py "IN_PROGRESS", py "COMPLETED"] &&
    record.payloadIntegrity && record.storedStatusCodeRange && record.storedHeadersAllowlist

end IdempotencyRecord

/-! ## The store -/

/-- Primary keys of the two tables. -/
inductive Pk
  | transaction (id : PyStr)
  | record (keyHash : PyStr)
  deriving DecidableEq, Repr

@[reducible] def Row : Pk → Type
  | .transaction _ => TransactionRow
  | .record _ => IdempotencyRecord

abbrev Tables := Store Row

def emptyTables : Tables :=
  fun _ => none

/-- The constraints of the schema hold: every row stands under its primary key and passes the
checks of its table, and a record's foreign key names a transaction. -/
structure SchemaOk (T : Tables) : Prop where
  transaction_ok : ∀ id (row : TransactionRow), T (.transaction id) = some row →
    row.transactionId = id ∧ row.admitted = true
  record_ok : ∀ keyHash (record : IdempotencyRecord), T (.record keyHash) = some record →
    record.idempotencyKeyHash = keyHash ∧ record.admitted = true
  record_fk : ∀ keyHash (record : IdempotencyRecord), T (.record keyHash) = some record →
    (T (.transaction record.transactionId)).isSome

/-- Every column of a row holds a value of its type. -/
structure TransactionRow.Typed (row : TransactionRow) : Prop where
  transactionId : varchar 128 row.transactionId = some row.transactionId
  merchantId : varchar 128 row.merchantId = some row.merchantId
  amount : bigint row.amount = true
  currency : varchar 3 row.currency = some row.currency
  status : varchar 32 row.status = some row.status
  pendingOperation : varcharOpt 32 row.pendingOperation = some row.pendingOperation
  version : integer row.version = true
  networkReference : varcharOpt 128 row.networkReference = some row.networkReference
  authorizationCode : varcharOpt 128 row.authorizationCode = some row.authorizationCode
  declineCode : varcharOpt 128 row.declineCode = some row.declineCode

structure IdempotencyRecord.Typed (record : IdempotencyRecord) : Prop where
  idempotencyKeyHash : varchar 64 record.idempotencyKeyHash = some record.idempotencyKeyHash
  requestFingerprint : varchar 64 record.requestFingerprint = some record.requestFingerprint
  processingStatus : varchar 32 record.processingStatus = some record.processingStatus
  transactionId : varchar 128 record.transactionId = some record.transactionId
  storedStatusCode : ∀ code ∈ record.storedStatusCode, integer code = true
  storedResponseBody : ∀ body ∈ record.storedResponseBody, jsonb body = true
  storedHeaders : jsonbHeaders record.storedHeaders = true

structure ColumnTypesOk (T : Tables) : Prop where
  transaction_typed : ∀ id (row : TransactionRow), T (.transaction id) = some row → row.Typed
  record_typed : ∀ keyHash (record : IdempotencyRecord), T (.record keyHash) = some record →
    record.Typed

theorem schemaOk_empty : SchemaOk emptyTables where
  transaction_ok := by
    intro id row h
    simp [emptyTables] at h
  record_ok := by
    intro keyHash record h
    simp [emptyTables] at h
  record_fk := by
    intro keyHash record h
    simp [emptyTables] at h

end Infrastructure
end TransactionPlatform
