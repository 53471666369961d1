import TransactionPlatform.Infrastructure.Completions
import TransactionPlatform.System.Storable

/-!
# Reservable — what the API accepts and what the tables take

The pydantic model and the schema check the same five values independently.  They differ where
Python and PostgreSQL do: NUL characters and surrogates, integers beyond 64 bits, and a `$` that also
matches before a final newline.  Everywhere else an accepted request can be reserved.
-/

namespace TransactionPlatform
namespace System

open Text Domain Ports Common Application Adapters Api Infrastructure ReadCommitted Transition

/-! ## Keys and digests -/

theorem mem_matchRepeat {cls : CodePoint → Bool} {lo hi : Nat} {s : PyStr}
    (h : matchRepeat cls lo hi s = true) {c : CodePoint} (hc : c ∈ s) : cls c = true ∨ c = 0x0A := by
  simp only [matchRepeat, Bool.and_eq_true] at h
  have hall := List.all_eq_true.mp h.2
  by_cases hlast : s.getLast? = some 0x0A
  · rw [if_pos hlast] at hall
    rcases List.getLast?_eq_some_iff.mp hlast with ⟨front, rfl⟩
    rw [List.dropLast_concat] at hall
    rcases List.mem_append.mp hc with hfront | hnewline
    · exact .inl (hall c hfront)
    · exact .inr (List.mem_singleton.mp hnewline)
  · rw [if_neg hlast] at hall
    exact .inl (hall c hc)

/-- An accepted key is ASCII, so its hash is defined. -/
theorem computeKeyHash_defined {idempotencyKey : Option PyStr} {key : PyStr}
    (h : requireIdempotencyKey idempotencyKey = some key) :
    ∃ keyHash, computeKeyHash key = .ok keyHash := by
  have hmatch : matchRepeat headerChar 1 128 key = true := by
    unfold requireIdempotencyKey requireHeader at h
    split at h
    · split at h
      · rename_i hmatch
        cases h
        exact hmatch
      · cases h
    · cases h
  have hascii : ∀ c ∈ key, c.val < 0x80 := by
    intro c hc
    -- a character of the header, or the newline that `$` lets through
    rcases mem_matchRepeat hmatch hc with hheader | rfl
    · exact headerChar_ascii hheader
    · decide
  exact sha256Text_defined (all_isScalar_of_ascii hascii)

/-! ## The five values -/

/-- The values of an accepted request that PostgreSQL takes as well: the ids have neither a NUL
character nor a surrogate. -/
structure StorableValues (request : CreateTransactionRequest) : Prop where
  transactionId : ∀ c ∈ request.transactionId, c ≠ 0 ∧ isScalar c = true
  merchantId : ∀ c ∈ request.merchantId, c ≠ 0 ∧ isScalar c = true
  amount : request.amount < 2 ^ 63
  currency : request.currency.getLast? ≠ some 0x0A

theorem pgText_iff {s : PyStr} : pgText s = true ↔ ∀ c ∈ s, c ≠ 0 ∧ isScalar c = true := by
  simp [pgText]

/-- A validated id fits its column exactly when it is a PostgreSQL text. -/
theorem varchar_validated {s : PyStr} (hstripped : strip s = s) (hlength : s.length ≤ 128) :
    varchar 128 s = if pgText s then some s else none := by
  rw [varchar_stripped hstripped, storesAsIs]
  simp [hlength]

/-- A validated currency: three letters, or three letters and a newline that the column refuses. -/
theorem varchar_currency_validated {s : PyStr} (h : matchRepeat upperLetter 3 3 s = true) :
    varchar 3 s = (if s.getLast? = some 0x0A then none else some s) ∧
      (s.getLast? ≠ some 0x0A → matchesClass upperLetter 3 s = true) := by
  have htext : pgText s = true := by
    apply pgText_of_ascii
    intro c hc
    rcases mem_matchRepeat h hc with hletter | rfl
    · have hrange : 0x41 ≤ c.val ∧ c.val ≤ 0x5A := by
        simpa [upperLetter] using hletter
      omega
    · decide
  simp only [matchRepeat, Bool.and_eq_true, decide_eq_true_eq] at h
  by_cases hlast : s.getLast? = some 0x0A
  · simp only [if_pos hlast] at h ⊢
    refine ⟨?_, fun hne => absurd hlast hne⟩
    rcases List.getLast?_eq_some_iff.mp hlast with ⟨front, rfl⟩
    rw [List.dropLast_concat] at h
    have hthree : front.length = 3 := by omega
    -- one character too many, and it is no space
    simp [varchar, htext, hthree]
  · simp only [if_neg hlast] at h ⊢
    have hthree : s.length = 3 := by omega
    refine ⟨by simp [varchar, htext, hthree], fun _ => ?_⟩
    unfold matchesClass
    rw [Bool.and_eq_true]
    exact ⟨by simp [hthree], h.2⟩

/-- The values of a validated request are those of its reservation. -/
structure ReservationOf (request : CreateTransactionRequest) (a : ReserveArgs) : Prop where
  transactionId : a.transactionId = request.transactionId
  merchantId : a.merchantId = request.merchantId
  amount : a.amount = request.amount
  currency : a.currency = request.currency

section Insert

variable {request : CreateTransactionRequest} {a : ReserveArgs} (hvalid : request.Valid)
  (hvalues : ReservationOf request a)

include hvalid hvalues

/-- The transaction row of a validated request takes its values as they are, or the statement is a
data error. -/
theorem transactionInsert_validated (now : Timestamp) :
    (StorableValues request → transactionInsert a now = some (createdRow a now)) ∧
      (¬ StorableValues request → transactionInsert a now = none) := by
  have hid := varchar_validated hvalid.transactionId_stripped hvalid.transactionId_length
  have hmerchant := varchar_validated hvalid.merchantId_stripped hvalid.merchantId_length
  have hcurrency := (varchar_currency_validated hvalid.currency_format).1
  have hamount : bigint request.amount = true ↔ request.amount < 2 ^ 63 := by
    have hpos := hvalid.amount_pos
    simp only [bigint, Bool.and_eq_true, decide_eq_true_eq]
    omega
  rw [← hvalues.transactionId] at hid
  rw [← hvalues.merchantId] at hmerchant
  rw [← hvalues.currency] at hcurrency
  rw [← hvalues.amount] at hamount
  constructor
  · intro h
    have hid' : pgText a.transactionId = true := by
      rw [hvalues.transactionId]
      exact pgText_iff.mpr h.transactionId
    have hmerchant' : pgText a.merchantId = true := by
      rw [hvalues.merchantId]
      exact pgText_iff.mpr h.merchantId
    have hcurrency' : a.currency.getLast? ≠ some 0x0A := hvalues.currency ▸ h.currency
    have hamount' : bigint a.amount = true := hamount.mpr (hvalues.amount ▸ h.amount)
    rw [if_pos hid'] at hid
    rw [if_pos hmerchant'] at hmerchant
    rw [if_neg hcurrency'] at hcurrency
    simp [transactionInsert, hid, hmerchant, hcurrency, hamount', createdRow]
  · intro h
    -- one of the four values is refused
    by_cases hid' : pgText a.transactionId = true
    · by_cases hmerchant' : pgText a.merchantId = true
      · by_cases hcurrency' : a.currency.getLast? = some 0x0A
        · rw [if_pos hcurrency'] at hcurrency
          simp [transactionInsert, hcurrency]
        · have hbig : ¬ bigint a.amount = true := by
            intro hfits
            rw [hvalues.transactionId] at hid'
            rw [hvalues.merchantId] at hmerchant'
            exact h ⟨pgText_iff.mp hid', pgText_iff.mp hmerchant',
              hvalues.amount ▸ hamount.mp hfits, hvalues.currency ▸ hcurrency'⟩
          unfold transactionInsert
          split
          · rw [if_neg hbig]
          · rfl
      · rw [if_neg hmerchant'] at hmerchant
        simp [transactionInsert, hmerchant]
    · rw [if_neg hid'] at hid
      simp [transactionInsert, hid]

/-- The row of a storable request passes the checks of its table. -/
theorem createdRow_admitted (h : StorableValues request) (now : Timestamp) :
    (createdRow a now).admitted = true := by
  -- what Python strips and PostgreSQL trims agrees on validated texts
  have htrimmed : ∀ s : PyStr, strip s = s → s ≠ [] → s.length ≤ 128 → trimmedLength s = true := by
    intro s hstripped hne hlength
    refine (trimmedLength_iff hlength).mpr fun hblank => hne ?_
    rw [← hstripped]
    exact strip_eq_nil_of_btrim hblank
  have hid : trimmedLength a.transactionId = true := by
    rw [hvalues.transactionId]
    exact htrimmed _ hvalid.transactionId_stripped hvalid.transactionId_nonblank
      hvalid.transactionId_length
  have hmerchant : trimmedLength a.merchantId = true := by
    rw [hvalues.merchantId]
    exact htrimmed _ hvalid.merchantId_stripped hvalid.merchantId_nonblank hvalid.merchantId_length
  have hcurrency : matchesClass upperLetter 3 a.currency = true := by
    rw [hvalues.currency]
    exact (varchar_currency_validated hvalid.currency_format).2 h.currency
  have hamount : 0 < a.amount := by
    rw [hvalues.amount]
    exact hvalid.amount_pos
  have hstatus : (createdRow a now).statusValid = true :=
    statusValid_iff.mpr ⟨.created, rfl⟩
  have hpair : (createdRow a now).reconciliationInvariant = true := by
    simp [TransactionRow.reconciliationInvariant, createdRow]
  have hpending : (createdRow a now).pendingOperationValid = true := rfl
  unfold TransactionRow.admitted
  simp only [hstatus, hpair, hpending, Bool.and_true]
  simp [createdRow, hid, hmerchant, hamount, hcurrency]

end Insert

/-! ## Reservations of accepted requests -/

/-- Both rows of a request satisfy the schema, and where neither is there yet `reserve` returns
`ACQUIRED`. -/
def Reservable (request : Request) : Prop :=
  ∃ a, request.reserveArgs = .ok a ∧ Fits a ∧
    ∀ (T : Tables) (now : Timestamp), SchemaOk T → T (.record a.keyHash) = none →
      T (.transaction a.transactionId) = none →
      (reserveAlone a now T).2 = .done (.ok (reservation .acquired))

theorem reserveAlone_of_fits {a : ReserveArgs} (hfits : Fits a) {T : Tables} (hT : SchemaOk T)
    (hrecord : T (.record a.keyHash) = none) (hrow : T (.transaction a.transactionId) = none)
    (now : Timestamp) : (reserveAlone a now T).2 = .done (.ok (reservation .acquired)) := by
  have hready : ReserveReady T _ a now (createdRow a now) (inProgressRecord a now) :=
    { insert_row := hfits.row_fits now
      row_ok := hfits.row_ok now
      insert_record := hfits.record_fits now
      record_ok := hfits.record_ok now
      row_new := hrow
      record_new := hrecord
      pending_eq := rfl }
  exact (reserveAlone_of_ready hT hready).2

theorem reservationOf_reserveArgs {request : CreateTransactionRequest} {correlationId key : PyStr}
    {a : ReserveArgs}
    (h : Request.reserveArgs ⟨authorizeCommand request correlationId, key⟩ = .ok a) :
    ReservationOf request a := by
  rcases reserveArgs_ok h with ⟨_, _, hid, hmerchant, hamount, hcurrency⟩
  exact ⟨hid, hmerchant, hamount, hcurrency⟩

/-- An amount of 64 bits has few enough digits for `json.dumps`. -/
theorem printable_of_bigint {n : Int} (hpos : 0 < n) (h : n < 2 ^ 63) : printable n = true := by
  rw [printable_iff]
  have hsmall : n.natAbs < 10 ^ 19 := by omega
  exact hsmall.trans_le (Nat.pow_le_pow_right (by decide) (by decide))

/-- A request with a fingerprint has an amount that can be printed. -/
theorem amount_printable {request : Request} {a : ReserveArgs} (h : request.reserveArgs = .ok a) :
    printable a.amount = true := by
  rcases reserveArgs_ok h with ⟨_, hprint, _, _, hamount, _⟩
  rcases computeRequestFingerprint_ok hprint with ⟨text, htext, _⟩
  rw [canonicalJson_eq] at htext
  split at htext
  · rename_i hdigits
    rw [hamount]
    exact decide_eq_true hdigits
  · cases htext

/-- With a key that can be hashed and an amount that can be printed both digests exist. -/
theorem reserveArgs_of_printable {request : Request} {keyHash : PyStr}
    (hkeyHash : computeKeyHash request.idempotencyKey = .ok keyHash)
    (hprintable : printable request.command.amount = true) :
    ∃ a, request.reserveArgs = .ok a := by
  have hdigits : (textOfNat request.payload.amount.natAbs).length ≤ maxStrDigits :=
    of_decide_eq_true hprintable
  have hcanonical : (canonicalJson request.payload).isSome = true := by
    rw [canonicalJson_eq, if_pos hdigits]
    rfl
  exact reserveArgs_defined hkeyHash hcanonical

theorem fits_of_storable {request : CreateTransactionRequest} (hvalid : request.Valid)
    (hstorable : StorableValues request) {correlationId key : PyStr} {a : ReserveArgs}
    (hargs : Request.reserveArgs ⟨authorizeCommand request correlationId, key⟩ = .ok a) : Fits a := by
  have hvalues := reservationOf_reserveArgs hargs
  rcases reserveArgs_ok hargs with ⟨hkeyHash, hprint, _⟩
  have hkeyFormat : matchesClass lowerHex 64 a.keyHash = true := isDigest_sha256Text hkeyHash
  have hprintFormat : matchesClass lowerHex 64 a.requestFingerprint = true :=
    isDigest_fingerprint hprint
  -- the id was stripped and measured, so the column takes it if it is a text at all
  have hid : varchar 128 a.transactionId = some a.transactionId := by
    rw [hvalues.transactionId, varchar_validated hvalid.transactionId_stripped
      hvalid.transactionId_length, if_pos (pgText_iff.mpr hstorable.transactionId)]
  have hrow := (transactionInsert_validated hvalid hvalues · |>.1 hstorable)
  exact
    { row_fits := hrow
      row_ok := createdRow_admitted hvalid hvalues hstorable
      record_fits := by
        intro now
        simp [recordInsert, IsDigest.fits hkeyFormat, IsDigest.fits hprintFormat, hid,
          inProgressRecord]
      record_ok := by
        intro now
        simp [IdempotencyRecord.admitted, inProgressRecord, hkeyFormat, hprintFormat,
          IdempotencyRecord.payloadIntegrity, IdempotencyRecord.storedStatusCodeRange,
          IdempotencyRecord.storedHeadersAllowlist] }

/-- What happens otherwise: the first insert is a data error, and the request fails with a
`PersistenceError`. -/
theorem reserve_raises_of_unstorable {request : CreateTransactionRequest} (hvalid : request.Valid)
    (hnot : ¬ StorableValues request)
    {correlationId key : PyStr} {a : ReserveArgs}
    (hargs : Request.reserveArgs ⟨authorizeCommand request correlationId, key⟩ = .ok a) {T : Tables}
    (hrecord : T (.record a.keyHash) = none) (now : Timestamp) :
    (reserveAlone a now T).2 = .done (.error reservationFailed) := by
  have hinsert := (transactionInsert_validated hvalid (reservationOf_reserveArgs hargs) now).2 hnot
  -- the fingerprint has printed the amount, so the driver can print it as well
  have herror : transactionInsertError a = reservationFailed := by
    unfold transactionInsertError
    rw [valueRefused_of_printable (amount_printable hargs)]
    split <;> rfl
  have htext : pgText a.keyHash = true :=
    (isDigest_sha256Text (reserveArgs_ok hargs).1).text
  have hselect : reserveStep (Server.fresh T) () a now .select =
      some (Server.fresh T, .insertTransaction now) := by
    simp [reserveStep, htext, fresh_view, hrecord]
  have hrefused : reserveStep (Server.fresh T) () a now (.insertTransaction now) =
      some (Server.fresh T, .rollback reservationFailed) := by
    simp [reserveStep, hinsert, herror]
  unfold reserveAlone
  rw [drive_of_next hselect, drive_of_next hrefused]
  -- the transaction block is left through its rollback
  rfl

/-- For every body the API accepts and every key it accepts: the request can be reserved if and only
if neither id contains a NUL character or a surrogate, the amount is below `2 ^ 63` and the currency has
no final newline. -/
theorem accepted_reservable_iff (acceptsStr : PyStr → Bool) {body : Json}
    {request : CreateTransactionRequest}
    (hvalidate : CreateTransactionRequest.validate acceptsStr body = .ok request)
    {idempotencyKey : Option PyStr} {key : PyStr}
    (hkey : requireIdempotencyKey idempotencyKey = some key) (correlationId : PyStr) :
    Reservable ⟨authorizeCommand request correlationId, key⟩ ↔ StorableValues request := by
  have hvalid := CreateTransactionRequest.validate_valid hvalidate
  constructor
  · rintro ⟨a, hargs, hfits, _⟩
    by_contra hnot
    have hnone := (transactionInsert_validated hvalid (reservationOf_reserveArgs hargs) 0).2 hnot
    rw [hfits.row_fits 0] at hnone
    cases hnone
  · intro hstorable
    have hprintable := printable_of_bigint hvalid.amount_pos hstorable.amount
    rcases computeKeyHash_defined hkey with ⟨keyHash, hkeyHash⟩
    have hdefined : ∃ a, Request.reserveArgs ⟨authorizeCommand request correlationId, key⟩ = .ok a :=
      reserveArgs_of_printable hkeyHash hprintable
    rcases hdefined with ⟨a, hargs⟩
    have hfits := fits_of_storable hvalid hstorable hargs
    exact ⟨a, hargs, hfits, fun T now hT hrecord hrow => reserveAlone_of_fits hfits hT hrecord hrow now⟩

/-- A body with the given currency. -/
def bodyIn (currency : PyStr) : Json :=
  .obj [(py "transaction_id", .str (py "txn_1")), (py "merchant_id", .str (py " m_1 ")),
    (py "payment_token", .str (py "tok_test_approved")), (py "amount", .int 100),
    (py "currency", .str currency)]

def requestIn (currency : PyStr) : CreateTransactionRequest :=
  { transactionId := py "txn_1"
    merchantId := py "m_1"
    paymentToken := py "tok_test_approved"
    amount := 100
    currency := currency }

theorem accepted_reservable_iff_usd :
    Reservable ⟨authorizeCommand (requestIn (py "USD")) (py "c-1"), py "key-1"⟩ := by
  have hvalidate : CreateTransactionRequest.validate (fun _ => true) (bodyIn (py "USD")) =
      .ok (requestIn (py "USD")) := rfl
  have hkey : requireIdempotencyKey (some (py "key-1")) = some (py "key-1") := rfl
  exact (accepted_reservable_iff _ hvalidate hkey (py "c-1")).mpr
    ⟨pgText_iff.mp rfl, pgText_iff.mp rfl, by decide, by decide⟩

/-- `$` matches before the newline, and the column has room for three characters. -/
theorem newlineCurrency_not_reservable :
    CreateTransactionRequest.validate (fun _ => true) (bodyIn (py "USD\n")) =
        .ok (requestIn (py "USD\n")) ∧
      requireIdempotencyKey (some (py "key-1")) = some (py "key-1") ∧
      ¬ Reservable ⟨authorizeCommand (requestIn (py "USD\n")) (py "c-1"), py "key-1"⟩ := by
  refine ⟨rfl, rfl, ?_⟩
  rintro ⟨a, hargs, hfits, _⟩
  rcases reserveArgs_ok hargs with ⟨_, _, _, _, _, hcurrency⟩
  have hstored := (transactionInsert_fields (hfits.row_fits 0)).2.2.2.1
  rw [hcurrency] at hstored
  have hrefused : varchar 3 (py "USD\n") = none := by decide
  cases hrefused.symm.trans hstored

end System
end TransactionPlatform
