import TransactionPlatform.Application.AuthorizeTransaction
import TransactionPlatform.Common.Idempotency

/-!
# Schemas — validation of an inbound authorization request

`src/transaction_platform/api/schemas.py`.  A body is validated field by field in the order of the
class; every failing field and every extra key gives one error, and the request is built only when
there is none.

What pydantic's own `str` type takes besides well-formed text is its own business, so it is a
parameter: `acceptsStr` says which Python strings pass.
-/

namespace TransactionPlatform
namespace Api

open Text Application

structure CreateTransactionRequest where
  transactionId : PyStr
  merchantId : PyStr
  paymentToken : PyStr
  amount : Int
  currency : PyStr
  deriving DecidableEq, Repr

/-- Why a field is refused: a message of one of the validators, or a check of pydantic's own. -/
inductive FieldError
  | missing
  | valueError (message : PyStr)
  | stringType
  | stringUnicode
  | extraForbidden
  | notAnObject
  deriving DecidableEq, Repr

/-! ## Validators -/

/-- The common part of `validate_stripped_nonblank_string` and `validate_payment_token`. -/
def stripped (field : PyStr) : Json → Except FieldError PyStr
  | .str s =>
      if strip s = [] then .error (.valueError (field ++ py " must not be blank"))
      else if (strip s).length > 128 then
        .error (.valueError (field ++ py " must not exceed 128 characters"))
      else .ok (strip s)
  | _ => .error (.valueError (field ++ py " must be a string"))

/-- `validate_stripped_nonblank_string`. -/
def validateStrippedNonblankString (field : PyStr) (v : Json) : Except FieldError PyStr :=
  stripped field v

/-- `validate_payment_token`. -/
def validatePaymentToken (v : Json) : Except FieldError PyStr :=
  match stripped (py "payment_token") v with
  | .ok token =>
      if (py "tok_test_").isPrefixOf token then .ok token
      else
        .error (.valueError
          (py "payment_token must be a synthetic test token starting with tok_test_"))
  | .error e => .error e

/-- `validate_amount`; Python's booleans are integers and are refused first. -/
def validateAmount : Json → Except FieldError Int
  | .int n =>
      if n ≤ 0 then .error (.valueError (py "amount must be greater than zero")) else .ok n
  | _ => .error (.valueError (py "amount must be an integer"))

/-- `CURRENCY_FORMAT_REGEX`. -/
def currencyFormatRegex : Regex CodePoint :=
  .anchored upperLetter 3 3

/-- `validate_currency_format`, which runs after pydantic's own check. -/
def validateCurrencyFormat (s : PyStr) : Except FieldError PyStr :=
  if matchRepeat upperLetter 3 3 s then .ok s
  else
    .error (.valueError
      (py "currency must be exactly three uppercase ASCII letters (ISO 4217 format)"))

/-- The validator accepts what the pattern matches. -/
theorem validateCurrencyFormat_toOption (s : PyStr) :
    (validateCurrencyFormat s).toOption =
      if currencyFormatRegex.isMatch 0x0A s then some s else none := by
  have hnewline : upperLetter 0x0A = false := rfl
  rw [validateCurrencyFormat, matchRepeat_eq_isMatch hnewline]
  unfold currencyFormatRegex
  split <;> rfl

section Pydantic

variable (acceptsStr : PyStr → Bool)

/-- Pydantic's `str`. -/
def strType : Json → Except FieldError PyStr
  | .str s => if acceptsStr s then .ok s else .error .stringUnicode
  | _ => .error .stringType

/-- A `mode="before"` validator of a `str` field: pydantic checks what it returns. -/
def beforeStr (validator : Json → Except FieldError PyStr) (v : Json) : Except FieldError PyStr :=
  match validator v with
  | .ok s => strType acceptsStr (.str s)
  | .error e => .error e

def currencyField (v : Json) : Except FieldError PyStr :=
  match strType acceptsStr v with
  | .ok s => validateCurrencyFormat s
  | .error e => .error e

/-- One field of the model. -/
def field {α : Type} (name : String) (check : Json → Except FieldError α) (members : Dict Json) :
    Except (PyStr × FieldError) α :=
  match Dict.get members (py name) with
  | none => .error (py name, .missing)
  | some v =>
      match check v with
      | .ok a => .ok a
      | .error e => .error (py name, e)

def fieldErrors {α : Type} : Except (PyStr × FieldError) α → List (PyStr × FieldError)
  | .ok _ => []
  | .error e => [e]

def schemaFields : List PyStr :=
  [py "transaction_id", py "merchant_id", py "payment_token", py "amount", py "currency"]

/-- `extra="forbid"`. -/
def extraErrors (members : Dict Json) : List (PyStr × FieldError) :=
  (members.filter fun m => !schemaFields.contains m.1).map fun m => (m.1, .extraForbidden)

/-- `CreateTransactionRequest.model_validate`. -/
def CreateTransactionRequest.validate : Json →
    Except (List (PyStr × FieldError)) CreateTransactionRequest
  | .obj members =>
      let transactionId := field "transaction_id"
        (beforeStr acceptsStr (validateStrippedNonblankString (py "transaction_id"))) members
      let merchantId := field "merchant_id"
        (beforeStr acceptsStr (validateStrippedNonblankString (py "merchant_id"))) members
      let paymentToken := field "payment_token" (beforeStr acceptsStr validatePaymentToken) members
      let amount := field "amount" validateAmount members
      let currency := field "currency" (currencyField acceptsStr) members
      match transactionId, merchantId, paymentToken, amount, currency, extraErrors members with
      | .ok transactionId, .ok merchantId, .ok paymentToken, .ok amount, .ok currency, [] =>
          .ok { transactionId, merchantId, paymentToken, amount, currency }
      | transactionId, merchantId, paymentToken, amount, currency, extra =>
          .error (fieldErrors transactionId ++ fieldErrors merchantId ++
            fieldErrors paymentToken ++ fieldErrors amount ++ fieldErrors currency ++ extra)
  | _ => .error [(py "body", .notAnObject)]

end Pydantic

/-! ## What a validated request satisfies -/

/-- What the validators promise about the values of a request. -/
structure CreateTransactionRequest.Valid (request : CreateTransactionRequest) : Prop where
  transactionId_stripped : strip request.transactionId = request.transactionId
  transactionId_nonblank : request.transactionId ≠ []
  transactionId_length : request.transactionId.length ≤ 128
  merchantId_stripped : strip request.merchantId = request.merchantId
  merchantId_nonblank : request.merchantId ≠ []
  merchantId_length : request.merchantId.length ≤ 128
  amount_pos : 0 < request.amount
  currency_format : matchRepeat upperLetter 3 3 request.currency = true

theorem stripped_ok {name s : PyStr} {v : Json} (h : stripped name v = .ok s) :
    strip s = s ∧ s ≠ [] ∧ s.length ≤ 128 := by
  cases v with
  | str t =>
      simp only [stripped] at h
      split at h
      · cases h
      · rename_i hblank
        split at h
        · cases h
        · rename_i hlong
          cases h
          exact ⟨strip_strip t, hblank, by omega⟩
  | _ =>
      cases h

theorem strType_ok {acceptsStr : PyStr → Bool} {s t : PyStr}
    (h : strType acceptsStr (.str s) = .ok t) : t = s := by
  simp only [strType] at h
  split at h
  · exact (Except.ok.inj h).symm
  · cases h

theorem beforeStr_ok {acceptsStr : PyStr → Bool} {validator : Json → Except FieldError PyStr}
    {v : Json} {s : PyStr} (h : beforeStr acceptsStr validator v = .ok s) : validator v = .ok s := by
  unfold beforeStr at h
  split at h
  · rename_i t ht
    rw [ht, strType_ok h]
  · cases h

theorem field_ok {α : Type} {name : String} {check : Json → Except FieldError α}
    {members : Dict Json} {a : α} (h : field name check members = .ok a) :
    ∃ v, Dict.get members (py name) = some v ∧ check v = .ok a := by
  unfold field at h
  split at h
  · cases h
  · rename_i v hv
    split at h
    · rename_i b hb
      cases h
      exact ⟨v, hv, hb⟩
    · cases h

theorem validateAmount_pos {v : Json} {n : Int} (h : validateAmount v = .ok n) : 0 < n := by
  cases v with
  | int m =>
      simp only [validateAmount] at h
      split at h
      · cases h
      · cases h
        omega
  | _ =>
      cases h

theorem currencyField_format {acceptsStr : PyStr → Bool} {v : Json} {s : PyStr}
    (h : currencyField acceptsStr v = .ok s) : matchRepeat upperLetter 3 3 s = true := by
  simp only [currencyField] at h
  split at h
  · simp only [validateCurrencyFormat] at h
    split at h
    · rename_i hmatch
      cases h
      exact hmatch
    · cases h
  · cases h

theorem beforeStr_accepts {acceptsStr : PyStr → Bool} {validator : Json → Except FieldError PyStr}
    {v : Json} {s : PyStr} (h : beforeStr acceptsStr validator v = .ok s) : acceptsStr s = true := by
  unfold beforeStr at h
  split at h
  · rename_i t _
    have hst := strType_ok h
    subst hst
    simp only [strType] at h
    split at h
    · assumption
    · cases h
  · cases h

theorem currencyField_accepts {acceptsStr : PyStr → Bool} {v : Json} {s : PyStr}
    (h : currencyField acceptsStr v = .ok s) : acceptsStr s = true := by
  cases v with
  | str t =>
      simp only [currencyField, strType, validateCurrencyFormat] at h
      split at h
      · rename_i t' haccepts
        split at haccepts
        · rename_i hacc
          cases haccepts
          split at h
          · cases h
            exact hacc
          · cases h
        · cases haccepts
      · cases h
  | _ =>
      cases h

/-- Every text of a validated request has passed pydantic's `str`. -/
theorem CreateTransactionRequest.validate_accepts {acceptsStr : PyStr → Bool} {body : Json}
    {request : CreateTransactionRequest}
    (h : CreateTransactionRequest.validate acceptsStr body = .ok request) :
    acceptsStr request.transactionId = true ∧ acceptsStr request.merchantId = true ∧
      acceptsStr request.paymentToken = true ∧ acceptsStr request.currency = true := by
  cases body with
  | obj members =>
      simp only [CreateTransactionRequest.validate] at h
      split at h
      · rename_i _ id merchant token amount currency hid hmerchant htoken hamount hcurrency _
        cases h
        rcases field_ok hid with ⟨v, _, hv⟩
        rcases field_ok hmerchant with ⟨v', _, hv'⟩
        rcases field_ok htoken with ⟨w, _, hw⟩
        rcases field_ok hcurrency with ⟨u, _, hu⟩
        exact ⟨beforeStr_accepts hv, beforeStr_accepts hv', beforeStr_accepts hw,
          currencyField_accepts hu⟩
      · cases h
  | _ =>
      cases h

theorem CreateTransactionRequest.validate_valid {acceptsStr : PyStr → Bool} {body : Json}
    {request : CreateTransactionRequest}
    (h : CreateTransactionRequest.validate acceptsStr body = .ok request) : request.Valid := by
  cases body with
  | obj members =>
      simp only [CreateTransactionRequest.validate] at h
      split at h
      · rename_i _ id merchant token amount currency hid hmerchant htoken hamount hcurrency _
        cases h
        -- each validator says what it has checked
        rcases field_ok hid with ⟨v, _, hv⟩
        rcases stripped_ok (beforeStr_ok hv) with ⟨hs, hne, hlen⟩
        rcases field_ok hmerchant with ⟨v', _, hv'⟩
        rcases stripped_ok (beforeStr_ok hv') with ⟨hs', hne', hlen'⟩
        rcases field_ok hamount with ⟨w, _, hw⟩
        rcases field_ok hcurrency with ⟨u, _, hu⟩
        exact
          { transactionId_stripped := hs
            transactionId_nonblank := hne
            transactionId_length := hlen
            merchantId_stripped := hs'
            merchantId_nonblank := hne'
            merchantId_length := hlen'
            amount_pos := validateAmount_pos hw
            currency_format := currencyField_format hu }
      · cases h
  | _ =>
      cases h

end Api
end TransactionPlatform
