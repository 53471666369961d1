import TransactionPlatform.Api.Schemas

/-!
# Schemas — validation in the payment network emulator

`src/transaction_platform/emulator/schemas.py`.  The emulator has validators of its own; each of them
makes the checks of its counterpart in the API, but `payment_token` is only a non-blank text here and
the id of the request is called `request_id`.
-/

namespace TransactionPlatform
namespace Emulator

open Text Api

structure AuthorizationRequest where
  requestId : PyStr
  merchantId : PyStr
  paymentToken : PyStr
  amount : Int
  currency : PyStr
  deriving DecidableEq, Repr

/-! ## Validators -/

/-- `validate_stripped_nonblank_string`. -/
def validateStrippedNonblankString (fieldName : PyStr) (v : Json) : Except FieldError PyStr :=
  stripped fieldName v

/-- `validate_amount`. -/
def validateAmount (v : Json) : Except FieldError Int :=
  Api.validateAmount v

/-- `validate_currency_format`; the emulator's `CURRENCY_FORMAT_REGEX` is the API's. -/
def validateCurrencyFormat (s : PyStr) : Except FieldError PyStr :=
  Api.validateCurrencyFormat s

/-- `validate_currency_format` behind pydantic's own check. -/
def currencyField (acceptsStr : PyStr → Bool) (v : Json) : Except FieldError PyStr :=
  match strType acceptsStr v with
  | .ok s => validateCurrencyFormat s
  | .error e => .error e

def schemaFields : List PyStr :=
  [py "request_id", py "merchant_id", py "payment_token", py "amount", py "currency"]

/-- `extra="forbid"`. -/
def extraErrors (members : Dict Json) : List (PyStr × FieldError) :=
  (members.filter fun m => !schemaFields.contains m.1).map fun m => (m.1, .extraForbidden)

/-- `AuthorizationRequest.model_validate`. -/
def AuthorizationRequest.validate (acceptsStr : PyStr → Bool) : Json →
    Except (List (PyStr × FieldError)) AuthorizationRequest
  | .obj members =>
      let requestId := field "request_id"
        (beforeStr acceptsStr (validateStrippedNonblankString (py "request_id"))) members
      let merchantId := field "merchant_id"
        (beforeStr acceptsStr (validateStrippedNonblankString (py "merchant_id"))) members
      let paymentToken := field "payment_token"
        (beforeStr acceptsStr (validateStrippedNonblankString (py "payment_token"))) members
      let amount := field "amount" validateAmount members
      let currency := field "currency" (currencyField acceptsStr) members
      match requestId, merchantId, paymentToken, amount, currency, extraErrors members with
      | .ok requestId, .ok merchantId, .ok paymentToken, .ok amount, .ok currency, [] =>
          .ok { requestId, merchantId, paymentToken, amount, currency }
      | requestId, merchantId, paymentToken, amount, currency, extra =>
          .error (fieldErrors requestId ++ fieldErrors merchantId ++ fieldErrors paymentToken ++
            fieldErrors amount ++ fieldErrors currency ++ extra)
  | _ => .error [(py "body", .notAnObject)]

/-! ## Responses -/

/-- `AuthorizedResponse`. -/
def authorizedResponse (networkReference authorizationCode : PyStr) : Json :=
  .obj [(py "outcome", .str (py "AUTHORIZED")), (py "network_reference", .str networkReference),
    (py "authorization_code", .str authorizationCode)]

/-- `DeclinedResponse`. -/
def declinedResponse (declineCode : PyStr) : Json :=
  .obj [(py "outcome", .str (py "DECLINED")), (py "decline_code", .str declineCode)]

end Emulator
end TransactionPlatform
