import TransactionPlatform.Lib.Json

/-!
# ProblemDetails — RFC 7807 bodies

`src/transaction_platform/common/problem_details.py`.  A problem response names the fields it
complains about only by labels from a fixed list.
-/

namespace TransactionPlatform
namespace Common

open Text

def problemMediaType : PyStr :=
  py "application/problem+json"

def safeSchemaFields : List PyStr :=
  [py "transaction_id", py "request_id", py "merchant_id", py "payment_token", py "amount",
    py "currency", py "body"]

def forbiddenSensitiveFields : List PyStr :=
  [py "pan", py "cvv", py "card_number", py "security_code", py "expiration_date",
    py "cardholder_name"]

structure InvalidParameter where
  field : PyStr
  reason : PyStr
  deriving DecidableEq, Repr

/-- `map_safe_field_name`. -/
def mapSafeFieldName (rawField : PyStr) : PyStr :=
  let normalized := lower (strip rawField)
  if safeSchemaFields.contains normalized then normalized
  else if forbiddenSensitiveFields.contains normalized then py "sensitive_parameter"
  else py "unknown_parameter"

/-- A Starlette `JSONResponse`. -/
structure JsonResponse where
  statusCode : Int
  content : Json
  mediaType : PyStr
  headers : Dict PyStr
  deriving Repr

def InvalidParameter.modelDump (p : InvalidParameter) : Json :=
  .obj [(py "field", .str p.field), (py "reason", .str p.reason)]

/-- `build_problem_response`; `model_dump(exclude_none=True)` leaves missing parameters out. -/
def buildProblemResponse (statusCode : Int) (problemType title detail : String)
    (invalidParameters : Option (List InvalidParameter)) (headers : Dict PyStr) : JsonResponse :=
  { statusCode := statusCode
    content := .obj
      ([(py "type", .str (py problemType)), (py "title", .str (py title)),
        (py "status", .int statusCode), (py "detail", .str (py detail))] ++
        match invalidParameters with
        | some parameters =>
            [(py "invalid_parameters", .arr (parameters.map InvalidParameter.modelDump))]
        | none => [])
    mediaType := problemMediaType
    headers := headers }

/-- Whatever the submitted key is, the label is one of the fixed ones. -/
theorem mapSafeFieldName_mem (rawField : PyStr) :
    mapSafeFieldName rawField ∈
      safeSchemaFields ++ [py "sensitive_parameter", py "unknown_parameter"] := by
  simp only [mapSafeFieldName]
  split
  · rename_i hsafe
    exact List.mem_append_left _ (List.contains_iff_mem.mp hsafe)
  · split <;> simp

end Common
end TransactionPlatform
