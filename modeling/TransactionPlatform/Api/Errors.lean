import TransactionPlatform.Api.App
import TransactionPlatform.Common.ProblemDetails

/-!
# Errors — the exception handlers of the API

`src/transaction_platform/api/errors.py`: the handlers that exceptions of the dependencies and of
`handle_authorization` reach, and the one for requests that fail validation.
`OptimisticConcurrencyError` is a `PersistenceError`; every other exception has no handler.
-/

namespace TransactionPlatform
namespace Api

open Text Ports Common

/-- `rate_limit_exceeded_handler`; the waiting time is that of the exception, if it is a
`DownstreamRateLimitExceededError`, and printing it may fail. -/
def rateLimitExceededHandler (retryAfter : Option Int) : Except Exc JsonResponse :=
  if printable (retryAfter.getD 1) then
    .ok (buildProblemResponse 503 "urn:problem-type:provider-rate-limited"
      "Downstream rate limit exceeded" "Downstream payment network rate limit exceeded." none
      [(py "Retry-After", textOfInt (retryAfter.getD 1))])
  else .error (.foreign (py "ValueError"))

/-- `downstream_rejected_handler`. -/
def downstreamRejectedHandler : JsonResponse :=
  buildProblemResponse 502 "urn:problem-type:downstream-rejected" "Payment network request rejected"
    "The payment network rejected the authorization request." none []

/-- `missing_correlation_id_handler`. -/
def missingCorrelationIdHandler : JsonResponse :=
  buildProblemResponse 400 "urn:problem-type:missing-correlation-id"
    "Missing or invalid correlation ID"
    ("The X-Correlation-ID header is required and must match " ++
      "pattern [A-Za-z0-9._:-]+ up to 128 characters without whitespace.") none []

/-- `missing_idempotency_key_handler`. -/
def missingIdempotencyKeyHandler : JsonResponse :=
  buildProblemResponse 400 "urn:problem-type:missing-idempotency-key"
    "Missing or invalid idempotency key"
    ("The Idempotency-Key header is required and must match " ++
      "pattern [A-Za-z0-9._:-]+ up to 128 characters without whitespace.") none []

/-- `persistence_error_handler`. -/
def persistenceErrorHandler : JsonResponse :=
  buildProblemResponse 500 "urn:problem-type:internal-persistence-error" "Internal Server Error"
    "A persistence error occurred while processing the transaction." none []

def JsonResponse.httpAnswer (response : JsonResponse) : HttpAnswer :=
  { statusCode := response.statusCode
    body := response.content
    headers := response.headers
    mediaType := some response.mediaType }

/-- The response of `create_transaction` once `handle_authorization` has ended. -/
def createTransaction : Except Exc ResponseEnvelope → Except Exc HttpAnswer
  | .ok envelope => .ok (httpAnswer envelope)
  | .error (.persistence _) => .ok (JsonResponse.httpAnswer persistenceErrorHandler)
  | .error (.optimisticConcurrency _) => .ok (JsonResponse.httpAnswer persistenceErrorHandler)
  | .error e => .error e

/-! ## Validation errors -/

/-- A part of the place an error points at: a key of an object or an index of a list. -/
inductive LocPart
  | key (s : PyStr)
  | index (n : Int)
  deriving DecidableEq, Repr

/-- `str(part)`. -/
def LocPart.text : LocPart → PyStr
  | .key s => s
  | .index n => textOfInt n

/-- One entry of `RequestValidationError.errors()`.  It holds the submitted value as `input`; the
members the handler reads may be missing. -/
structure ErrorDetails where
  type : Option PyStr
  loc : Option (List LocPart)
  msg : Option PyStr
  input : Json

/-- What `validation_exception_handler` is called with. -/
inductive ValidationExc
  | requestValidationError (errors : List ErrorDetails)
  | other

/-- `field_parts[0] if field_parts else "body"`. -/
def ErrorDetails.rawField (err : ErrorDetails) : PyStr :=
  match ((err.loc.getD []).filter fun part => part ≠ .key (py "body")).map LocPart.text with
  | part :: _ => part
  | [] => py "body"

/-- The message without the prefix pydantic puts in front of a `ValueError`. -/
def cleanMsg (rawMsg : PyStr) : PyStr :=
  if (py "Value error, ").isPrefixOf rawMsg then rawMsg.drop (py "Value error, ").length
  else rawMsg

/-- One round of the loop in `validation_exception_handler`. -/
def invalidParameter (err : ErrorDetails) : InvalidParameter :=
  { field := mapSafeFieldName err.rawField
    reason := cleanMsg (err.msg.getD (py "Invalid value")) }

/-- The 422 response of `validation_exception_handler`. -/
def validationProblem (invalidParameters : List InvalidParameter) : JsonResponse :=
  buildProblemResponse 422 "urn:problem-type:validation-error" "Validation error"
    "The request body failed schema validation." (some invalidParameters) []

/-- `validation_exception_handler`. -/
def validationExceptionHandler : ValidationExc → JsonResponse
  | .requestValidationError errors =>
      if errors.any fun err => err.type = some (py "json_invalid") then
        buildProblemResponse 400 "urn:problem-type:malformed-request" "Malformed JSON request"
          "The request body contains invalid JSON and could not be parsed." none []
      else validationProblem (errors.map invalidParameter)
  | .other =>
      buildProblemResponse 400 "urn:problem-type:malformed-request" "Malformed request"
        "The request could not be processed due to a formatting error." none []

end Api
end TransactionPlatform
