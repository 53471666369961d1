import TransactionPlatform.Common.ProblemDetails
import TransactionPlatform.Emulator.Scenarios

/-!
# App — the emulator's endpoint `POST /v1/authorizations`

`src/transaction_platform/emulator/app.py` and its exception handlers in `emulator/errors.py`.  The
correlation id is checked before the body is validated.  `msg` gives the messages of pydantic's
errors, which only the validation problem shows.
-/

namespace TransactionPlatform
namespace Emulator

open Text Ports Api Common

/-- What the emulator sends, and whether it sleeps first. -/
structure Reply where
  sleeps : Bool
  statusCode : Int
  content : Content
  headers : Dict PyStr

def problemReply (response : JsonResponse) : Reply :=
  { sleeps := false
    statusCode := response.statusCode
    content := .json response.content
    headers := response.headers }

def okReply (sleeps : Bool) (content : Content) : Reply :=
  { sleeps := sleeps
    statusCode := 200
    content := content
    headers := [] }

/-! ## Exception handlers -/

/-- `missing_correlation_id_handler`. -/
def missingCorrelationIdReply : Reply :=
  problemReply (buildProblemResponse 400 "urn:problem-type:missing-correlation-id"
    "Missing or invalid correlation ID"
    ("The X-Correlation-ID header is required and must match " ++
      "pattern [A-Za-z0-9._:-]+ up to 128 characters without whitespace.") none [])

/-- `unsupported_token_handler`. -/
def unsupportedTokenReply : Reply :=
  problemReply (buildProblemResponse 422 "urn:problem-type:unsupported-token"
    "Unsupported payment token"
    "The provided payment token is not supported by the payment network emulator." none [])

/-- `rate_limited_handler`. -/
def rateLimitedReply : Reply :=
  problemReply (buildProblemResponse 429 "urn:problem-type:rate-limited" "Rate limit exceeded"
    "Payment network emulator simulated rate limit." none [(py "Retry-After", py "1")])

/-- The message of a validation error without pydantic's prefix. -/
def cleanMessage (message : PyStr) : PyStr :=
  if (py "Value error, ").isPrefixOf message then message.drop (py "Value error, ").length
  else message

/-- `validation_exception_handler` for a body that is JSON. -/
def validationReply (msg : FieldError → PyStr) (errors : List (PyStr × FieldError)) : Reply :=
  problemReply (buildProblemResponse 422 "urn:problem-type:validation-error" "Validation error"
    "The request body failed schema validation."
    (some (errors.map fun e => ⟨mapSafeFieldName e.1, cleanMessage (msg e.2)⟩)) [])

/-- The server's own answer to an exception without a handler. -/
def internalErrorReply : Reply :=
  { sleeps := false
    statusCode := 500
    content := .json (.str (py "Internal Server Error"))
    headers := [] }

/-! ## The endpoint -/

/-- The answer of a scenario; an exception without a handler leaves the route. -/
def scenarioReply (scenario : Scenario) : Except Exc Reply :=
  match scenario.result with
  | .authorized networkReference authorizationCode =>
      .ok (okReply scenario.sleeps (.json (authorizedResponse networkReference authorizationCode)))
  | .declined declineCode => .ok (okReply scenario.sleeps (.json (declinedResponse declineCode)))
  | .response content => .ok (okReply scenario.sleeps content)
  | .unsupportedToken => .ok unsupportedTokenReply
  | .rateLimited => .ok rateLimitedReply
  | .escaped e => .error e

/-- The route behind its dependency and the validation of the body. -/
def route (acceptsStr : PyStr → Bool) (msg : FieldError → PyStr) (xCorrelationId : Option PyStr)
    (body : Json) : Except Exc Reply :=
  match requireCorrelationId xCorrelationId with
  | none => .ok missingCorrelationIdReply
  | some _ =>
      match AuthorizationRequest.validate acceptsStr body with
      | .ok request => scenarioReply (executeAuthorizationScenario request)
      | .error errors => .ok (validationReply msg errors)

/-- `correlation_id_middleware`. -/
def reflectCorrelationId (xCorrelationId : Option PyStr) (reply : Reply) : Reply :=
  match requireCorrelationId xCorrelationId with
  | some correlationId =>
      { reply with headers := Dict.set reply.headers (py "X-Correlation-ID") correlationId }
  | none => reply

/-- `POST /v1/authorizations`. -/
def authorizations (acceptsStr : PyStr → Bool) (msg : FieldError → PyStr)
    (xCorrelationId : Option PyStr) (body : Json) : Reply :=
  match route acceptsStr msg xCorrelationId body with
  | .ok reply => reflectCorrelationId xCorrelationId reply
  | .error _ => internalErrorReply

end Emulator
end TransactionPlatform
