import TransactionPlatform.Application.AuthorizeTransaction
import TransactionPlatform.Common.ProblemDetails

/-!
# IdempotentOrchestrator — envelopes and the two halves of `handle_authorization`

`src/transaction_platform/application/idempotent_orchestrator.py`.  The coroutine is cut at its
`await`s: `answerReservation` is what it does with the reservation, `completion` what it does
between the port's answer and the call of `complete`.
-/

namespace TransactionPlatform
namespace Application

open Text Domain Ports Common

def jsonMediaType : PyStr :=
  py "application/json"

/-- `ProblemDetail(...).model_dump(exclude_none=True)` without invalid parameters. -/
def problemBody (problemType title : PyStr) (status : Int) (detail : PyStr) : Json :=
  .obj [(py "type", .str problemType), (py "title", .str title), (py "status", .int status),
    (py "detail", .str detail)]

/-- `_make_problem_envelope`. -/
def makeProblemEnvelope (statusCode : Int) (problemType title detail : String)
    (headers : Headers) : ResponseEnvelope :=
  { statusCode := statusCode
    body := problemBody (py problemType) (py title) statusCode (py detail)
    headers := headers
    isReplay := false
    mediaType := some problemMediaType }

/-- `text or ""`. -/
def orEmpty (text : Option PyStr) : PyStr :=
  text.getD []

def jsonEnvelope (statusCode : Int) (body : Json) : ResponseEnvelope :=
  { statusCode := statusCode
    body := body
    headers := []
    isReplay := false
    mediaType := some jsonMediaType }

/-- `map_result_to_envelope`. -/
def mapResultToEnvelope (result : AuthorizeTransactionResult) : ResponseEnvelope :=
  let txn := result.transaction
  if txn.status = .authorized then
    jsonEnvelope 201 (.obj
      [(py "transaction_id", .str txn.transactionId), (py "status", .str (py "AUTHORIZED")),
        (py "version", .int txn.version),
        (py "network_reference", .str (orEmpty result.networkReference)),
        (py "authorization_code", .str (orEmpty result.authorizationCode))])
  else if txn.status = .declined then
    jsonEnvelope 201 (.obj
      [(py "transaction_id", .str txn.transactionId), (py "status", .str (py "DECLINED")),
        (py "version", .int txn.version), (py "decline_code", .str (orEmpty result.declineCode))])
  else
    jsonEnvelope 202 (.obj
      [(py "transaction_id", .str txn.transactionId),
        (py "status", .str (py "PENDING_RECONCILIATION")), (py "version", .int txn.version),
        (py "pending_operation", .str (py "AUTHORIZATION"))])

def idempotencyConflictEnvelope : ResponseEnvelope :=
  makeProblemEnvelope 409 "urn:problem-type:idempotency-conflict" "Idempotency Conflict"
    "The request payload does not match the original request for this idempotency key." []

def inProgressEnvelope : ResponseEnvelope :=
  makeProblemEnvelope 409 "urn:problem-type:idempotency-in-progress"
    "Idempotency Request In Progress"
    "A request with this idempotency key is currently being processed."
    [(py "Retry-After", py "1")]

def transactionIdConflictEnvelope : ResponseEnvelope :=
  makeProblemEnvelope 409 "urn:problem-type:transaction-id-conflict" "Transaction ID Conflict"
    "The provided transaction_id already exists under a different idempotency key." []

def rateLimitedProblem (retryAfter : Int) : ResponseEnvelope :=
  makeProblemEnvelope 503 "urn:problem-type:provider-rate-limited" "Downstream rate limit exceeded"
    "Downstream payment network rate limit exceeded." [(py "Retry-After", textOfInt retryAfter)]

/-- The envelope of a rate limit; printing the waiting time may fail. -/
def rateLimitedEnvelope (retryAfter : Int) : Except Exc ResponseEnvelope :=
  if printable retryAfter then .ok (rateLimitedProblem retryAfter)
  else .error (.foreign (py "ValueError"))

def rejectedEnvelope : ResponseEnvelope :=
  makeProblemEnvelope 502 "urn:problem-type:downstream-rejected" "Payment network request rejected"
    "The payment network rejected the authorization request." []

/-- What `handle_authorization` does with a reservation: answer at once (or raise), or, with
`none`, go on to the payment network. -/
def answerReservation (reservation : IdempotencyReservation) :
    Option (Except Exc ResponseEnvelope) :=
  match reservation.status with
  | .completed =>
      match reservation.storedEnvelope with
      | some envelope => some (.ok envelope)
      | none => some (.error .assertion)
  | .idempotencyConflict => some (.ok idempotencyConflictEnvelope)
  | .inProgress => some (.ok inProgressEnvelope)
  | .transactionIdConflict => some (.ok transactionIdConflictEnvelope)
  | .acquired => none

/-- The arguments `handle_authorization` passes to `complete` once the port has answered, or the
exception that leaves it. -/
def completion (command : AuthorizeTransactionCommand) (keyHash : PyStr) (outcome : PortOutcome) :
    Except Exc CompleteArgs :=
  match execute command outcome with
  | .ok result =>
      .ok { keyHash := keyHash
            transaction := result.transaction
            expectedVersion := 0
            envelope := mapResultToEnvelope result
            networkReference := result.networkReference
            authorizationCode := result.authorizationCode
            declineCode := result.declineCode }
  | .error (.downstreamRateLimitExceeded txn retryAfter) => do
      let envelope ← rateLimitedEnvelope retryAfter
      return { keyHash := keyHash
               transaction := txn
               expectedVersion := 0
               envelope := envelope
               networkReference := none
               authorizationCode := none
               declineCode := none }
  | .error (.downstreamRejected txn) =>
      .ok { keyHash := keyHash
            transaction := txn
            expectedVersion := 0
            envelope := rejectedEnvelope
            networkReference := none
            authorizationCode := none
            declineCode := none }
  | .error (.other e) => .error e

end Application
end TransactionPlatform
