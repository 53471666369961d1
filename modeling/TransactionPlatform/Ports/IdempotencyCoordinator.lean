import TransactionPlatform.Domain.Transaction
import TransactionPlatform.Lib.Json

/-!
# IdempotencyCoordinator port — envelopes, reservations and exceptions

`src/transaction_platform/ports/idempotency_coordinator.py`, together with the exceptions that can
leave a request.
-/

namespace TransactionPlatform
namespace Ports

open Text Domain

abbrev Headers := Dict PyStr

inductive ReservationStatus
  | acquired
  | inProgress
  | completed
  | idempotencyConflict
  | transactionIdConflict
  deriving DecidableEq, Repr

structure ResponseEnvelope where
  statusCode : Int
  body : Json
  headers : Headers
  isReplay : Bool
  mediaType : Option PyStr
  deriving Repr

structure IdempotencyReservation where
  status : ReservationStatus
  storedEnvelope : Option ResponseEnvelope
  deriving Repr

/-- Arguments of `reserve`. -/
structure ReserveArgs where
  keyHash : PyStr
  requestFingerprint : PyStr
  transactionId : PyStr
  merchantId : PyStr
  amount : Int
  currency : PyStr
  deriving DecidableEq, Repr

/-- Arguments of `complete`. -/
structure CompleteArgs where
  keyHash : PyStr
  transaction : Transaction
  expectedVersion : Int
  envelope : ResponseEnvelope
  networkReference : Option PyStr
  authorizationCode : Option PyStr
  declineCode : Option PyStr
  deriving Repr

/-- An exception on its way out of a request.  `foreign` is any class that no handler of the
modelled code names: a cancellation, a driver error outside SQLAlchemy, an uncaught `httpx` or
`json` exception. -/
inductive Exc
  | persistence (message : PyStr)
  | optimisticConcurrency (message : PyStr)
  | transaction (e : TransactionError)
  | assertion
  | unicodeEncode
  | foreign (className : PyStr)
  deriving DecidableEq, Repr

end Ports
end TransactionPlatform
