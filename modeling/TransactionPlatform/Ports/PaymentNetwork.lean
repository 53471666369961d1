import TransactionPlatform.Ports.IdempotencyCoordinator

/-!
# PaymentNetwork port — requests, results and failures

`src/transaction_platform/ports/payment_network.py`.
-/

namespace TransactionPlatform
namespace Ports

open Text

structure PaymentNetworkAuthorizationRequest where
  transactionId : PyStr
  merchantId : PyStr
  paymentToken : PyStr
  amount : Int
  currency : PyStr
  correlationId : PyStr
  deriving DecidableEq, Repr

/-- The five subclasses of `PaymentNetworkError`. -/
inductive PaymentNetworkError
  | timeout (message : PyStr)
  | rateLimit (retryAfter : Int)
  | invalidResponse (message : PyStr)
  | unavailable (message : PyStr)
  | rejected (message : PyStr)
  deriving DecidableEq, Repr

/-- How `await payment_network.authorize(request)` ends. -/
inductive PortOutcome
  | authorized (networkReference authorizationCode : PyStr)
  | declined (declineCode : PyStr)
  | unrecognized
  | raised (e : PaymentNetworkError)
  | escaped (e : Exc)
  deriving DecidableEq, Repr

/-- The port kept to its protocol: no exception outside the `PaymentNetworkError` family. -/
def PortOutcome.isRegular : PortOutcome → Bool
  | escaped _ => false
  | _ => true

/-- The waiting time a rate limit asks for can be printed; any other outcome has none. -/
def PortOutcome.waitPrints : PortOutcome → Bool
  | raised (.rateLimit retryAfter) => printable retryAfter
  | _ => true

end Ports
end TransactionPlatform
