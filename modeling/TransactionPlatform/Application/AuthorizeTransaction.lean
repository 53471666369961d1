import TransactionPlatform.Ports.PaymentNetwork

/-!
# AuthorizeTransaction — the authorization service

`src/transaction_platform/application/authorize_transaction.py`.  `execute` takes the way the port
call ended as an argument; `portRequest` is what the port was called with.
-/

namespace TransactionPlatform
namespace Application

open Text Domain Ports

structure AuthorizeTransactionCommand where
  transactionId : PyStr
  merchantId : PyStr
  paymentToken : PyStr
  amount : Int
  currency : PyStr
  correlationId : PyStr
  deriving DecidableEq, Repr

structure AuthorizeTransactionResult where
  transaction : Transaction
  networkReference : Option PyStr
  authorizationCode : Option PyStr
  declineCode : Option PyStr
  deriving DecidableEq, Repr

inductive ServiceError
  | downstreamRateLimitExceeded (transaction : Transaction) (retryAfter : Int)
  | downstreamRejected (transaction : Transaction)
  | other (e : Exc)
  deriving DecidableEq, Repr

def portRequest (command : AuthorizeTransactionCommand) : PaymentNetworkAuthorizationRequest :=
  { transactionId := command.transactionId
    merchantId := command.merchantId
    paymentToken := command.paymentToken
    amount := command.amount
    currency := command.currency
    correlationId := command.correlationId }

/-- A mutator call inside the service: its exception is not handled there. -/
def mutated : Except TransactionError Unit × Transaction → Except ServiceError Transaction
  | (.ok (), t) => .ok t
  | (.error e, _) => .error (.other (.transaction e))

def ambiguous (t : Transaction) : Except ServiceError AuthorizeTransactionResult := do
  let t ← mutated (t.markPendingReconciliation (.inst .authorization))
  return ⟨t, none, none, none⟩

/-- `AuthorizeTransactionService.execute` after the entity has been constructed. -/
def settle (t : Transaction) : PortOutcome → Except ServiceError AuthorizeTransactionResult
  | .raised (.timeout _) => ambiguous t
  | .raised (.invalidResponse _) => ambiguous t
  | .raised (.unavailable _) => ambiguous t
  | .raised (.rateLimit retryAfter) => do
      let t ← mutated (t.transitionTo (.inst .failed))
      throw (.downstreamRateLimitExceeded t retryAfter)
  | .raised (.rejected _) => do
      let t ← mutated (t.transitionTo (.inst .failed))
      throw (.downstreamRejected t)
  | .escaped e => throw (.other e)
  | .authorized networkReference authorizationCode => do
      let t ← mutated (t.transitionTo (.inst .authorized))
      return ⟨t, some networkReference, some authorizationCode, none⟩
  | .declined declineCode => do
      let t ← mutated (t.transitionTo (.inst .declined))
      return ⟨t, none, none, some declineCode⟩
  | .unrecognized => ambiguous t

/-- `AuthorizeTransactionService.execute`. -/
def execute (command : AuthorizeTransactionCommand) (outcome : PortOutcome) :
    Except ServiceError AuthorizeTransactionResult :=
  match Transaction.new command.transactionId with
  | .error e => .error (.other (.transaction e))
  | .ok t => settle t outcome

end Application
end TransactionPlatform
