import TransactionPlatform.Api.Schemas
import TransactionPlatform.Application.IdempotentOrchestrator

/-!
# App — the endpoint `POST /v1/transactions`

`create_transaction` in `src/transaction_platform/api/app.py`: the command it builds from a
validated request, and the HTTP answer it builds from an envelope.
-/

namespace TransactionPlatform
namespace Api

open Text Ports Application

def authorizeCommand (request : CreateTransactionRequest) (correlationId : PyStr) :
    AuthorizeTransactionCommand :=
  { transactionId := request.transactionId
    merchantId := request.merchantId
    paymentToken := request.paymentToken
    amount := request.amount
    currency := request.currency
    correlationId := correlationId }

/-- The command of some request the API lets through. -/
def Admitted (acceptsStr : PyStr → Bool) (command : AuthorizeTransactionCommand) : Prop :=
  ∃ body request, CreateTransactionRequest.validate acceptsStr body = .ok request ∧
    command = authorizeCommand request command.correlationId

structure HttpAnswer where
  statusCode : Int
  body : Json
  headers : Headers
  mediaType : Option PyStr
  deriving Repr

/-- The `JSONResponse` of an envelope. -/
def httpAnswer (envelope : ResponseEnvelope) : HttpAnswer :=
  { statusCode := envelope.statusCode
    body := envelope.body
    headers :=
      if envelope.isReplay then Dict.set envelope.headers (py "Idempotent-Replay") (py "true")
      else envelope.headers
    mediaType := envelope.mediaType }

/-- The correlation id is not part of the body. -/
theorem Admitted.withCorrelationId {acceptsStr : PyStr → Bool}
    {command : AuthorizeTransactionCommand} (h : Admitted acceptsStr command) (correlationId : PyStr) :
    Admitted acceptsStr { command with correlationId := correlationId } := by
  rcases h with ⟨body, request, hvalidate, hcommand⟩
  refine ⟨body, request, hvalidate, ?_⟩
  rw [hcommand]
  rfl

/-- The fields a command has from its request. -/
def commandFields (command : AuthorizeTransactionCommand) : CreateTransactionRequest :=
  { transactionId := command.transactionId
    merchantId := command.merchantId
    paymentToken := command.paymentToken
    amount := command.amount
    currency := command.currency }

/-- The fields of an admitted command are those of a validated request. -/
theorem Admitted.valid {acceptsStr : PyStr → Bool} {command : AuthorizeTransactionCommand}
    (h : Admitted acceptsStr command) : (commandFields command).Valid := by
  rcases h with ⟨body, request, hvalidate, hcommand⟩
  have hfields : commandFields command = request := by
    rw [hcommand]
    rfl
  rw [hfields]
  exact CreateTransactionRequest.validate_valid hvalidate

/-- An admitted command has a transaction id the entity accepts. -/
theorem Admitted.transactionId_nonblank {acceptsStr : PyStr → Bool}
    {command : AuthorizeTransactionCommand} (h : Admitted acceptsStr command) :
    strip command.transactionId ≠ [] := by
  have hstripped : strip command.transactionId = command.transactionId :=
    h.valid.transactionId_stripped
  rw [hstripped]
  exact h.valid.transactionId_nonblank

end Api
end TransactionPlatform
