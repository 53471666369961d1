import TransactionPlatform.Common.Idempotency
import TransactionPlatform.Emulator.Schemas

/-!
# Scenarios — what the emulator does with a token

`src/transaction_platform/emulator/scenarios.py`.  A scenario says whether the emulator sleeps before
it answers, and what it answers or raises then.
-/

namespace TransactionPlatform
namespace Emulator

open Text Ports

def tokenApproved : PyStr :=
  py "tok_test_approved"

def tokenDeclined : PyStr :=
  py "tok_test_declined"

def tokenRateLimited : PyStr :=
  py "tok_test_rate_limited"

def tokenMalformed : PyStr :=
  py "tok_test_malformed"

def tokenTimeout : PyStr :=
  py "tok_test_timeout"

def supportedTokens : List PyStr :=
  [tokenApproved, tokenDeclined, tokenRateLimited, tokenMalformed, tokenTimeout]

/-! ## Content that is no JSON -/

/-- Where a reader stands: the brackets still open, and whether it is inside a string literal or
behind a backslash there. -/
structure Reader where
  depth : Nat
  inString : Bool
  escaped : Bool

def Reader.read (reader : Reader) (c : CodePoint) : Reader :=
  if reader.inString then
    if reader.escaped then { reader with escaped := false }
    else if c = 0x5C then { reader with escaped := true }
    else if c = 0x22 then { reader with inString := false }
    else reader
  else if c = 0x22 then { reader with inString := true }
  else if c = 0x7B ∨ c = 0x5B then { reader with depth := reader.depth + 1 }
  else if c = 0x7D ∨ c = 0x5D then { reader with depth := reader.depth - 1 }
  else reader

/-- The text ends inside an object, an array or a string; no JSON text does. -/
def endsInside (text : PyStr) : Bool :=
  let reader := text.foldl Reader.read ⟨0, false, false⟩
  0 < reader.depth || reader.inString

/-- The content of a response: a JSON value, or a text that `json.loads` refuses. -/
inductive Content
  | json (value : Json)
  | malformed (text : PyStr) (h : endsInside text = true)

/-! ## The scenarios -/

/-- How a scenario ends. -/
inductive ScenarioResult
  | authorized (networkReference authorizationCode : PyStr)
  | declined (declineCode : PyStr)
  | response (content : Content)
  | unsupportedToken
  | rateLimited
  | escaped (e : Exc)

structure Scenario where
  sleeps : Bool
  result : ScenarioResult

/-- `derive_network_reference`. -/
def deriveNetworkReference (requestId : PyStr) : Except Exc PyStr :=
  match Common.sha256Text requestId with
  | .ok digest => .ok (py "net_" ++ digest.take 16)
  | .error e => .error e

/-- `AuthorizedResponse` with the reference of a request. -/
def authorizedScenario (requestId : PyStr) : ScenarioResult :=
  match deriveNetworkReference requestId with
  | .ok networkReference => .authorized networkReference (py "AUTH123")
  | .error e => .escaped e

def malformedText : PyStr :=
  py "\x7b\"outcome\": \"AUTHORIZED\", network_reference:"

/-- `execute_authorization_scenario`. -/
def executeAuthorizationScenario (request : AuthorizationRequest) : Scenario :=
  let token := request.paymentToken
  if !supportedTokens.contains token then ⟨false, .unsupportedToken⟩
  else if token = tokenApproved then ⟨false, authorizedScenario request.requestId⟩
  else if token = tokenDeclined then ⟨false, .declined (py "INSUFFICIENT_FUNDS")⟩
  else if token = tokenRateLimited then ⟨false, .rateLimited⟩
  else if token = tokenMalformed then
    ⟨false, .response (.malformed malformedText (by decide +kernel))⟩
  else if token = tokenTimeout then ⟨true, authorizedScenario request.requestId⟩
  else ⟨false, .unsupportedToken⟩

end Emulator
end TransactionPlatform
