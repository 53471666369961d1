import TransactionPlatform.Ports.PaymentNetwork

/-!
# HttpPaymentNetwork — the HTTP adapter of the payment network port

`src/transaction_platform/adapters/http_payment_network.py`.

The exchange with the provider is data: a response, or the exception `client.post` raised.  A
response body is represented by what `response.json()` does with it, which is all the adapter ever
asks of it.
-/

namespace TransactionPlatform
namespace Adapters

open Text Ports

/-! ## The exchange -/

/-- The `httpx.RequestError` family. -/
inductive HttpxError
  | requestError
  | transportError
  | timeoutException
  | connectTimeout
  | readTimeout
  | writeTimeout
  | poolTimeout
  | networkError
  | connectError
  | readError
  | writeError
  | closeError
  | protocolError
  | localProtocolError
  | remoteProtocolError
  | proxyError
  | unsupportedProtocol
  | decodingError
  | tooManyRedirects
  deriving DecidableEq, Repr

namespace HttpxError

/-- `isinstance(exc, httpx.TimeoutException)`. -/
def isTimeoutException : HttpxError → Bool
  | timeoutException | connectTimeout | readTimeout | writeTimeout | poolTimeout => true
  | _ => false

/-- `isinstance(exc, httpx.TransportError)`. -/
def isTransportError : HttpxError → Bool
  | requestError | decodingError | tooManyRedirects => false
  | _ => true

def className : HttpxError → PyStr
  | requestError => py "RequestError"
  | transportError => py "TransportError"
  | timeoutException => py "TimeoutException"
  | connectTimeout => py "ConnectTimeout"
  | readTimeout => py "ReadTimeout"
  | writeTimeout => py "WriteTimeout"
  | poolTimeout => py "PoolTimeout"
  | networkError => py "NetworkError"
  | connectError => py "ConnectError"
  | readError => py "ReadError"
  | writeError => py "WriteError"
  | closeError => py "CloseError"
  | protocolError => py "ProtocolError"
  | localProtocolError => py "LocalProtocolError"
  | remoteProtocolError => py "RemoteProtocolError"
  | proxyError => py "ProxyError"
  | unsupportedProtocol => py "UnsupportedProtocol"
  | decodingError => py "DecodingError"
  | tooManyRedirects => py "TooManyRedirects"

end HttpxError

/-- The exceptions `response.json()` raises on a body. -/
inductive JsonFailure
  | jsonDecodeError
  | unicodeDecodeError
  | valueError
  | recursionError
  deriving DecidableEq, Repr

namespace JsonFailure

/-- `isinstance(exc, (json.JSONDecodeError, ValueError))`. -/
def isValueError : JsonFailure → Bool
  | recursionError => false
  | _ => true

def className : JsonFailure → PyStr
  | jsonDecodeError => py "JSONDecodeError"
  | unicodeDecodeError => py "UnicodeDecodeError"
  | valueError => py "ValueError"
  | recursionError => py "RecursionError"

end JsonFailure

structure Response where
  statusCode : Int
  headers : List (PyStr × PyStr)
  json : Except JsonFailure Json

/-- The outcome of the downstream POST. -/
inductive Exchange
  | response (r : Response)
  | timeoutError
  | raised (e : HttpxError)

/-- `httpx.Headers.get`: names compare without case, repeated values are joined. -/
def headerGet (headers : List (PyStr × PyStr)) (name : PyStr) : Option PyStr :=
  match (headers.filter fun h => lower h.1 = lower name).map Prod.snd with
  | [] => none
  | values => some (List.intercalate (py ", ") values)

/-! ## The adapter -/

/-- `parse_retry_after`. -/
def parseRetryAfter (headerValue : Option PyStr) (default minValue maxValue : Int) : Int :=
  match headerValue with
  | none => default
  | some [] => default
  | some value =>
      match intOfText (strip value) with
      | some parsed => if parsed < 0 then default else max minValue (min parsed maxValue)
      | none => default

/-- `isinstance(value, str) and value.strip()`, giving the stripped text. -/
def nonBlank : Option Json → Option PyStr
  | some (.str s) => if strip s = [] then none else some (strip s)
  | _ => none

def invalidResponse (message : String) : PortOutcome :=
  .raised (.invalidResponse (py message))

/-- The part of `_handle_response` that reads the JSON object of an HTTP 200 answer. -/
def handlePayload (data : Dict Json) : PortOutcome :=
  match data.get (py "outcome") with
  | some (.str outcome) =>
      if outcome = py "AUTHORIZED" then
        match nonBlank (data.get (py "network_reference")),
            nonBlank (data.get (py "authorization_code")) with
        | some netRef, some authCode => .authorized netRef authCode
        | _, _ => invalidResponse "Payment network AUTHORIZED response missing required fields."
      else if outcome = py "DECLINED" then
        match nonBlank (data.get (py "decline_code")) with
        | some declineCode => .declined declineCode
        | none => invalidResponse "Payment network DECLINED response missing decline_code."
      else
        invalidResponse "Payment network returned an unrecognized authorization outcome."
  | _ => invalidResponse "Payment network returned an unrecognized authorization outcome."

/-- `_handle_response`. -/
def handleResponse (response : Response) : PortOutcome :=
  let status := response.statusCode
  if status = 200 then
    match response.json with
    | .error failure =>
        if failure.isValueError then
          invalidResponse "Payment network returned invalid or malformed JSON payload."
        else
          .escaped (.foreign failure.className)
    | .ok (.obj data) => handlePayload data
    | .ok _ => invalidResponse "Payment network response body must be a JSON object."
  else if status = 429 then
    .raised (.rateLimit (parseRetryAfter (headerGet response.headers (py "Retry-After")) 1 1 60))
  else if status = 408 then
    .raised (.timeout (py "Payment network returned HTTP 408 Request Timeout."))
  else if 400 ≤ status ∧ status < 500 then
    .raised (.rejected (py "Payment network explicitly rejected the authorization request."))
  else if 500 ≤ status ∧ status < 600 then
    .raised (.unavailable (py "Payment network returned an internal server error."))
  else
    .raised (.unavailable (py "Payment network returned an unexpected HTTP response status."))

/-- The JSON payload of the POST; the port's transaction id is the provider's request id. -/
def authorizePayload (request : PaymentNetworkAuthorizationRequest) : Json :=
  .obj [(py "request_id", .str request.transactionId), (py "merchant_id", .str request.merchantId),
    (py "payment_token", .str request.paymentToken), (py "amount", .int request.amount),
    (py "currency", .str request.currency)]

/-- The headers `authorize` adds to the POST. -/
def authorizeHeaders (request : PaymentNetworkAuthorizationRequest) : List (PyStr × PyStr) :=
  [(py "X-Correlation-ID", request.correlationId)]

/-- `HttpPaymentNetworkAdapter.authorize`, given how the POST ended. -/
def authorize : Exchange → PortOutcome
  | .timeoutError =>
      .raised (.timeout (py "Payment network authorization request timed out."))
  | .raised e =>
      if e.isTimeoutException then
        .raised (.timeout (py "Payment network authorization request timed out."))
      else if e.isTransportError then
        .raised (.unavailable
          (py "Payment network transport unavailable or connection dropped."))
      else
        .escaped (.foreign e.className)
  | .response r => handleResponse r

end Adapters
end TransactionPlatform
