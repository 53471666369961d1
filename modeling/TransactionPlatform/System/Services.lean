import TransactionPlatform.Emulator.App
import TransactionPlatform.System.Reservable

/-!
# Services — the transaction API against the emulator

The API's request, the payload of its HTTP adapter and the request model of the emulator are written
separately.  They agree on every accepted body, and what becomes of the transaction is decided by the
payment token alone, but for the one token that makes the emulator sleep.  JSON bodies and headers
arrive with the values they were sent with.
-/

namespace TransactionPlatform
namespace System

open Text Domain Ports Common Application Adapters Api Infrastructure ReadCommitted Transition
open Emulator (AuthorizationRequest Reply Content tokenApproved tokenDeclined tokenRateLimited
  tokenMalformed tokenTimeout)

/-! ## The exchange with the emulator -/

/-- How waiting for an answer that is late ends for the client. -/
inductive Waiting
  | answered
  | asyncioTimeout
  | httpxTimeout (e : HttpxError) (h : e.isTimeoutException = true)

def Waiting.timedOut : Waiting → Bool
  | .answered => false
  | _ => true

/-- `response.json()`. -/
def responseJson : Content → Except JsonFailure Json
  | .json value => .ok value
  | .malformed _ _ => .error .jsonDecodeError

/-- A reply of the emulator as the client receives it. -/
def received (reply : Reply) : Response :=
  { statusCode := reply.statusCode
    headers := reply.headers
    json := responseJson reply.content }

def exchange (waiting : Waiting) (reply : Reply) : Exchange :=
  if reply.sleeps then
    match waiting with
    | .answered => .response (received reply)
    | .asyncioTimeout => .timeoutError
    | .httpxTimeout e _ => .raised e
  else .response (received reply)

/-- The POST of the adapter answered by the emulator. -/
def emulated (acceptsStr : PyStr → Bool) (msg : FieldError → PyStr) (waiting : Waiting)
    (request : PaymentNetworkAuthorizationRequest) : Exchange :=
  exchange waiting (Emulator.authorizations acceptsStr msg
    (headerGet (authorizeHeaders request) (py "X-Correlation-ID")) (authorizePayload request))

/-! ## The emulator accepts the payload -/

/-- A validated token is the stripped text of its member. -/
theorem validate_paymentToken {acceptsStr : PyStr → Bool} {body : Json}
    {request : CreateTransactionRequest}
    (h : CreateTransactionRequest.validate acceptsStr body = .ok request) :
    ∃ raw, body.member (py "payment_token") = some (.str raw) ∧ request.paymentToken = strip raw ∧
      strip raw ≠ [] ∧ (strip raw).length ≤ 128 := by
  cases body with
  | obj members =>
      simp only [CreateTransactionRequest.validate] at h
      split at h
      · rename_i _ id merchant token amount currency _ _ htoken _ _ _
        cases h
        rcases field_ok htoken with ⟨v, hmember, hv⟩
        -- the prefix and the accepted texts come after the strip
        have hstripped : stripped (py "payment_token") v = .ok token := by
          have hvalidated := beforeStr_ok hv
          unfold validatePaymentToken at hvalidated
          split at hvalidated
          · rename_i text htext
            split at hvalidated
            · cases hvalidated
              exact htext
            · cases hvalidated
          · cases hvalidated
        cases v with
        | str raw =>
            simp only [stripped] at hstripped
            split at hstripped
            · cases hstripped
            · rename_i hblank
              split at hstripped
              · cases hstripped
              · rename_i hlong
                cases hstripped
                exact ⟨raw, hmember, rfl, hblank, by omega⟩
        | _ =>
            cases hstripped
      · cases h
  | _ =>
      cases h

theorem stripped_self {name s : PyStr} (hstripped : strip s = s) (hnonblank : s ≠ [])
    (hlength : s.length ≤ 128) : stripped name (.str s) = .ok s := by
  have hnot : ¬ s.length > 128 := by omega
  simp [stripped, hstripped, hnonblank, hnot]

/-- A stripped field of the emulator takes a stripped text that pydantic accepts as it is. -/
theorem strippedField_self {acceptsStr : PyStr → Bool} {name : String} {members : Dict Json}
    {s : PyStr} (hmember : Dict.get members (py name) = some (.str s)) (hstripped : strip s = s)
    (hnonblank : s ≠ []) (hlength : s.length ≤ 128) (haccepts : acceptsStr s = true) :
    field name (beforeStr acceptsStr (Emulator.validateStrippedNonblankString (py name))) members =
      .ok s := by
  have hvalid : Emulator.validateStrippedNonblankString (py name) (.str s) = .ok s :=
    stripped_self hstripped hnonblank hlength
  simp [field, hmember, beforeStr, hvalid, strType, haccepts]

/-- Every payload the adapter builds for an accepted body is a request of the emulator with the same
values. -/
theorem payload_accepted {acceptsStr : PyStr → Bool} {body : Json}
    {request : CreateTransactionRequest}
    (h : CreateTransactionRequest.validate acceptsStr body = .ok request) (correlationId : PyStr) :
    AuthorizationRequest.validate acceptsStr
        (authorizePayload (portRequest (authorizeCommand request correlationId))) =
      .ok ⟨request.transactionId, request.merchantId, request.paymentToken, request.amount,
        request.currency⟩ := by
  have hvalid := CreateTransactionRequest.validate_valid h
  rcases CreateTransactionRequest.validate_accepts h with ⟨hid, hmerchant, htoken, hcurrency⟩
  rcases validate_paymentToken h with ⟨raw, _, hraw, hblank, hlength⟩
  let members : Dict Json :=
    [(py "request_id", .str request.transactionId), (py "merchant_id", .str request.merchantId),
      (py "payment_token", .str request.paymentToken), (py "amount", .int request.amount),
      (py "currency", .str request.currency)]
  -- the API has stripped the three texts already, so the emulator strips nothing more
  have hrequestId : field "request_id"
      (beforeStr acceptsStr (Emulator.validateStrippedNonblankString (py "request_id"))) members =
      .ok request.transactionId := strippedField_self rfl
    hvalid.transactionId_stripped hvalid.transactionId_nonblank hvalid.transactionId_length hid
  have hmerchantId : field "merchant_id"
      (beforeStr acceptsStr (Emulator.validateStrippedNonblankString (py "merchant_id"))) members =
      .ok request.merchantId := strippedField_self rfl
    hvalid.merchantId_stripped hvalid.merchantId_nonblank hvalid.merchantId_length hmerchant
  have hpaymentToken : field "payment_token"
      (beforeStr acceptsStr (Emulator.validateStrippedNonblankString (py "payment_token"))) members =
      .ok request.paymentToken := strippedField_self rfl
    (by rw [hraw]; exact strip_strip raw) (by rwa [hraw]) (by rwa [hraw]) htoken
  have hamount : field "amount" Emulator.validateAmount members = .ok request.amount := by
    have hmember : Dict.get members (py "amount") = some (.int request.amount) := rfl
    have hpos : ¬ request.amount ≤ 0 := by
      have hpositive := hvalid.amount_pos
      omega
    simp [field, hmember, Emulator.validateAmount, validateAmount, hpos]
  have hcurrencyField : field "currency" (Emulator.currencyField acceptsStr) members =
      .ok request.currency := by
    have hmember : Dict.get members (py "currency") = some (.str request.currency) := rfl
    simp [field, hmember, Emulator.currencyField, strType, hcurrency,
      Emulator.validateCurrencyFormat, validateCurrencyFormat, hvalid.currency_format]
  -- the payload has these five members and no other
  have hextra : Emulator.extraErrors members = [] := rfl
  change AuthorizationRequest.validate acceptsStr (.obj members) = _
  simp only [AuthorizationRequest.validate, hrequestId, hmerchantId, hpaymentToken, hamount,
    hcurrencyField, hextra]

/-! ## What the emulator's answer becomes -/

/-- The state of the transaction and the status code of the answer, by token. -/
def finalState (token : PyStr) (timedOut : Bool) : TransactionStatus × Int :=
  if token = tokenApproved then (.authorized, 201)
  else if token = tokenDeclined then (.declined, 201)
  else if token = tokenMalformed then (.pendingReconciliation, 202)
  else if token = tokenRateLimited then (.failed, 503)
  else if token = tokenTimeout then
    if timedOut then (.pendingReconciliation, 202) else (.authorized, 201)
  else (.failed, 502)

/-- An outcome ends in a state and a status code, whatever the id and the key, and its texts fit their
columns. -/
structure EndsIn (o : PortOutcome) (final : TransactionStatus × Int) : Prop where
  settles : ∀ id keyHash, ∃ a, settlement id keyHash o = .ok a ∧ a.transaction.status = final.1 ∧
    a.envelope.statusCode = final.2
  storable : storable o = true

theorem storesAsIs_strip {n : Nat} {s : PyStr} (h : storesAsIs n s = true) :
    storesAsIs n (strip s) = true := by
  simp only [storesAsIs, Bool.and_eq_true, decide_eq_true_eq] at h ⊢
  refine ⟨?_, (strip_sublist s).length_le.trans h.2⟩
  exact List.all_eq_true.mpr fun c hc => List.all_eq_true.mp h.1 c ((strip_sublist s).mem hc)

/-- The reference of a request is a non-blank text of twenty characters. -/
theorem deriveNetworkReference_ok {requestId : PyStr} (h : requestId.all isScalar = true) :
    ∃ reference, Emulator.deriveNetworkReference requestId = .ok reference ∧
      strip reference ≠ [] ∧ storesAsIs 128 reference = true := by
  rcases sha256Text_defined h with ⟨digest, hdigest⟩
  refine ⟨py "net_" ++ digest.take 16, by simp [Emulator.deriveNetworkReference, hdigest], ?_, ?_⟩
  · -- the prefix is no whitespace
    intro hblank
    have hspace := strip_eq_nil.mp hblank (codePoint 'n') (by simp [py])
    exact absurd hspace (by decide)
  · have htext : pgText digest = true := (isDigest_sha256Text hdigest).text
    have hprefix : pgText (py "net_") = true := by decide
    have htake : pgText (digest.take 16) = true :=
      List.all_eq_true.mpr fun c hc => List.all_eq_true.mp htext c (List.mem_of_mem_take hc)
    have hlength : (py "net_" ++ digest.take 16).length ≤ 128 := by
      rw [List.length_append, List.length_take]
      have hfour : (py "net_").length = 4 := rfl
      omega
    have happend : pgText (py "net_" ++ digest.take 16) = true := by
      unfold pgText at hprefix htake ⊢
      rw [List.all_append, hprefix, htake]
      rfl
    simp only [storesAsIs, happend, hlength, decide_true, Bool.and_self]

/-- An authorized answer with a non-blank reference. -/
theorem authorized_endsIn {reference : PyStr} (hnonblank : strip reference ≠ [])
    (hstores : storesAsIs 128 reference = true) (headers : List (PyStr × PyStr)) :
    EndsIn (handleResponse
      { statusCode := 200
        headers := headers
        json := .ok (Emulator.authorizedResponse reference (py "AUTH123")) }) (.authorized, 201) := by
  have hcode : nonBlank (some (.str (py "AUTH123"))) = some (py "AUTH123") := by decide
  have hreference : nonBlank (some (.str reference)) = some (strip reference) := by
    simp [nonBlank, hnonblank]
  -- the adapter reads the three members the emulator has written
  have houtcome : handleResponse
      { statusCode := 200
        headers := headers
        json := .ok (Emulator.authorizedResponse reference (py "AUTH123")) } =
      .authorized (strip reference) (py "AUTH123") := by
    change handlePayload [(py "outcome", .str (py "AUTHORIZED")),
      (py "network_reference", .str reference), (py "authorization_code", .str (py "AUTH123"))] = _
    unfold handlePayload
    have hmember : Dict.get [(py "outcome", .str (py "AUTHORIZED")),
        (py "network_reference", .str reference), (py "authorization_code", .str (py "AUTH123"))]
        (py "outcome") = some (Json.str (py "AUTHORIZED")) := rfl
    have hreferenceMember : Dict.get [(py "outcome", .str (py "AUTHORIZED")),
        (py "network_reference", .str reference), (py "authorization_code", .str (py "AUTH123"))]
        (py "network_reference") = some (Json.str reference) := rfl
    have hcodeMember : Dict.get [(py "outcome", .str (py "AUTHORIZED")),
        (py "network_reference", .str reference), (py "authorization_code", .str (py "AUTH123"))]
        (py "authorization_code") = some (Json.str (py "AUTH123")) := rfl
    simp only [hmember, hreferenceMember, hcodeMember, hreference, hcode, if_true]
  rw [houtcome]
  have hauth : storesAsIs 128 (py "AUTH123") = true := by decide
  refine ⟨fun id keyHash => ⟨_, rfl, rfl, rfl⟩, ?_⟩
  simp only [storable, storesAsIs_strip hstores, hauth, Bool.and_self]

theorem declined_endsIn (headers : List (PyStr × PyStr)) :
    EndsIn (handleResponse
      { statusCode := 200
        headers := headers
        json := .ok (Emulator.declinedResponse (py "INSUFFICIENT_FUNDS")) }) (.declined, 201) := by
  have houtcome : handleResponse
      { statusCode := 200
        headers := headers
        json := .ok (Emulator.declinedResponse (py "INSUFFICIENT_FUNDS")) } =
      .declined (py "INSUFFICIENT_FUNDS") := rfl
  rw [houtcome]
  exact ⟨fun _ _ => ⟨_, rfl, rfl, rfl⟩, by decide⟩

/-- The scenario of every token. -/
theorem scenario_eq (request : AuthorizationRequest) :
    (request.paymentToken = tokenApproved →
      Emulator.executeAuthorizationScenario request =
        ⟨false, Emulator.authorizedScenario request.requestId⟩) ∧
    (request.paymentToken = tokenDeclined →
      Emulator.executeAuthorizationScenario request =
        ⟨false, .declined (py "INSUFFICIENT_FUNDS")⟩) ∧
    (request.paymentToken = tokenMalformed →
      ∃ h, Emulator.executeAuthorizationScenario request =
        ⟨false, .response (.malformed Emulator.malformedText h)⟩) ∧
    (request.paymentToken = tokenRateLimited →
      Emulator.executeAuthorizationScenario request = ⟨false, .rateLimited⟩) ∧
    (request.paymentToken = tokenTimeout →
      Emulator.executeAuthorizationScenario request =
        ⟨true, Emulator.authorizedScenario request.requestId⟩) ∧
    (request.paymentToken ∉ Emulator.supportedTokens →
      Emulator.executeAuthorizationScenario request = ⟨false, .unsupportedToken⟩) := by
  -- the tokens differ, so each branch is reached by its own token only
  refine ⟨?_, ?_, ?_, ?_, ?_, ?_⟩
  · intro htoken
    simp [Emulator.executeAuthorizationScenario, htoken, Emulator.supportedTokens]
  · intro htoken
    simp [Emulator.executeAuthorizationScenario, htoken, Emulator.supportedTokens, tokenDeclined,
      tokenApproved]
  · intro htoken
    refine ⟨by decide +kernel, ?_⟩
    simp [Emulator.executeAuthorizationScenario, htoken, Emulator.supportedTokens, tokenDeclined,
      tokenApproved, tokenRateLimited, tokenMalformed]
  · intro htoken
    simp [Emulator.executeAuthorizationScenario, htoken, Emulator.supportedTokens, tokenDeclined,
      tokenApproved, tokenRateLimited]
  · intro htoken
    simp [Emulator.executeAuthorizationScenario, htoken, Emulator.supportedTokens, tokenDeclined,
      tokenApproved, tokenRateLimited, tokenMalformed, tokenTimeout]
  · intro htoken
    simp [Emulator.executeAuthorizationScenario, htoken]

theorem requireCorrelationId_self {header : Option PyStr} {correlationId : PyStr}
    (h : requireCorrelationId header = some correlationId) :
    requireCorrelationId (some correlationId) = some correlationId := by
  unfold requireCorrelationId requireHeader at h ⊢
  split at h
  · split at h
    · rename_i hmatch
      cases h
      simp [hmatch]
    · cases h
  · cases h

/-- The emulator answers the POST of an accepted request by the scenario of its token. -/
theorem emulated_eq {acceptsStr : PyStr → Bool} {msg : FieldError → PyStr} {body : Json}
    {request : CreateTransactionRequest}
    (h : CreateTransactionRequest.validate acceptsStr body = .ok request) {header : Option PyStr}
    {correlationId : PyStr} (hcid : requireCorrelationId header = some correlationId)
    (waiting : Waiting) {scenario : Emulator.Scenario}
    (hscenario : Emulator.executeAuthorizationScenario ⟨request.transactionId, request.merchantId,
      request.paymentToken, request.amount, request.currency⟩ = scenario)
    {reply : Reply} (hreply : Emulator.scenarioReply scenario = .ok reply) :
    emulated acceptsStr msg waiting (portRequest (authorizeCommand request correlationId)) =
      exchange waiting { reply with
        headers := Dict.set reply.headers (py "X-Correlation-ID") correlationId } := by
  have hheader : headerGet
      (authorizeHeaders (portRequest (authorizeCommand request correlationId)))
      (py "X-Correlation-ID") = some correlationId := by
    simp [headerGet, authorizeHeaders, portRequest, authorizeCommand, List.intercalate]
  have hself := requireCorrelationId_self hcid
  unfold emulated Emulator.authorizations Emulator.route Emulator.reflectCorrelationId
  rw [hheader]
  simp only [hself, payload_accepted h correlationId, hscenario, hreply]

theorem timeout_endsIn (message : PyStr) :
    EndsIn (.raised (.timeout message)) (.pendingReconciliation, 202) :=
  ⟨fun _ _ => ⟨_, rfl, rfl, rfl⟩, rfl⟩

theorem rateLimit_endsIn {n : Int} (hprints : printable n = true) :
    EndsIn (.raised (.rateLimit n)) (.failed, 503) := by
  refine ⟨fun id keyHash => ?_, rfl⟩
  have hsettled : settlement id keyHash (.raised (.rateLimit n)) =
      .ok (settled id keyHash .failed none (rateLimitedProblem n) none none none) := if_pos hprints
  exact ⟨_, hsettled, rfl, rfl⟩

/-- An answer that comes at once ends as the adapter reads it. -/
theorem prompt_endsIn {reply : Reply} {final : TransactionStatus × Int} (hsleeps : reply.sleeps = false)
    (hread : EndsIn (handleResponse (received reply)) final) (waiting : Waiting) :
    EndsIn (authorize (exchange waiting reply)) final := by
  have hexchange : exchange waiting reply = .response (received reply) := by
    simp [exchange, hsleeps]
  rw [hexchange]
  exact hread

/-- An answer the emulator sleeps over is read, or the adapter times out, or `httpx` does. -/
theorem sleeping_endsIn {reply : Reply} {final : TransactionStatus × Int} (hsleeps : reply.sleeps = true)
    (hread : EndsIn (handleResponse (received reply)) final) (waiting : Waiting) :
    EndsIn (authorize (exchange waiting reply))
      (if waiting.timedOut then (.pendingReconciliation, 202) else final) := by
  unfold exchange
  rw [if_pos hsleeps]
  cases waiting with
  | answered =>
      exact hread
  | asyncioTimeout =>
      exact timeout_endsIn _
  | httpxTimeout e he =>
      have houtcome : authorize (.raised e) =
          .raised (.timeout (py "Payment network authorization request timed out.")) := by
        simp [authorize, he]
      exact houtcome ▸ timeout_endsIn _

/-- The reply of a scenario ends in a state that may depend on whether the client has stopped
waiting. -/
def ScenarioEndsIn (scenario : Emulator.Scenario) (final : Bool → TransactionStatus × Int) : Prop :=
  ∃ reply, Emulator.scenarioReply scenario = .ok reply ∧ ∀ correlationId waiting,
    EndsIn (authorize (exchange waiting { reply with
      headers := Dict.set reply.headers (py "X-Correlation-ID") correlationId }))
      (final waiting.timedOut)

theorem authorizedScenario_endsIn {requestId : PyStr} (hid : requestId.all isScalar = true) :
    ScenarioEndsIn ⟨false, Emulator.authorizedScenario requestId⟩ (fun _ => (.authorized, 201)) ∧
    ScenarioEndsIn ⟨true, Emulator.authorizedScenario requestId⟩
      (fun timedOut => if timedOut then (.pendingReconciliation, 202) else (.authorized, 201)) := by
  rcases deriveNetworkReference_ok hid with ⟨reference, hreference, hnonblank, hstores⟩
  have hauthorized : Emulator.authorizedScenario requestId =
      .authorized reference (py "AUTH123") := by
    simp [Emulator.authorizedScenario, hreference]
  rw [hauthorized]
  refine ⟨⟨_, rfl, fun correlationId waiting => prompt_endsIn rfl ?_ waiting⟩,
    ⟨_, rfl, fun correlationId waiting => sleeping_endsIn rfl ?_ waiting⟩⟩
  · exact authorized_endsIn hnonblank hstores [(py "X-Correlation-ID", correlationId)]
  · exact authorized_endsIn hnonblank hstores [(py "X-Correlation-ID", correlationId)]

theorem declinedScenario_endsIn :
    ScenarioEndsIn ⟨false, .declined (py "INSUFFICIENT_FUNDS")⟩ (fun _ => (.declined, 201)) :=
  ⟨_, rfl, fun correlationId =>
    prompt_endsIn rfl (declined_endsIn [(py "X-Correlation-ID", correlationId)])⟩

theorem malformedScenario_endsIn {text : PyStr} (hbroken : Emulator.endsInside text = true) :
    ScenarioEndsIn ⟨false, .response (.malformed text hbroken)⟩
      (fun _ => (.pendingReconciliation, 202)) :=
  ⟨_, rfl, fun _ => prompt_endsIn rfl ⟨fun _ _ => ⟨_, rfl, rfl, rfl⟩, rfl⟩⟩

theorem unsupportedScenario_endsIn :
    ScenarioEndsIn ⟨false, .unsupportedToken⟩ (fun _ => (.failed, 502)) :=
  ⟨_, rfl, fun _ => prompt_endsIn rfl ⟨fun _ _ => ⟨_, rfl, rfl, rfl⟩, rfl⟩⟩

theorem rateLimitedScenario_endsIn :
    ScenarioEndsIn ⟨false, .rateLimited⟩ (fun _ => (.failed, 503)) := by
  refine ⟨_, rfl, fun correlationId => prompt_endsIn rfl ?_⟩
  -- the adapter reads the one second of the emulator's `Retry-After`
  have houtcome : handleResponse (received { Emulator.rateLimitedReply with
      headers := Dict.set Emulator.rateLimitedReply.headers (py "X-Correlation-ID") correlationId }) =
      .raised (.rateLimit 1) := rfl
  exact houtcome ▸ rateLimit_endsIn (printable_of_lt (by decide))

/-- Every token leads to the state `finalState` has for it. -/
theorem scenario_endsIn {request : AuthorizationRequest}
    (hid : request.requestId.all isScalar = true) :
    ScenarioEndsIn (Emulator.executeAuthorizationScenario request)
      (finalState request.paymentToken) := by
  rcases scenario_eq request with
    ⟨happroved, hdeclined, hmalformed, hlimited, htimeout, hother⟩
  by_cases hA : request.paymentToken = tokenApproved
  · rw [happroved hA, hA]
    exact (authorizedScenario_endsIn hid).1
  by_cases hD : request.paymentToken = tokenDeclined
  · rw [hdeclined hD, hD]
    exact declinedScenario_endsIn
  by_cases hM : request.paymentToken = tokenMalformed
  · rcases hmalformed hM with ⟨hbroken, hscenario⟩
    rw [hscenario, hM]
    exact malformedScenario_endsIn hbroken
  by_cases hR : request.paymentToken = tokenRateLimited
  · rw [hlimited hR, hR]
    exact rateLimitedScenario_endsIn
  by_cases hT : request.paymentToken = tokenTimeout
  · rw [htimeout hT, hT]
    exact (authorizedScenario_endsIn hid).2
  · -- every other token is refused
    have hunsupported : request.paymentToken ∉ Emulator.supportedTokens := by
      simp [Emulator.supportedTokens, hA, hD, hM, hR, hT]
    have hfinal : finalState request.paymentToken = fun _ => (.failed, 502) := by
      funext timedOut
      simp [finalState, hA, hD, hM, hR, hT]
    rw [hother hunsupported, hfinal]
    exact unsupportedScenario_endsIn

/-- Against the emulator the token of an accepted request decides how it ends, and for the token that
makes the emulator sleep whether the client has stopped waiting. -/
theorem emulated_endsIn {acceptsStr : PyStr → Bool} (msg : FieldError → PyStr) {body : Json}
    {request : CreateTransactionRequest}
    (h : CreateTransactionRequest.validate acceptsStr body = .ok request)
    (hid : request.transactionId.all isScalar = true) {header : Option PyStr}
    {correlationId : PyStr} (hcid : requireCorrelationId header = some correlationId)
    (waiting : Waiting) :
    EndsIn (authorize (emulated acceptsStr msg waiting
        (portRequest (authorizeCommand request correlationId))))
      (finalState request.paymentToken waiting.timedOut) := by
  let posted : AuthorizationRequest := ⟨request.transactionId, request.merchantId,
    request.paymentToken, request.amount, request.currency⟩
  have hscalar : posted.requestId.all isScalar = true := hid
  rcases scenario_endsIn hscalar with ⟨reply, hreply, hends⟩
  rw [emulated_eq h hcid waiting rfl hreply]
  exact hends correlationId waiting

/-! ## The two services together -/

/-- The transaction has ended in a state and its record holds the answer's status code. -/
def EndedIn (T : Tables) (id keyHash : PyStr) (final : TransactionStatus × Int) : Prop :=
  ∃ (row : TransactionRow) (record : IdempotencyRecord), T (.transaction id) = some row ∧
    row.status = final.1.value ∧ T (.record keyHash) = some record ∧ record.transactionId = id ∧
    record.processingStatus = py "COMPLETED" ∧ record.storedStatusCode = some final.2

namespace Requests

variable {requests : Nat → Request}

/-- A `complete` that has returned has left the state and the code it was called with. -/
theorem endedIn_of_done {T : Tables} {s : Requests}
    (hreach : Reachable (Requests.step requests) (init T) s) {acceptsStr : PyStr → Bool} {r : Nat}
    (hadmitted : Admitted acceptsStr (requests r).command) {keyHash : PyStr} {o : PortOutcome}
    {a : CompleteArgs} (ha : settlement (requests r).command.transactionId keyHash o = .ok a)
    (hdone : s.calls.call (.complete r) = .complete a (.done (.ok ()))) :
    EndedIn s.tables (requests r).command.transactionId keyHash
      (a.transaction.status, a.envelope.statusCode) := by
  rcases (Coordination.logInv_of_reachable (calls_reachable hreach)).completed _ _ hdone with
    ⟨now, hlogged⟩
  rcases records_of_logged hreach hadmitted hlogged with ⟨reserved, row, record, _, hrecords⟩
  rcases settlement_ok ha with ⟨hkey, hid, _⟩
  exact ⟨row, record, hid ▸ hrecords.row_eq, hrecords.status, hkey ▸ hrecords.record_eq,
    hrecords.linked.trans hid, hrecords.completed, hrecords.code⟩

/-- Once its `complete` has returned, a request that still waits for it returns the envelope. -/
theorem finishes_of_done {T : Tables} {s : Requests}
    (hreach : Reachable (Requests.step requests) (init T) s) {r : Nat} {a : CompleteArgs}
    (hdone : s.calls.call (.complete r) = .complete a (.done (.ok ()))) {envelope : ResponseEnvelope}
    (hphase : s.phase r = .completing envelope) :
    envelope = a.envelope ∧ ∃ s', s.step requests (.finish r) = some s' ∧
      s'.phase r = .finished (.ok envelope) := by
  have hinv := (callsInv_of_reachable hreach r).phase
  rw [hphase] at hinv
  rcases hinv with ⟨a', ⟨_, _, _, _, hcall⟩, rfl⟩
  rw [hdone] at hcall
  cases hcall
  refine ⟨rfl, s.setPhase r (.finished (.ok a.envelope)), ?_, by simp [setPhase]⟩
  simp [step, finish, hphase, hdone]

/-- The two services agree.  For every body the API accepts and every valid correlation id:

* the emulator accepts the adapter's payload, with the same values;
* whenever the request has reserved its transaction and the emulator has answered, `complete` starts,
  and in every run without a fault of that call it is at most three statements from recording the
  state that belongs to the stripped token; the answer has the status code of that state.

The transport is taken to deliver the payload and the emulator's answer as they are. -/
theorem services_agree (acceptsStr : PyStr → Bool) (msg : FieldError → PyStr) {body : Json}
    {request : CreateTransactionRequest}
    (hvalidate : CreateTransactionRequest.validate acceptsStr body = .ok request)
    {header : Option PyStr} {correlationId : PyStr}
    (hcid : requireCorrelationId header = some correlationId) :
    AuthorizationRequest.validate acceptsStr
        (authorizePayload (portRequest (authorizeCommand request correlationId))) =
      .ok ⟨request.transactionId, request.merchantId, request.paymentToken, request.amount,
        request.currency⟩ ∧
    ∃ raw, body.member (py "payment_token") = some (.str raw) ∧
      ∀ (requests : Nat → Request) (T : Tables) (s : Requests) (r : Nat) (keyHash : PyStr)
        (waiting : Waiting), SchemaOk T → Reachable (Requests.step requests) (init T) s →
        (requests r).command = authorizeCommand request correlationId →
        s.phase r = .awaiting keyHash →
        ∃ s₁, s.step requests (.respond r
            (authorize (emulated acceptsStr msg waiting (portRequest (requests r).command)))) =
              some s₁ ∧
          ∀ es s₂, exec (Requests.step requests) s₁ es = some s₂ → (∀ e ∈ es, Spares r e) →
            ∀ now, ∃ n s₃, n ≤ 3 ∧
              exec (Requests.step requests) s₂
                (List.replicate n (.database (.step (.complete r) now))) = some s₃ ∧
              EndedIn s₃.tables request.transactionId keyHash
                (finalState (strip raw) waiting.timedOut) ∧
              ∀ envelope, s₃.phase r = .completing envelope →
                envelope.statusCode = (finalState (strip raw) waiting.timedOut).2 ∧
                ∃ s₄, s₃.step requests (.finish r) = some s₄ ∧
                  s₄.phase r = .finished (.ok envelope) := by
  refine ⟨payload_accepted hvalidate correlationId, ?_⟩
  rcases validate_paymentToken hvalidate with ⟨raw, hmember, hraw, _, _⟩
  refine ⟨raw, hmember, ?_⟩
  intro requests T s r keyHash waiting hT hreach hcommand hawaiting
  have hadmitted : Admitted acceptsStr (requests r).command :=
    ⟨body, request, hvalidate, by rw [hcommand]; rfl⟩
  have hid : (requests r).command.transactionId = request.transactionId := by
    rw [hcommand]
    rfl
  -- the reservation has stored the id
  have hscalar : request.transactionId.all isScalar = true :=
    hid ▸ isScalar_of_pgText (awaiting_texts hreach hawaiting).1
  -- the outcome the emulator leads to can be stored, so `complete` succeeds
  have hends := emulated_endsIn msg hvalidate hscalar hcid waiting
  rw [hraw, ← hcommand] at hends
  rcases hends.settles (requests r).command.transactionId keyHash with ⟨a, ha, hstatus, hcode⟩
  rcases storable_completes hT hreach hadmitted hawaiting (trimmed_authorize _) hends.storable ha with
    ⟨s₁, hrespond, _, _, hruns⟩
  refine ⟨s₁, hrespond, ?_⟩
  intro es s₂ hes hspares now
  rcases hruns es s₂ hes hspares now with ⟨n, s₃, hn, hrun, hdone⟩
  have hreach₃ : Reachable (Requests.step requests) (init T) s₃ :=
    ((hreach.next hrespond).trans ⟨es, hes⟩).trans ⟨_, hrun⟩
  -- what the log then holds is what the two tables say
  have hended := endedIn_of_done hreach₃ hadmitted ha hdone
  rw [hid, hstatus, hcode] at hended
  refine ⟨n, s₃, hn, hrun, hended, ?_⟩
  intro envelope hphase
  rcases finishes_of_done hreach₃ hdone hphase with ⟨rfl, hfinish⟩
  exact ⟨hcode, hfinish⟩

/-- The sample request has a token the emulator does not know. -/
theorem services_agree_unsupported :
    ∃ s s₃ : Requests, ∃ keyHash, s.phase 0 = .awaiting keyHash ∧
      Reachable (Requests.step fun _ => sampleRequest) s s₃ ∧
      EndedIn s₃.tables (py "txn_1") keyHash (.failed, 502) := by
  have hvalidate : CreateTransactionRequest.validate (fun _ => true)
      (.obj [(py "transaction_id", .str (py "txn_1")), (py "merchant_id", .str (py "m_1")),
        (py "payment_token", .str (py "tok_test_1")), (py "amount", .int 100),
        (py "currency", .str (py "USD"))]) =
      .ok ⟨py "txn_1", py "m_1", py "tok_test_1", 100, py "USD"⟩ := rfl
  have hcid : requireCorrelationId (some (py "c-1")) = some (py "c-1") := rfl
  rcases sampleRun_awaiting with ⟨s, keyHash, hrun, hawaiting⟩
  rcases (services_agree _ (fun _ => py "") hvalidate hcid).2 with ⟨raw, hraw, hagree⟩
  have htoken : raw = py "tok_test_1" := by
    cases hraw
    rfl
  rcases hagree _ emptyTables s 0 keyHash .answered schemaOk_empty ⟨_, hrun⟩ rfl hawaiting with
    ⟨s₁, hrespond, hruns⟩
  rcases hruns [] s₁ rfl (by simp) 9 with ⟨n, s₃, _, hown, hended, _⟩
  have hfinal : finalState (strip raw) Waiting.answered.timedOut = (.failed, 502) := by
    rw [htoken]
    decide
  rw [hfinal] at hended
  exact ⟨s, s₃, keyHash, hawaiting, ⟨_, exec_cons_eq_some.mpr ⟨s₁, hrespond, hown⟩⟩, hended⟩

end Requests

end System
end TransactionPlatform
