import TransactionPlatform.Api.Http
import TransactionPlatform.System.AtMostOnce
import TransactionPlatform.System.Services
import TransactionPlatform.System.StoreInvariant

/-!
# Network — the platform and the emulator with the messages between them

Each call of the port is one POST to the emulator.  The POST and the reply may be lost, the reply may
come after the client has stopped waiting, and the emulator may serve a POST whose client is long
gone.  Whatever happens to the messages, the processes and the database: the emulator serves each
transaction at most once, and a row that is neither open nor waiting for reconciliation says what the
emulator has decided on that very payment.
-/

namespace TransactionPlatform
namespace System

open Text Domain Ports Common Application Adapters Api Infrastructure ReadCommitted Transition
open Emulator (Reply ScenarioResult)

/-! ## Requests the API lets through -/

/-- What `create_transaction` hands to the orchestrator. -/
def requestOf (p : Parameters) : Request :=
  { command := authorizeCommand p.request p.correlationId
    idempotencyKey := p.idempotencyKey }

/-- Some HTTP request gets through as this one. -/
def Accepted (acceptsStr : PyStr → Bool) (request : Request) : Prop :=
  ∃ http p, Resolved acceptsStr http p ∧ request = requestOf p

theorem Accepted.admitted {acceptsStr : PyStr → Bool} {request : Request}
    (h : Accepted acceptsStr request) : Admitted acceptsStr request.command := by
  rcases h with ⟨http, p, ⟨⟨value, _, hvalidate⟩, _, _⟩, rfl⟩
  exact ⟨value, p.request, hvalidate, rfl⟩

/-! ## One POST -/

/-- The emulator's reply to the POST of a call of the port. -/
def answerPost (acceptsStr : PyStr → Bool) (msg : FieldError → PyStr)
    (request : PaymentNetworkAuthorizationRequest) : Reply :=
  Emulator.authorizations acceptsStr msg
    (headerGet (authorizeHeaders request) (py "X-Correlation-ID")) (authorizePayload request)

/-- `httpx` sends the body in UTF-8. -/
def encodable (request : PaymentNetworkAuthorizationRequest) : Bool :=
  (authorizePayload request).isUnicode

/-- The payment of a command, as the emulator reads it. -/
def payment (command : AuthorizeTransactionCommand) : Emulator.AuthorizationRequest :=
  { requestId := command.transactionId
    merchantId := command.merchantId
    paymentToken := command.paymentToken
    amount := command.amount
    currency := command.currency }

/-- What the emulator decides on the payment of a command. -/
def decision (command : AuthorizeTransactionCommand) : ScenarioResult :=
  (Emulator.executeAuthorizationScenario (payment command)).result

/-- What the adapter makes of a decision that has reached it. -/
inductive Conveys : ScenarioResult → PortOutcome → Prop
  | authorized (n c : PyStr) : Conveys (.authorized n c) (.authorized n c)
  | declined (d : PyStr) : Conveys (.declined d) (.declined d)
  | malformed (content : Emulator.Content) (message : PyStr) :
      Conveys (.response content) (.raised (.invalidResponse message))
  | unsupportedToken (message : PyStr) : Conveys .unsupportedToken (.raised (.rejected message))
  | rateLimited (retryAfter : Int) : Conveys .rateLimited (.raised (.rateLimit retryAfter))

theorem exchange_answered (reply : Reply) : exchange .answered reply = .response (received reply) := by
  unfold exchange
  split <;> rfl

theorem strip_no_space {s : PyStr} (h : ∀ c ∈ s, ¬ isSpace c = true) : strip s = s := by
  have hfront : s.dropWhile isSpace = s :=
    List.dropWhile_eq_self_iff.mpr fun _ => h _ (List.getElem_mem _)
  rw [strip, hfront]
  exact List.rdropWhile_eq_self_iff.mpr fun hne => h _ (List.getLast_mem hne)

/-- There is nothing to strip from a reference, and it is not blank. -/
theorem strip_reference {requestId reference : PyStr}
    (h : Emulator.deriveNetworkReference requestId = .ok reference) :
    strip reference = reference ∧ reference ≠ [] := by
  unfold Emulator.deriveNetworkReference at h
  split at h
  · rename_i digest hdigest
    cases h
    refine ⟨strip_no_space ?_, by simp [py]⟩
    intro c hc
    rcases List.mem_append.mp hc with hfront | hdigits
    · have hprefix : (py "net_").all (fun c => !isSpace c) = true := by decide
      simpa using List.all_eq_true.mp hprefix c hfront
    · have hrange := mem_sha256Text hdigest (List.mem_of_mem_take hdigits)
      simp only [isSpace, Bool.or_eq_true, Bool.and_eq_true, decide_eq_true_eq, beq_iff_eq]
      omega
  · cases h

theorem authorize_authorized {reference : PyStr} (hstripped : strip reference = reference)
    (hne : reference ≠ []) (headers : List (PyStr × PyStr)) :
    authorize (.response
      { statusCode := 200
        headers := headers
        json := .ok (Emulator.authorizedResponse reference (py "AUTH123")) }) =
      .authorized reference (py "AUTH123") := by
  refine ((meaning _).authorized_iff _ _).mpr ?_
  refine ⟨_, _, reference, py "AUTH123", rfl, rfl, rfl, rfl, rfl, rfl, hstripped, hne, ?_, ?_⟩
  · decide
  · decide

theorem encodable_iff {command : AuthorizeTransactionCommand} :
    encodable (portRequest command) = true ↔ command.transactionId.all isScalar = true ∧
      command.merchantId.all isScalar = true ∧ command.paymentToken.all isScalar = true ∧
      command.currency.all isScalar = true := by
  simp [encodable, authorizePayload, portRequest, Json.isUnicode, Json.isUnicodeMembers,
    all_isScalar_py, Dict.get_cons, -List.all_eq_true]

section Post

variable {acceptsStr : PyStr → Bool} (msg : FieldError → PyStr)

/-- What the emulator decides on an accepted request survives the reply: the adapter reads from it the
outcome that the emulator has written. -/
theorem conveys_answerPost {request : Request} (haccepted : Accepted acceptsStr request)
    (hid : request.command.transactionId.all isScalar = true) :
    Conveys (decision request.command)
      (authorize (.response (received
        (answerPost acceptsStr msg (portRequest request.command))))) := by
  rcases haccepted with ⟨http, p, ⟨⟨value, _, hvalidate⟩, hcid, _⟩, rfl⟩
  have hanswer : ∀ (scenario : Emulator.Scenario) (reply : Reply),
      Emulator.executeAuthorizationScenario (payment (requestOf p).command) = scenario →
      Emulator.scenarioReply scenario = .ok reply →
      (.response (received (answerPost acceptsStr msg (portRequest (requestOf p).command))) :
        Exchange) = .response (received { reply with
          headers := Dict.set reply.headers (py "X-Correlation-ID") p.correlationId }) := by
    intro scenario reply hscenario hreply
    have heq : emulated acceptsStr msg .answered (portRequest (requestOf p).command) = _ :=
      emulated_eq hvalidate hcid .answered hscenario hreply
    rw [exchange_answered] at heq
    exact (exchange_answered _).symm.trans heq
  have hscalar : p.request.transactionId.all isScalar = true := hid
  rcases deriveNetworkReference_ok hscalar with ⟨reference, hreference, _, _⟩
  have hauthorized : Emulator.authorizedScenario p.request.transactionId =
      .authorized reference (py "AUTH123") := by
    simp [Emulator.authorizedScenario, hreference]
  rcases strip_reference hreference with ⟨hstripped, hne⟩
  rcases scenario_eq (payment (requestOf p).command) with
    ⟨happroved, hdeclined, hmalformed, hlimited, htimeout, hother⟩
  have hrequestId : (payment (requestOf p).command).requestId = p.request.transactionId := rfl
  simp only [hrequestId, hauthorized] at happroved htimeout
  unfold decision
  -- one case for each token of the emulator
  by_cases hA : (payment (requestOf p).command).paymentToken = Emulator.tokenApproved
  · rw [hanswer _ _ (happroved hA) rfl, happroved hA]
    exact authorize_authorized hstripped hne _ ▸ .authorized reference (py "AUTH123")
  by_cases hD : (payment (requestOf p).command).paymentToken = Emulator.tokenDeclined
  · rw [hanswer _ _ (hdeclined hD) rfl, hdeclined hD]
    exact .declined (py "INSUFFICIENT_FUNDS")
  by_cases hM : (payment (requestOf p).command).paymentToken = Emulator.tokenMalformed
  · rcases hmalformed hM with ⟨hbroken, hscenario⟩
    rw [hanswer _ _ hscenario rfl, hscenario]
    exact .malformed _ _
  by_cases hR : (payment (requestOf p).command).paymentToken = Emulator.tokenRateLimited
  · rw [hanswer _ _ (hlimited hR) rfl, hlimited hR]
    exact .rateLimited _
  by_cases hT : (payment (requestOf p).command).paymentToken = Emulator.tokenTimeout
  · rw [hanswer _ _ (htimeout hT) rfl, htimeout hT]
    exact authorize_authorized hstripped hne _ ▸ .authorized reference (py "AUTH123")
  · -- every other token is refused
    have hunsupported :
        (payment (requestOf p).command).paymentToken ∉ Emulator.supportedTokens := by
      simp [Emulator.supportedTokens, hA, hD, hM, hR, hT]
    rw [hanswer _ _ (hother hunsupported) rfl, hother hunsupported]
    exact .unsupportedToken _

end Post

/-! ## The deployment -/

/-- How a POST ends without a reply. -/
inductive Loss
  | timeoutError
  | raised (e : HttpxError)

def Loss.exchange : Loss → Exchange
  | .timeoutError => .timeoutError
  | .raised e => .raised e

/-- The platform, and the replies of the emulator in the order in which it has served the POSTs. -/
structure Deployment where
  platform : Requests
  served : List (Nat × Reply)

/-- Any event of the platform but an answer of the port; that is a reply delivered, a loss, or the
`UnicodeEncodeError` of a POST that cannot be sent. -/
inductive DeploymentEvent
  | platform (e : Event)
  | serve (r : Nat)
  | deliver (r : Nat)
  | lose (r : Nat) (loss : Loss)
  | unencodable (r : Nat)

def Event.isRespond : Event → Bool
  | .respond _ _ => true
  | _ => false

namespace Deployment

def init : Deployment :=
  { platform := Requests.init emptyTables
    served := [] }

/-- The adapter hands the outcome to the request. -/
def hear (requests : Nat → Request) (d : Deployment) (r : Nat) (o : PortOutcome) :
    Option Deployment :=
  match d.platform.step requests (.respond r o) with
  | some platform => some { d with platform := platform }
  | none => none

/-- The emulator serves the POST of a request, which has been sent once. -/
def serve (acceptsStr : PyStr → Bool) (msg : FieldError → PyStr) (d : Deployment) (r : Nat) :
    Option Deployment :=
  match d.served.lookup r, d.platform.sent.lookup r with
  | none, some request =>
      if encodable request then
        some { d with served := d.served ++ [(r, answerPost acceptsStr msg request)] }
      else none
  | _, _ => none

def step (acceptsStr : PyStr → Bool) (msg : FieldError → PyStr) (requests : Nat → Request)
    (d : Deployment) : DeploymentEvent → Option Deployment
  | .platform e =>
      if e.isRespond then none
      else
        match d.platform.step requests e with
        | some platform => some { d with platform := platform }
        | none => none
  | .serve r => d.serve acceptsStr msg r
  | .deliver r =>
      match d.served.lookup r with
      | some reply => d.hear requests r (authorize (.response (received reply)))
      | none => none
  | .lose r loss => d.hear requests r (authorize loss.exchange)
  | .unencodable r =>
      match d.platform.sent.lookup r with
      | some request =>
          if encodable request then none else d.hear requests r (.escaped .unicodeEncode)
      | none => none

/-- How the POST of a request can have ended for its client. -/
inductive Heard (served : List (Nat × Reply)) (r : Nat) : Exchange → Prop
  | reply (reply : Reply) (h : (r, reply) ∈ served) : Heard served r (.response (received reply))
  | loss (loss : Loss) : Heard served r loss.exchange

theorem Heard.mono {served served' : List (Nat × Reply)} (hsub : served ⊆ served') {r : Nat}
    {x : Exchange} (h : Heard served r x) : Heard served' r x := by
  cases h with
  | reply reply h =>
      exact .reply reply (hsub h)
  | loss loss =>
      exact .loss loss

/-- The outcomes the port can have had for a request. -/
inductive Reported (served : List (Nat × Reply)) (r : Nat) : PortOutcome → Prop
  | heard (x : Exchange) (h : Heard served r x) : Reported served r (authorize x)
  | unencodable : Reported served r (.escaped .unicodeEncode)

theorem Reported.mono {served served' : List (Nat × Reply)} (hsub : served ⊆ served') {r : Nat}
    {o : PortOutcome} (h : Reported served r o) : Reported served' r o := by
  cases h with
  | heard x h =>
      exact .heard x (h.mono hsub)
  | unencodable =>
      exact .unencodable

/-- A request that has called `complete` has heard of its POST. -/
theorem Reported.settled {served : List (Nat × Reply)} {r : Nat} {o : PortOutcome}
    (h : Reported served r o) {id keyHash : PyStr} {a : CompleteArgs}
    (ha : settlement id keyHash o = .ok a) : ∃ x, Heard served r x ∧ o = authorize x := by
  cases h with
  | heard x h =>
      exact ⟨x, h, rfl⟩
  | unencodable =>
      cases ha

theorem mem_of_lookup {α : Type} {r : Nat} {x : α} {l : List (Nat × α)} (h : l.lookup r = some x) :
    (r, x) ∈ l := by
  rcases List.lookup_eq_some_iff.mp h with ⟨l₁, l₂, hl, _⟩
  rw [hl]
  exact List.mem_append_right _ (List.mem_cons_self ..)

section Steps

variable {acceptsStr : PyStr → Bool} {msg : FieldError → PyStr} {requests : Nat → Request}
  {d d' : Deployment}

theorem hear_eq_some {r : Nat} {o : PortOutcome} (h : d.hear requests r o = some d') :
    d.platform.step requests (.respond r o) = some d'.platform ∧ d'.served = d.served := by
  unfold hear at h
  split at h
  · rename_i platform hstep
    cases h
    exact ⟨hstep, rfl⟩
  · cases h

theorem serve_eq_some {r : Nat} (h : d.serve acceptsStr msg r = some d') :
    r ∉ d.served.map Prod.fst ∧ ∃ request, (r, request) ∈ d.platform.sent ∧
      encodable request = true ∧
      d' = { d with served := d.served ++ [(r, answerPost acceptsStr msg request)] } := by
  unfold serve at h
  split at h
  · rename_i request hnone hsome
    split at h
    · rename_i hencodable
      cases h
      refine ⟨?_, request, mem_of_lookup hsome, hencodable, rfl⟩
      intro hmem
      rcases List.mem_map.mp hmem with ⟨p, hp, rfl⟩
      simpa using List.lookup_eq_none_iff.mp hnone p hp
    · cases h
  · cases h

theorem unencodable_eq_some {r : Nat}
    (h : d.step acceptsStr msg requests (.unencodable r) = some d') :
    ∃ request, (r, request) ∈ d.platform.sent ∧ encodable request = false ∧
      d.hear requests r (.escaped .unicodeEncode) = some d' := by
  simp only [step] at h
  split at h
  · rename_i request hsome
    split at h
    · cases h
    · rename_i hnot
      exact ⟨request, mem_of_lookup hsome, by simpa using hnot, h⟩
  · cases h

/-- A step of the deployment is a step of the platform in which the port reports what its request has
heard, or the emulator serves a POST that it has not served yet. -/
theorem step_cases {e : DeploymentEvent} (h : d.step acceptsStr msg requests e = some d') :
    (d'.served = d.served ∧ ∃ pe, d.platform.step requests pe = some d'.platform ∧
        ∀ r o, pe = .respond r o → Reported d.served r o) ∨
      (∃ r request, r ∉ d.served.map Prod.fst ∧ (r, request) ∈ d.platform.sent ∧
        encodable request = true ∧ d' = { d with served := d.served ++ [(r, answerPost acceptsStr msg request)] }) := by
  cases e with
  | platform e =>
      simp only [step] at h
      split at h
      · cases h
      · rename_i hrespond
        split at h
        · rename_i platform hstep
          cases h
          refine .inl ⟨rfl, e, hstep, ?_⟩
          rintro r o rfl
          exact absurd rfl hrespond
        · cases h
  | serve r =>
      rcases serve_eq_some h with ⟨hnew, request, hsent, hencodable, rfl⟩
      exact .inr ⟨r, request, hnew, hsent, hencodable, rfl⟩
  | deliver r =>
      simp only [step] at h
      split at h
      · rename_i reply hreply
        rcases hear_eq_some h with ⟨hstep, hserved⟩
        refine .inl ⟨hserved, _, hstep, ?_⟩
        rintro r' o heq
        cases heq
        exact .heard _ (.reply reply (mem_of_lookup hreply))
      · cases h
  | lose r loss =>
      rcases hear_eq_some h with ⟨hstep, hserved⟩
      refine .inl ⟨hserved, _, hstep, ?_⟩
      rintro r' o heq
      cases heq
      exact .heard _ (.loss loss)
  | unencodable r =>
      rcases unencodable_eq_some h with ⟨_, _, _, hhear⟩
      rcases hear_eq_some hhear with ⟨hstep, hserved⟩
      refine .inl ⟨hserved, _, hstep, ?_⟩
      rintro r' o heq
      cases heq
      exact .unencodable

end Steps

/-- What holds of the messages: the platform is in a state its own runs reach, the emulator has served
POSTs that were sent, each at most once, and every `complete` was called for what its request has
heard. -/
structure NetworkInv (acceptsStr : PyStr → Bool) (msg : FieldError → PyStr)
    (requests : Nat → Request) (d : Deployment) : Prop where
  reach : Reachable (Requests.step requests) (Requests.init emptyTables) d.platform
  posts : ∀ p ∈ d.served, ∃ request, (p.1, request) ∈ d.platform.sent ∧
    encodable request = true ∧ p.2 = answerPost acceptsStr msg request
  nodup : (d.served.map Prod.fst).Nodup
  heard : Requests.CompletedFrom requests (Reported d.served) d.platform

section Invariant

variable {acceptsStr : PyStr → Bool} {msg : FieldError → PyStr} {requests : Nat → Request}

theorem networkInv_init : NetworkInv acceptsStr msg requests init where
  reach := .refl _
  posts := by
    intro p hp
    cases hp
  nodup := List.nodup_nil
  heard := by
    intro r a h
    cases h

theorem step_networkInv {d d' : Deployment} {e : DeploymentEvent}
    (h : NetworkInv acceptsStr msg requests d)
    (hstep : d.step acceptsStr msg requests e = some d') : NetworkInv acceptsStr msg requests d' := by
  rcases step_cases hstep with
    ⟨hserved, pe, hpe, hreported⟩ | ⟨r, request, hnew, hsent, hencodable, rfl⟩
  · refine ⟨h.reach.next hpe, ?_, hserved ▸ h.nodup, ?_⟩
    · intro p hp
      rw [hserved] at hp
      rcases h.posts p hp with ⟨request, hsent, hreply⟩
      refine ⟨request, ?_, hreply⟩
      rcases Requests.sent_of_step hpe with hsame | ⟨_, _, _, _, _, happend⟩
      · rwa [hsame]
      · rw [happend]
        exact List.mem_append_left _ hsent
    · rw [hserved]
      exact Requests.step_completedFrom hreported hpe h.heard
  · refine ⟨h.reach, ?_, ?_, ?_⟩
    · intro p hp
      rcases List.mem_append.mp hp with hold | hlast
      · exact h.posts p hold
      · rw [List.mem_singleton.mp hlast]
        exact ⟨request, hsent, hencodable, rfl⟩
    · simpa using h.nodup.concat hnew
    · intro r' a hcall
      rcases h.heard r' a hcall with ⟨keyHash, o, ho, hcompletion⟩
      exact ⟨keyHash, o, ho.mono (List.subset_append_left _ _), hcompletion⟩

theorem networkInv_of_run {es : List DeploymentEvent} {d : Deployment}
    (hrun : exec (Deployment.step acceptsStr msg requests) init es = some d) :
    NetworkInv acceptsStr msg requests d :=
  exec_invariant (fun _ _ _ h hstep => step_networkInv h hstep) networkInv_init hrun

end Invariant

/-! ## Rows and decisions -/

/-- The row says what the emulator has decided; an answer that cannot be read leaves it waiting for
reconciliation. -/
def Reflects (row : TransactionRow) : ScenarioResult → Prop
  | .authorized n c => row.status = py "AUTHORIZED" ∧ row.networkReference = some n ∧
      row.authorizationCode = some c
  | .declined d => row.status = py "DECLINED" ∧ row.declineCode = some d
  | .unsupportedToken => row.status = py "FAILED"
  | .rateLimited => row.status = py "FAILED"
  | .response _ => row.status = py "PENDING_RECONCILIATION" ∧
      row.pendingOperation = some (py "AUTHORIZATION")
  | .escaped _ => False

/-- The row says nothing about a decision: the request has not come back, or nobody knows. -/
def Undecided (row : TransactionRow) : Prop :=
  row.status = py "CREATED" ∨ row.status = py "PENDING_RECONCILIATION"

theorem undecided_of_ambiguous {T : Tables} {id keyHash : PyStr} {reserved : ReserveArgs}
    {row : TransactionRow} {record : IdempotencyRecord}
    (h : Requests.Records T reserved (ambiguousArgs id keyHash) row record) : Undecided row :=
  .inr h.status

/-- A POST without a reply never settles anything. -/
theorem settlement_loss {id keyHash : PyStr} {loss : Loss} {a : CompleteArgs}
    (h : settlement id keyHash (authorize loss.exchange) = .ok a) : a = ambiguousArgs id keyHash := by
  cases loss with
  | timeoutError =>
      cases h
      rfl
  | raised e =>
      simp only [Loss.exchange, authorize] at h
      split at h
      · cases h
        rfl
      · split at h
        · cases h
          rfl
        · cases h

/-- A `complete` for a decision that has come through writes that decision. -/
theorem reflects_of_conveys {T : Tables} {id keyHash : PyStr} {result : ScenarioResult}
    {o : PortOutcome} (hconveys : Conveys result o) (htrimmed : Trimmed o) {a : CompleteArgs}
    (ha : settlement id keyHash o = .ok a) {reserved : ReserveArgs} {row : TransactionRow}
    {record : IdempotencyRecord} (h : Requests.Records T reserved a row record) :
    Reflects row result := by
  cases hconveys with
  | authorized n c =>
      cases ha
      exact ⟨h.status, varcharOpt_stripped htrimmed.1 h.networkReference,
        varcharOpt_stripped htrimmed.2 h.authorizationCode⟩
  | declined d =>
      cases ha
      exact ⟨h.status, varcharOpt_stripped htrimmed h.declineCode⟩
  | malformed content message =>
      cases ha
      exact ⟨h.status, h.pendingOperation⟩
  | unsupportedToken message =>
      cases ha
      exact h.status
  | rateLimited retryAfter =>
      rcases settlement_rateLimit ha with ⟨_, rfl⟩
      exact h.status

/-- The tables and the emulator agree about every payment. -/
structure Agreement (requests : Nat → Request) (d : Deployment) : Prop where
  once : d.served.Pairwise fun p q => p.1 ≠ q.1 ∧
    (requests p.1).command.transactionId ≠ (requests q.1).command.transactionId ∧
    computeKeyHash (requests p.1).idempotencyKey ≠ computeKeyHash (requests q.1).idempotencyKey
  served_row : ∀ p ∈ d.served, ∃ row : TransactionRow,
    d.platform.tables (.transaction (requests p.1).command.transactionId) = some row ∧
      row.merchantId = (requests p.1).command.merchantId ∧
      row.amount = (requests p.1).command.amount ∧
      row.currency = (requests p.1).command.currency ∧
      (Undecided row ∨ Reflects row (decision (requests p.1).command))
  decided_row : ∀ id (row : TransactionRow), d.platform.tables (.transaction id) = some row →
    Undecided row ∨ ∃ p ∈ d.served, (requests p.1).command.transactionId = id ∧
      row.merchantId = (requests p.1).command.merchantId ∧
      row.amount = (requests p.1).command.amount ∧
      row.currency = (requests p.1).command.currency ∧
      Reflects row (decision (requests p.1).command)

section Agreement

variable {acceptsStr : PyStr → Bool} {msg : FieldError → PyStr} {requests : Nat → Request}
  (haccepted : ∀ r, Accepted acceptsStr (requests r)) {d : Deployment}
  (hinv : NetworkInv acceptsStr msg requests d)

include hinv in
/-- The emulator has answered the POST of the request itself. -/
theorem served_reply {p : Nat × Reply} (hp : p ∈ d.served) :
    p.2 = answerPost acceptsStr msg (portRequest (requests p.1).command) ∧
      encodable (portRequest (requests p.1).command) = true ∧
      ∃ a, Requests.Acquired requests d.platform p.1 a := by
  rcases hinv.posts p hp with ⟨request, hsent, hencodable, hreply⟩
  rcases (Requests.sentInv_of_reachable hinv.reach).acquired _ hsent with ⟨hport, hacquired⟩
  have hrequest : request = portRequest (requests p.1).command := hport
  exact ⟨hrequest ▸ hreply, hrequest ▸ hencodable, hacquired⟩

include haccepted hinv in
/-- The row of a reservation is undecided, or its request was served and the row says what the
emulator has decided. -/
theorem row_of_logged {r : Nat} {a : ReserveArgs} {now : Timestamp}
    (hargs : (requests r).reserveArgs = .ok a)
    (hlogged : ⟨.reserve r, .reserve a, now⟩ ∈ d.platform.calls.log) :
    ∃ row record, Requests.Pair d.platform.tables (requests r) a row record ∧
      (Undecided row ∨ (∃ reply, (r, reply) ∈ d.served) ∧
        Reflects row (decision (requests r).command)) := by
  rcases Requests.standing_of_logged hinv.reach (fun r => (haccepted r).admitted) hinv.heard hargs
    hlogged with ⟨row, record, hpair, hstanding⟩
  refine ⟨row, record, hpair, ?_⟩
  cases hstanding with
  | fresh _ hrow _ _ =>
      exact .inl (.inl hrow.1)
  | completed keyHash o args ho hsettled hrecords =>
      rcases ho.settled hsettled with ⟨x, hx, rfl⟩
      cases hx with
      | reply reply hserved =>
          rcases served_reply hinv hserved with ⟨hreply, hencodable, _⟩
          dsimp only at hreply
          have hconveys := conveys_answerPost msg (haccepted r) (encodable_iff.mp hencodable).1
          rw [← hreply] at hconveys
          exact .inr ⟨⟨reply, hserved⟩,
            reflects_of_conveys hconveys (trimmed_authorize _) hsettled hrecords⟩
      | loss loss =>
          rw [settlement_loss hsettled] at hrecords
          exact .inl (undecided_of_ambiguous hrecords)

include haccepted hinv in
theorem agreement_of_inv : Agreement requests d := by
  refine ⟨?_, ?_, ?_⟩
  · -- each request is served once, and two acquired requests share neither an id nor a key
    have hdistinct : d.served.Pairwise fun p q => p.1 ≠ q.1 := List.pairwise_map.mp hinv.nodup
    refine hdistinct.imp_of_mem ?_
    intro p q hp hq hne
    rcases (served_reply hinv hp).2.2 with ⟨a, ha⟩
    rcases (served_reply hinv hq).2.2 with ⟨b, hb⟩
    rcases Requests.acquired_distinct hinv.reach ha hb hne with ⟨hkey, hid⟩
    refine ⟨hne, ?_, ?_⟩
    · rwa [(reserveArgs_ok ha.1).2.2.1, (reserveArgs_ok hb.1).2.2.1] at hid
    · intro heq
      have hsame := (reserveArgs_ok ha.1).1.symm.trans (heq.trans (reserveArgs_ok hb.1).1)
      exact hkey (Except.ok.inj hsame)
  · intro p hp
    rcases (served_reply hinv hp).2.2 with ⟨a, ha⟩
    rcases ha.logged hinv.reach with ⟨now, hlogged⟩
    rcases row_of_logged haccepted hinv ha.1 hlogged with ⟨row, record, hpair, hstate⟩
    refine ⟨row, hpair.row_eq, hpair.values.1, hpair.values.2.1, hpair.values.2.2, ?_⟩
    rcases hstate with hundecided | ⟨_, hreflects⟩
    · exact .inl hundecided
    · exact .inr hreflects
  · intro id row hrow
    rcases Requests.owner_of_transaction hinv.reach (fun r => (haccepted r).admitted) hrow with
      ⟨r, a, now, hargs, rfl, hlogged⟩
    rcases row_of_logged haccepted hinv hargs hlogged with ⟨row', record, hpair, hstate⟩
    cases hrow.symm.trans hpair.row_eq
    rcases hstate with hundecided | ⟨⟨reply, hserved⟩, hreflects⟩
    · exact .inl hundecided
    · exact .inr ⟨(r, reply), hserved, rfl, hpair.values.1, hpair.values.2.1, hpair.values.2.2,
        hreflects⟩

/-- In every run of the platform and the emulator from empty tables, for all accepted requests, with
POSTs and replies lost, late or never awaited, processes that die and database faults at any step:
the emulator serves no two POSTs for one transaction or one key; each payment it serves has its row,
with the values of the POST; and every row that is not `CREATED` or `PENDING_RECONCILIATION` says what
the emulator has decided on its payment, so that an authorized payment is never recorded as declined
or failed. -/
theorem payments_agree (acceptsStr : PyStr → Bool) (msg : FieldError → PyStr)
    (requests : Nat → Request) (haccepted : ∀ r, Accepted acceptsStr (requests r))
    (es : List DeploymentEvent) {d : Deployment}
    (hrun : exec (Deployment.step acceptsStr msg requests) init es = some d) :
    Agreement requests d :=
  agreement_of_inv haccepted (networkInv_of_run hrun)

/-- A request the emulator authorizes. -/
def approvedRequest : Request :=
  { command := { sampleRequest.command with paymentToken := py "tok_test_approved" }
    idempotencyKey := sampleRequest.idempotencyKey }

theorem approved_accepted : Accepted (fun _ => true) approvedRequest := by
  refine ⟨⟨some (py "c-1"), some (py "key-1"), .json (.obj
    [(py "transaction_id", .str (py "txn_1")), (py "merchant_id", .str (py "m_1")),
      (py "payment_token", .str (py "tok_test_approved")), (py "amount", .int 100),
      (py "currency", .str (py "USD"))])⟩,
    ⟨⟨py "txn_1", py "m_1", py "tok_test_approved", 100, py "USD"⟩, py "c-1", py "key-1"⟩, ?_, rfl⟩
  exact ⟨⟨_, rfl, rfl⟩, rfl, rfl⟩

/-- The client gives up before the emulator has served the POST: the payment is authorized and the
row waits for reconciliation. -/
theorem payments_agree_late :
    let run : List DeploymentEvent := sampleRun.map .platform ++
      [.lose 0 .timeoutError, .serve 0, .platform (.database (.step (.complete 0) 2)),
        .platform (.database (.step (.complete 0) 2)),
        .platform (.database (.step (.complete 0) 2)), .platform (.finish 0)]
    ∃ (d : Deployment) (row : TransactionRow) (n c : PyStr),
      exec (Deployment.step (fun _ => true) (fun _ => []) fun _ => approvedRequest) init run =
        some d ∧
      decision approvedRequest.command = .authorized n c ∧ Agreement (fun _ => approvedRequest) d ∧
      d.served ≠ [] ∧ d.platform.tables (.transaction (py "txn_1")) = some row ∧
      row.status = py "PENDING_RECONCILIATION" := by
  intro run
  have hany : (exec (Deployment.step (fun _ => true) (fun _ => []) fun _ => approvedRequest)
      init run).any (fun d => !d.served.isEmpty &&
        (d.platform.tables (.transaction (py "txn_1"))).any fun row =>
          row.status = py "PENDING_RECONCILIATION") = true := by
    decide +kernel
  rcases (Option.any_eq_true _ _).mp hany with ⟨d, hrun, hd⟩
  simp only [Bool.and_eq_true, Bool.not_eq_true', List.isEmpty_eq_false_iff] at hd
  rcases (Option.any_eq_true _ _).mp hd.2 with ⟨row, hrow, hstatus⟩
  have hagreement := payments_agree (fun _ => true) (fun _ => [])
    (fun _ => approvedRequest) (fun _ => approved_accepted) run hrun
  have hdecision : ∃ n c, decision approvedRequest.command = .authorized n c := by
    have hscalar : (py "txn_1").all isScalar = true := by decide
    rcases deriveNetworkReference_ok hscalar with ⟨n, hn, _⟩
    refine ⟨n, py "AUTH123", ?_⟩
    have hscenario := (scenario_eq (payment approvedRequest.command)).1 rfl
    have hid : (payment approvedRequest.command).requestId = py "txn_1" := rfl
    simp [decision, hscenario, Emulator.authorizedScenario, hid, hn]
  rcases hdecision with ⟨n, c, hdecision⟩
  exact ⟨d, row, n, c, hrun, hdecision, hagreement, hd.1, hrow, by simpa using hstatus⟩

end Agreement

end Deployment

end System
end TransactionPlatform
