import TransactionPlatform.Adapters.RetryAfter
import TransactionPlatform.Api.App
import TransactionPlatform.System.AtMostOnce

/-!
# Exchanges — from the downstream POST to `complete`

How an exchange with the provider ends decides, through the adapter, the service, the entity and the
envelope mapping, what an acquired request hands to `complete` and answers.  The first half says
what the adapter makes of an exchange in terms of the exchange alone; the second composes it with
the request.
-/

namespace TransactionPlatform

open Text Ports

namespace Adapters

/-! ## Kinds of exchanges -/

namespace Exchange

/-- HTTP 200 with a JSON object that confirms an authorization; both texts are stripped. -/
def AuthorizedBy (x : Exchange) (networkReference authorizationCode : PyStr) : Prop :=
  ∃ r data s t, x = .response r ∧ r.statusCode = 200 ∧ r.json = .ok (.obj data) ∧
    Dict.get data (py "outcome") = some (.str (py "AUTHORIZED")) ∧
    Dict.get data (py "network_reference") = some (.str s) ∧
    Dict.get data (py "authorization_code") = some (.str t) ∧
    strip s = networkReference ∧ networkReference ≠ [] ∧
    strip t = authorizationCode ∧ authorizationCode ≠ []

/-- HTTP 200 with a JSON object that reports a decline. -/
def DeclinedBy (x : Exchange) (declineCode : PyStr) : Prop :=
  ∃ r data s, x = .response r ∧ r.statusCode = 200 ∧ r.json = .ok (.obj data) ∧
    Dict.get data (py "outcome") = some (.str (py "DECLINED")) ∧
    Dict.get data (py "decline_code") = some (.str s) ∧ strip s = declineCode ∧ declineCode ≠ []

def RateLimited (x : Exchange) : Prop :=
  ∃ r, x = .response r ∧ r.statusCode = 429

/-- A client error that is neither a timeout nor a rate limit. -/
def Rejected (x : Exchange) : Prop :=
  ∃ r, x = .response r ∧ 400 ≤ r.statusCode ∧ r.statusCode ≤ 499 ∧ r.statusCode ≠ 408 ∧
    r.statusCode ≠ 429

/-- The exchange does not tell what the provider did. -/
def Unknown (x : Exchange) : Prop :=
  ¬ ((∃ n c, x.AuthorizedBy n c) ∨ (∃ d, x.DeclinedBy d) ∨ x.RateLimited ∨ x.Rejected)

/-- The exceptions of the exchange are ones the adapter handles: an exception of `client.post` is a
transport error (timeouts are), and the body of an HTTP 200 does not exhaust the recursion limit. -/
def Mapped : Exchange → Prop
  | .response r => r.statusCode = 200 → r.json ≠ .error .recursionError
  | .timeoutError => True
  | .raised e => e.isTransportError = true

end Exchange

/-! ## What the adapter makes of them -/

theorem nonBlank_eq_some {v : Option Json} {s : PyStr} :
    nonBlank v = some s ↔ ∃ t, v = some (.str t) ∧ strip t = s ∧ s ≠ [] := by
  constructor
  · intro h
    unfold nonBlank at h
    split at h
    · rename_i t
      split at h
      · cases h
      · rename_i hne
        cases h
        exact ⟨t, rfl, rfl, hne⟩
    · cases h
  · rintro ⟨t, rfl, rfl, hne⟩
    simp [nonBlank, hne]

theorem handlePayload_authorized {data : Dict Json} {n c : PyStr} :
    handlePayload data = .authorized n c ↔
      Dict.get data (py "outcome") = some (.str (py "AUTHORIZED")) ∧
        nonBlank (Dict.get data (py "network_reference")) = some n ∧
        nonBlank (Dict.get data (py "authorization_code")) = some c := by
  constructor
  · intro h
    unfold handlePayload at h
    split at h
    · rename_i outcome houtcome
      split at h
      · rename_i heq
        subst heq
        split at h
        · rename_i netRef authCode hnet hauth
          cases h
          exact ⟨houtcome, hnet, hauth⟩
        · cases h
      · split at h
        · split at h <;> cases h
        · cases h
    · cases h
  · rintro ⟨houtcome, hnet, hauth⟩
    simp [handlePayload, houtcome, hnet, hauth]

theorem handlePayload_declined {data : Dict Json} {d : PyStr} :
    handlePayload data = .declined d ↔
      Dict.get data (py "outcome") = some (.str (py "DECLINED")) ∧
        nonBlank (Dict.get data (py "decline_code")) = some d := by
  constructor
  · intro h
    unfold handlePayload at h
    split at h
    · rename_i outcome houtcome
      split at h
      · split at h <;> cases h
      · split at h
        · rename_i heq
          subst heq
          split at h
          · rename_i code hcode
            cases h
            exact ⟨houtcome, hcode⟩
          · cases h
        · cases h
    · cases h
  · rintro ⟨houtcome, hcode⟩
    simp [handlePayload, houtcome, hcode]

/-- A JSON object never makes the adapter raise anything but an invalid-response error. -/
theorem handlePayload_cases (data : Dict Json) :
    (∃ n c, handlePayload data = .authorized n c) ∨ (∃ d, handlePayload data = .declined d) ∨
      ∃ message, handlePayload data = .raised (.invalidResponse message) := by
  unfold handlePayload
  repeat' split
  all_goals simp [invalidResponse]

/-- What an exchange means to the adapter, one constructor for each kind. -/
inductive Meaning : Exchange → PortOutcome → Prop
  | payload (r : Response) (data : Dict Json) (hstatus : r.statusCode = 200)
      (hjson : r.json = .ok (.obj data)) : Meaning (.response r) (handlePayload data)
  | invalid (r : Response) (message : PyStr) (hstatus : r.statusCode = 200)
      (hobject : ∀ data, r.json ≠ .ok (.obj data)) (hdepth : r.json ≠ .error .recursionError) :
      Meaning (.response r) (.raised (.invalidResponse message))
  | tooDeep (r : Response) (hstatus : r.statusCode = 200)
      (hjson : r.json = .error .recursionError) :
      Meaning (.response r) (.escaped (.foreign (py "RecursionError")))
  | rateLimit (r : Response) (retryAfter : Int) (hstatus : r.statusCode = 429)
      (hrange : 1 ≤ retryAfter ∧ retryAfter ≤ 60) :
      Meaning (.response r) (.raised (.rateLimit retryAfter))
  | rejected (r : Response) (message : PyStr) (hstatus : 400 ≤ r.statusCode ∧ r.statusCode ≤ 499)
      (h408 : r.statusCode ≠ 408) (h429 : r.statusCode ≠ 429) :
      Meaning (.response r) (.raised (.rejected message))
  | requestTimeout (r : Response) (message : PyStr) (hstatus : r.statusCode = 408) :
      Meaning (.response r) (.raised (.timeout message))
  | unavailable (r : Response) (message : PyStr) (h200 : r.statusCode ≠ 200)
      (hstatus : ¬ (400 ≤ r.statusCode ∧ r.statusCode ≤ 499)) :
      Meaning (.response r) (.raised (.unavailable message))
  | timeoutError (message : PyStr) : Meaning .timeoutError (.raised (.timeout message))
  | timeout (e : HttpxError) (message : PyStr) (he : e.isTransportError = true) :
      Meaning (.raised e) (.raised (.timeout message))
  | transport (e : HttpxError) (message : PyStr) (he : e.isTransportError = true) :
      Meaning (.raised e) (.raised (.unavailable message))
  | unhandled (e : HttpxError) (he : e.isTransportError = false) :
      Meaning (.raised e) (.escaped (.foreign e.className))

theorem meaning_handleResponse (r : Response) : Meaning (.response r) (handleResponse r) := by
  simp only [handleResponse]
  split
  · rename_i hstatus
    split
    · rename_i failure hjson
      split
      · rename_i hvalue
        refine .invalid r _ hstatus (by simp [hjson]) ?_
        rw [hjson]
        intro heq
        cases heq
        cases hvalue
      · rename_i hvalue
        -- the one failure that is no `ValueError` goes through the handler
        have hdeep : failure = .recursionError := by
          cases failure <;> simp_all [JsonFailure.isValueError]
        subst hdeep
        exact .tooDeep r hstatus hjson
    · rename_i data hjson
      exact .payload r data hstatus hjson
    · rename_i value hobject hjson
      refine .invalid r _ hstatus ?_ (by simp [hjson])
      intro data heq
      rw [hjson] at heq
      exact hobject data (Except.ok.inj heq)
  · rename_i h200
    split
    · rename_i h429
      exact .rateLimit r _ h429 (parseRetryAfter_bounds _ (by decide) (by decide))
    · rename_i h429
      split
      · rename_i h408
        exact .requestTimeout r _ h408
      · rename_i h408
        split
        · rename_i h4xx
          -- the status codes are tested in order, so 429 and 408 are excluded here
          exact .rejected r _ (by omega) h408 h429
        · rename_i h4xx
          split
          · exact .unavailable r _ h200 (by omega)
          · exact .unavailable r _ h200 (by omega)

theorem meaning (x : Exchange) : Meaning x (authorize x) := by
  cases x with
  | response r =>
      exact meaning_handleResponse r
  | timeoutError =>
      exact .timeoutError _
  | raised e =>
      cases htransport : e.isTransportError with
      | true =>
          cases htimeout : e.isTimeoutException with
          | true =>
              simpa [authorize, htimeout] using Meaning.timeout e _ htransport
          | false =>
              simpa [authorize, htimeout, htransport] using Meaning.transport e _ htransport
      | false =>
          have htimeout : e.isTimeoutException = false := by
            cases e <;> first | rfl | cases htransport
          simpa [authorize, htimeout, htransport] using Meaning.unhandled e htransport

theorem Meaning.authorized_iff {x : Exchange} {o : PortOutcome} (h : Meaning x o) (n c : PyStr) :
    o = .authorized n c ↔ x.AuthorizedBy n c := by
  cases h with
  | payload r data hstatus hjson =>
      rw [handlePayload_authorized, nonBlank_eq_some, nonBlank_eq_some]
      constructor
      · rintro ⟨houtcome, ⟨s, hs, hns, hn⟩, ⟨t, ht, htc, hc⟩⟩
        exact ⟨r, data, s, t, rfl, hstatus, hjson, houtcome, hs, ht, hns, hn, htc, hc⟩
      · rintro ⟨r', data', s, t, heq, _, hjson', houtcome, hs, ht, hns, hn, htc, hc⟩
        cases heq
        cases hjson.symm.trans hjson'
        exact ⟨houtcome, ⟨s, hs, hns, hn⟩, ⟨t, ht, htc, hc⟩⟩
  | _ =>
      -- no other exchange is an HTTP 200 with an object
      refine iff_of_false (by simp) ?_
      rintro ⟨r', data', s, t, heq, hstatus', hjson', _⟩
      cases heq
      all_goals simp_all

theorem Meaning.declined_iff {x : Exchange} {o : PortOutcome} (h : Meaning x o) (d : PyStr) :
    o = .declined d ↔ x.DeclinedBy d := by
  cases h with
  | payload r data hstatus hjson =>
      rw [handlePayload_declined, nonBlank_eq_some]
      constructor
      · rintro ⟨houtcome, s, hs, hsd, hd⟩
        exact ⟨r, data, s, rfl, hstatus, hjson, houtcome, hs, hsd, hd⟩
      · rintro ⟨r', data', s, heq, _, hjson', houtcome, hs, hsd, hd⟩
        cases heq
        cases hjson.symm.trans hjson'
        exact ⟨houtcome, s, hs, hsd, hd⟩
  | _ =>
      refine iff_of_false (by simp) ?_
      rintro ⟨r', data', s, heq, hstatus', hjson', _⟩
      cases heq
      all_goals simp_all

theorem handlePayload_ne_rateLimit (data : Dict Json) (n : Int) :
    handlePayload data ≠ .raised (.rateLimit n) := by
  rcases handlePayload_cases data with ⟨a, b, h⟩ | ⟨d, h⟩ | ⟨m, h⟩ <;> simp [h]

theorem handlePayload_ne_rejected (data : Dict Json) (message : PyStr) :
    handlePayload data ≠ .raised (.rejected message) := by
  rcases handlePayload_cases data with ⟨a, b, h⟩ | ⟨d, h⟩ | ⟨m, h⟩ <;> simp [h]

theorem handlePayload_isRegular (data : Dict Json) : (handlePayload data).isRegular = true := by
  rcases handlePayload_cases data with ⟨a, b, h⟩ | ⟨d, h⟩ | ⟨m, h⟩ <;> simp [h, PortOutcome.isRegular]

theorem Meaning.rateLimited_iff {x : Exchange} {o : PortOutcome} (h : Meaning x o) :
    (∃ n, o = .raised (.rateLimit n)) ↔ x.RateLimited := by
  cases h with
  | rateLimit r n hstatus =>
      exact iff_of_true ⟨n, rfl⟩ ⟨r, rfl, hstatus⟩
  | payload r data hstatus hjson =>
      refine iff_of_false (by simp [handlePayload_ne_rateLimit]) ?_
      rintro ⟨r', heq, hstatus'⟩
      cases heq
      omega
  | _ =>
      refine iff_of_false (by simp) ?_
      rintro ⟨r', heq, hstatus'⟩
      cases heq
      all_goals omega

theorem Meaning.rejected_iff {x : Exchange} {o : PortOutcome} (h : Meaning x o) :
    (∃ message, o = .raised (.rejected message)) ↔ x.Rejected := by
  cases h with
  | rejected r message hstatus h408 h429 =>
      exact iff_of_true ⟨message, rfl⟩ ⟨r, rfl, hstatus.1, hstatus.2, h408, h429⟩
  | payload r data hstatus hjson =>
      refine iff_of_false (by simp [handlePayload_ne_rejected]) ?_
      rintro ⟨r', heq, hlow, _⟩
      cases heq
      omega
  | _ =>
      refine iff_of_false (by simp) ?_
      rintro ⟨r', heq, hlow, hhigh, h408', h429'⟩
      cases heq
      all_goals omega

/-- The port keeps to its protocol on exactly the exchanges the adapter handles. -/
theorem Meaning.regular_iff {x : Exchange} {o : PortOutcome} (h : Meaning x o) :
    o.isRegular = true ↔ x.Mapped := by
  -- two exchanges escape: a body too deep to parse, and an exception nobody handles
  cases h with
  | payload r data hstatus hjson =>
      exact iff_of_true (handlePayload_isRegular data) (fun _ => by simp [hjson])
  | invalid r message hstatus hobject hdepth =>
      exact iff_of_true rfl (fun _ => hdepth)
  | tooDeep r hstatus hjson =>
      exact iff_of_false (by simp [PortOutcome.isRegular]) (fun hmapped => hmapped hstatus hjson)
  | timeoutError message =>
      exact iff_of_true rfl trivial
  | timeout e message he =>
      exact iff_of_true rfl he
  | transport e message he =>
      exact iff_of_true rfl he
  | unhandled e he =>
      exact iff_of_false (by simp [PortOutcome.isRegular]) (by simp [Exchange.Mapped, he])
  | rateLimit r n hstatus =>
      exact iff_of_true rfl (fun h200 => by omega)
  | rejected r message hstatus =>
      exact iff_of_true rfl (fun h200 => by omega)
  | requestTimeout r message hstatus =>
      exact iff_of_true rfl (fun h200 => by omega)
  | unavailable r message h200 =>
      exact iff_of_true rfl (fun h => absurd h h200)

theorem Meaning.rateLimit_range {x : Exchange} {n : Int} (h : Meaning x (.raised (.rateLimit n))) :
    1 ≤ n ∧ n ≤ 60 := by
  generalize ho : PortOutcome.raised (.rateLimit n) = o at h
  cases h with
  | payload r data =>
      exact absurd ho.symm (handlePayload_ne_rateLimit data n)
  | rateLimit r m _ hrange =>
      cases ho
      exact hrange
  | _ =>
      cases ho

/-- The adapter's waiting times can be printed. -/
theorem Meaning.waitPrints {x : Exchange} {o : PortOutcome} (h : Meaning x o) :
    o.waitPrints = true := by
  cases o with
  | raised e =>
      cases e with
      | rateLimit n =>
          have hrange := h.rateLimit_range
          exact printable_of_lt (by omega)
      | _ =>
          rfl
  | _ =>
      rfl

theorem Meaning.escaped {x : Exchange} {o : PortOutcome} (h : Meaning x o) (hx : ¬ x.Mapped) :
    ∃ className, o = .escaped (.foreign className) := by
  have hirregular : ¬ o.isRegular = true := h.regular_iff.not.mpr hx
  cases h with
  | payload r data =>
      exact absurd (handlePayload_isRegular data) hirregular
  | tooDeep r =>
      exact ⟨_, rfl⟩
  | unhandled e =>
      exact ⟨_, rfl⟩
  | _ =>
      exact absurd rfl hirregular

end Adapters

namespace System

open Domain Common Application Adapters Api Infrastructure ReadCommitted Transition

/-! ## What `complete` is handed -/

/-- The transaction handed to `complete` and the status of the HTTP answer. -/
def AnswersWith (a : CompleteArgs) (status : TransactionStatus) (pending : Option PendingOperation)
    (code : Int) : Prop :=
  a.transaction.status = status ∧ a.transaction.pendingOperation = pending ∧
    (httpAnswer a.envelope).statusCode = code

/-- The kind of outcome can be read off from what `complete` is handed. -/
structure Classified (a : CompleteArgs) (authorized declined rateLimited rejected : Prop) : Prop where
  authorized_iff : AnswersWith a .authorized none 201 ↔ authorized
  declined_iff : AnswersWith a .declined none 201 ↔ declined
  rateLimited_iff : AnswersWith a .failed none 503 ↔ rateLimited
  rejected_iff : AnswersWith a .failed none 502 ↔ rejected
  pending_iff : AnswersWith a .pendingReconciliation (some .authorization) 202 ↔
    ¬ (authorized ∨ declined ∨ rateLimited ∨ rejected)

theorem classified_of_settlement {id keyHash : PyStr} {o : PortOutcome} {a : CompleteArgs}
    (h : settlement id keyHash o = .ok a) :
    Classified a (∃ n c, o = .authorized n c) (∃ d, o = .declined d)
      (∃ n, o = .raised (.rateLimit n)) (∃ m, o = .raised (.rejected m)) := by
  cases o with
  | raised e =>
      cases e with
      | rateLimit n =>
          rcases settlement_rateLimit h with ⟨-, rfl⟩
          constructor <;>
            simp [AnswersWith, httpAnswer, settled, rateLimitedProblem, makeProblemEnvelope]
      | _ =>
          cases h
          constructor <;>
            simp [AnswersWith, httpAnswer, settled, ambiguousArgs, pendingEnvelope, jsonEnvelope,
              rejectedEnvelope, makeProblemEnvelope]
  | escaped e =>
      cases h
  | _ =>
      cases h
      constructor <;>
        simp [AnswersWith, httpAnswer, settled, ambiguousArgs, pendingEnvelope, jsonEnvelope,
          authorizedEnvelope, declinedEnvelope]

/-- The values of a confirmed outcome are stored and returned. -/
theorem authorized_values {id keyHash n c : PyStr} {a : CompleteArgs}
    (h : settlement id keyHash (.authorized n c) = .ok a) :
    a.networkReference = some n ∧ a.authorizationCode = some c ∧
      (httpAnswer a.envelope).body.member (py "network_reference") = some (.str n) ∧
      (httpAnswer a.envelope).body.member (py "authorization_code") = some (.str c) := by
  cases h
  exact ⟨rfl, rfl, rfl, rfl⟩

theorem declined_values {id keyHash d : PyStr} {a : CompleteArgs}
    (h : settlement id keyHash (.declined d) = .ok a) :
    a.declineCode = some d ∧
      (httpAnswer a.envelope).body.member (py "decline_code") = some (.str d) := by
  cases h
  exact ⟨rfl, rfl⟩

namespace Requests

variable {requests : Nat → Request}

/-! ## The answer of the port -/

section Respond

variable {T : Tables} {s : Requests} (hreach : Reachable (Requests.step requests) (init T) s)
  {r : Nat} {keyHash : PyStr} (hawaiting : s.phase r = .awaiting keyHash)

include hreach hawaiting in
/-- With arguments for `complete`, the request calls it. -/
theorem respond_ok {o : PortOutcome} {a : CompleteArgs}
    (h : completion (requests r).command keyHash o = .ok a) :
    ∃ s', s.step requests (.respond r o) = some s' ∧ s'.phase r = .completing a.envelope ∧
      s'.calls.call (.complete r) = .complete a .updateTransaction ∧ s'.tables = s.tables := by
  have hphase := (callsInv_of_reachable hreach r).phase
  rw [hawaiting] at hphase
  rcases settlement_ok (completion_ok h).2 with ⟨_, _, hversion, hexpected⟩
  have hbegin : (CoordinatorCall.complete a).begin = .complete a .updateTransaction := by
    simp [CoordinatorCall.begin, completeStart, hversion, hexpected]
  have hstart : s.calls.step (.start (.complete r) (.complete a)) =
      some (s.calls.setCall (.complete r) (.complete a .updateTransaction)) := by
    simp [Coordination.step, Coordination.start, hphase.1, hbegin]
  refine ⟨{ (s.setPhase r (.completing a.envelope)) with
    calls := s.calls.setCall (.complete r) (.complete a .updateTransaction) }, ?_, ?_, ?_, rfl⟩
  · simp [step, respond, hawaiting, h, await, hstart]
  · simp
  · simp [Coordination.setCall]

include hawaiting in
/-- With an exception, the request ends with it. -/
theorem respond_error {o : PortOutcome} {e : Exc}
    (h : completion (requests r).command keyHash o = .error e) :
    s.step requests (.respond r o) = some (s.setPhase r (.finished (.error e))) := by
  simp [step, respond, hawaiting, h]

include hreach hawaiting in
/-- On an exchange the adapter handles, the request calls `complete` with what the exchange says. -/
theorem respond_mapped {acceptsStr : PyStr → Bool}
    (hadmitted : Admitted acceptsStr (requests r).command) {x : Exchange} (hx : x.Mapped) :
    ∃ s' a, settlement (requests r).command.transactionId keyHash (authorize x) = .ok a ∧
      s.step requests (.respond r (authorize x)) = some s' ∧
      s'.phase r = .completing a.envelope ∧
      s'.calls.call (.complete r) = .complete a .updateTransaction ∧
      Classified a (∃ n c, x.AuthorizedBy n c) (∃ d, x.DeclinedBy d) x.RateLimited x.Rejected := by
  have hmeaning := meaning x
  have hregular : (authorize x).isRegular = true := hmeaning.regular_iff.mpr hx
  rcases settlement_regular hregular hmeaning.waitPrints (requests r).command.transactionId keyHash
    with ⟨a, ha⟩
  have hcompletion : completion (requests r).command keyHash (authorize x) = .ok a := by
    rw [completion_eq hadmitted.transactionId_nonblank]
    exact ha
  rcases respond_ok hreach hawaiting hcompletion with ⟨s', hstep, hphase, hcall, _⟩
  have hclass := classified_of_settlement ha
  simp only [hmeaning.authorized_iff, hmeaning.declined_iff, hmeaning.rateLimited_iff,
    hmeaning.rejected_iff] at hclass
  exact ⟨s', a, ha, hstep, hphase, hcall, hclass⟩

include hreach hawaiting in
/-- On every other exchange the request ends with an exception, and its rows stay as they were
reserved. -/
theorem respond_unmapped {acceptsStr : PyStr → Bool}
    (hadmitted : Admitted acceptsStr (requests r).command) {x : Exchange} (hx : ¬ x.Mapped) :
    ∃ s' e, s.step requests (.respond r (authorize x)) = some s' ∧
      s'.phase r = .finished (.error (.foreign e)) ∧ s'.calls.call (.complete r) = .idle ∧
      ∃ row record, s'.tables (.record keyHash) = some record ∧
        record.processingStatus = py "IN_PROGRESS" ∧
        s'.tables (.transaction record.transactionId) = some row ∧ row.status = py "CREATED" := by
  have hphase := (callsInv_of_reachable hreach r).phase
  rw [hawaiting] at hphase
  rcases hphase with ⟨hidle, reserved, hacquired, rfl⟩
  rcases hacquired.rows_fresh hreach (unsettled_of_idle hidle) with
    ⟨_, row, record, _, hrow, hrecord, hrowT, hrecordT⟩
  have hfresh : ∃ row record, s.tables (.record reserved.keyHash) = some record ∧
      record.processingStatus = py "IN_PROGRESS" ∧
      s.tables (.transaction record.transactionId) = some row ∧ row.status = py "CREATED" := by
    refine ⟨row, record, hrecordT, (recordInsert_fields hrecord).2.2.2.1, ?_,
      (transactionInsert_fields hrow).2.2.2.2.1⟩
    rw [recordInsert_transactionId hrow hrecord]
    exact hrowT
  -- the exception leaves before `complete` is called
  have hends : ∀ e, authorize x = .escaped (.foreign e) →
      s.step requests (.respond r (authorize x)) =
        some (s.setPhase r (.finished (.error (.foreign e)))) := by
    intro e ho
    rw [ho]
    exact respond_error hawaiting (completion_eq hadmitted.transactionId_nonblank _ _)
  rcases (meaning x).escaped hx with ⟨e, ho⟩
  exact ⟨_, e, hends e ho, by simp, hidle, hfresh⟩

/-! ## Main results -/

include hreach hawaiting in
/-- For every acquired request and every exchange the adapter handles, the request goes on to
`complete`, and what it hands over and answers is `AUTHORIZED`/201, `DECLINED`/201, `FAILED`/503 or
`FAILED`/502 exactly on the exchanges that say so, with the stripped values stored and returned, and
`PENDING_RECONCILIATION`/202 on all others. -/
theorem exchange_decides_answer {acceptsStr : PyStr → Bool}
    (hadmitted : Admitted acceptsStr (requests r).command) {x : Exchange} (hx : x.Mapped) :
    ∃ s' a, s.step requests (.respond r (authorize x)) = some s' ∧
      s'.phase r = .completing a.envelope ∧
      s'.calls.call (.complete r) = .complete a .updateTransaction ∧
      a.transaction.transactionId = (requests r).command.transactionId ∧
      (AnswersWith a .authorized none 201 ↔ ∃ n c, x.AuthorizedBy n c) ∧
      (∀ n c, x.AuthorizedBy n c →
        a.networkReference = some n ∧ a.authorizationCode = some c ∧
        (httpAnswer a.envelope).body.member (py "network_reference") = some (.str n) ∧
        (httpAnswer a.envelope).body.member (py "authorization_code") = some (.str c)) ∧
      (AnswersWith a .declined none 201 ↔ ∃ d, x.DeclinedBy d) ∧
      (∀ d, x.DeclinedBy d → a.declineCode = some d ∧
        (httpAnswer a.envelope).body.member (py "decline_code") = some (.str d)) ∧
      (AnswersWith a .failed none 503 ↔ x.RateLimited) ∧
      (AnswersWith a .failed none 502 ↔ x.Rejected) ∧
      (AnswersWith a .pendingReconciliation (some .authorization) 202 ↔ x.Unknown) := by
  have hmeaning := meaning x
  rcases respond_mapped hreach hawaiting hadmitted hx with
    ⟨s', a, ha, hstep, hphase, hcall, hclass⟩
  refine ⟨s', a, hstep, hphase, hcall, (settlement_ok ha).2.1, hclass.authorized_iff, ?_,
    hclass.declined_iff, ?_, hclass.rateLimited_iff, hclass.rejected_iff, hclass.pending_iff⟩
  · intro n c hby
    rw [(hmeaning.authorized_iff n c).mpr hby] at ha
    exact authorized_values ha
  · intro d hby
    rw [(hmeaning.declined_iff d).mpr hby] at ha
    exact declined_values ha

include hreach hawaiting in
/-- An acquired request goes on to `complete`, with `PENDING_RECONCILIATION` whenever the outcome is
unknown, exactly on the exchanges the adapter handles.  On any other one it ends with the exception,
and its transaction stays `CREATED` and its record `IN_PROGRESS`. -/
theorem exchange_reaches_complete_iff {acceptsStr : PyStr → Bool}
    (hadmitted : Admitted acceptsStr (requests r).command) (x : Exchange) :
    ((∃ s' a, s.step requests (.respond r (authorize x)) = some s' ∧
      s'.phase r = .completing a.envelope ∧
      s'.calls.call (.complete r) = .complete a .updateTransaction ∧
      (x.Unknown → AnswersWith a .pendingReconciliation (some .authorization) 202)) ↔ x.Mapped) ∧
    (¬ x.Mapped → ∃ s' e, s.step requests (.respond r (authorize x)) = some s' ∧
      s'.phase r = .finished (.error (.foreign e)) ∧ s'.calls.call (.complete r) = .idle ∧
      ∃ row record, s'.tables (.record keyHash) = some record ∧
        record.processingStatus = py "IN_PROGRESS" ∧
        s'.tables (.transaction record.transactionId) = some row ∧ row.status = py "CREATED") := by
  refine ⟨⟨?_, ?_⟩, respond_unmapped hreach hawaiting hadmitted⟩
  · rintro ⟨s', a, hstep, hphase, _, _⟩
    by_contra hx
    rcases respond_unmapped hreach hawaiting hadmitted hx with ⟨s'', e, hstep', hphase', _⟩
    cases hstep.symm.trans hstep'
    cases hphase.symm.trans hphase'
  · intro hx
    rcases respond_mapped hreach hawaiting hadmitted hx with
      ⟨s', a, _, hstep, hphase, hcall, hclass⟩
    exact ⟨s', a, hstep, hphase, hcall, fun hunknown => hclass.pending_iff.mpr hunknown⟩

end Respond

/-! ## The sample request -/

theorem withToken_admitted {token : PyStr} (h : validatePaymentToken (.str token) = .ok token) :
    Admitted (fun _ => true) (withToken token).command := by
  let members : Dict Json :=
    [(py "transaction_id", .str (py "txn_1")), (py "merchant_id", .str (py "m_1")),
      (py "payment_token", .str token), (py "amount", .int 100), (py "currency", .str (py "USD"))]
  have htoken : field "payment_token" (beforeStr (fun _ => true) validatePaymentToken) members =
      .ok token := by
    have hmember : Dict.get members (py "payment_token") = some (.str token) := rfl
    simp [field, hmember, beforeStr, h, strType]
  refine ⟨.obj members, ⟨py "txn_1", py "m_1", token, 100, py "USD"⟩, ?_, rfl⟩
  simp only [CreateTransactionRequest.validate, htoken]
  rfl

theorem sample_admitted : Admitted (fun _ => true) sampleRequest.command :=
  withToken_admitted rfl

theorem sampleRun_awaiting :
    ∃ s keyHash, exec (Requests.step fun _ => sampleRequest) (init emptyTables) sampleRun = some s ∧
      s.phase 0 = .awaiting keyHash := by
  have hany : (exec (Requests.step fun _ => sampleRequest) (init emptyTables) sampleRun).any
      (fun s => (s.phase 0).isAwaiting) = true := by
    decide +kernel
  rcases (Option.any_eq_true _ _).mp hany with ⟨s, hrun, hphase⟩
  rcases Phase.eq_awaiting hphase with ⟨keyHash, hawaiting⟩
  exact ⟨s, keyHash, hrun, hawaiting⟩

/-- A provider that answers HTTP 200 with a decline in padded text. -/
theorem exchange_decides_answer_decline :
    let x : Exchange := .response
      { statusCode := 200
        headers := []
        json := .ok (.obj [(py "outcome", .str (py "DECLINED")),
          (py "decline_code", .str (py " 05 "))]) }
    ∃ s s' a, Requests.step (fun _ => sampleRequest) s (.respond 0 (authorize x)) = some s' ∧
      s'.calls.call (.complete 0) = .complete a .updateTransaction ∧
      AnswersWith a .declined none 201 ∧ a.declineCode = some (py "05") := by
  intro x
  rcases sampleRun_awaiting with ⟨s, keyHash, hrun, hawaiting⟩
  have hmapped : x.Mapped := fun _ => by simp
  have hdeclined : x.DeclinedBy (py "05") :=
    ⟨_, _, py " 05 ", rfl, rfl, rfl, rfl, rfl, by decide, by decide⟩
  rcases exchange_decides_answer ⟨_, hrun⟩ hawaiting sample_admitted hmapped with
    ⟨s', a, hstep, _, hcall, _, _, _, hiff, hvalues, _⟩
  exact ⟨s, s', a, hstep, hcall, hiff.mpr ⟨_, hdeclined⟩, (hvalues _ hdeclined).1⟩

/-- A timeout of the provider is handled, and its outcome is unknown. -/
theorem exchange_reaches_complete_timeout :
    ∃ s s' a, Requests.step (fun _ => sampleRequest) s
        (.respond 0 (authorize (.raised .readTimeout))) = some s' ∧
      s'.calls.call (.complete 0) = .complete a .updateTransaction ∧
      AnswersWith a .pendingReconciliation (some .authorization) 202 := by
  rcases sampleRun_awaiting with ⟨s, keyHash, hrun, hawaiting⟩
  rcases (exchange_reaches_complete_iff ⟨_, hrun⟩ hawaiting sample_admitted
    (.raised .readTimeout)).1.mpr rfl with ⟨s', a, hstep, _, hcall, hpending⟩
  refine ⟨s, s', a, hstep, hcall, hpending ?_⟩
  rintro (⟨n, c, r, data, s, t, heq, _⟩ | ⟨d, r, data, s, heq, _⟩ | ⟨r, heq, _⟩ | ⟨r, heq, _⟩) <;>
    cases heq

/-- An undecodable `Content-Encoding` is no transport error: `DecodingError` leaves the request, the
transaction stays `CREATED` and the record `IN_PROGRESS`. -/
theorem decodingError_strands :
    ∃ s s' keyHash row record,
      exec (Requests.step fun _ => sampleRequest) (init emptyTables) sampleRun = some s ∧
      s.phase 0 = .awaiting keyHash ∧
      s.step (fun _ => sampleRequest) (.respond 0 (authorize (.raised .decodingError))) = some s' ∧
      (¬ ∃ envelope, s'.phase 0 = .completing envelope) ∧
      s'.calls.call (.complete 0) = .idle ∧ (∃ e, s'.phase 0 = .finished (.error e)) ∧
      s'.tables (.record keyHash) = some record ∧
      record.processingStatus = py "IN_PROGRESS" ∧
      s'.tables (.transaction record.transactionId) = some row ∧ row.status = py "CREATED" := by
  rcases sampleRun_awaiting with ⟨s, keyHash, hrun, hawaiting⟩
  have hunmapped : ¬ Exchange.Mapped (.raised .decodingError) := by
    simp [Exchange.Mapped, HttpxError.isTransportError]
  rcases respond_unmapped ⟨_, hrun⟩ hawaiting sample_admitted hunmapped with
    ⟨s', e, hstep, hphase, hidle, row, record, hrecord, hprogress, hrow, hcreated⟩
  refine ⟨s, s', keyHash, row, record, hrun, hawaiting, hstep, ?_, hidle, ⟨_, hphase⟩, hrecord,
    hprogress, hrow, hcreated⟩
  rintro ⟨envelope, hcompleting⟩
  cases hphase.symm.trans hcompleting

end Requests

end System
end TransactionPlatform
