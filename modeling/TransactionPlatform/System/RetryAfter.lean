import TransactionPlatform.Adapters.RetryAfter
import TransactionPlatform.System.Replay
import TransactionPlatform.System.Services

/-!
# RetryAfter — the waiting time from the provider to the client

A 429 answer ends its request with a problem whose only header is `Retry-After`.  Its value is fixed
when the port answers: the arguments of a call never change, so what the request returns, what its
record stores and what later requests with the same key are told is the same decimal text in every
run that follows.
-/

namespace TransactionPlatform
namespace System

open Text Domain Ports Common Application Adapters Api Infrastructure ReadCommitted Transition

/-! ## What a request has completed with -/

namespace Requests

variable {requests : Nat → Request}

/-- A call keeps its arguments over a whole run. -/
theorem call_kept {s s' : Requests} {c : CallId} {call : CoordinatorCall} {es : List Event}
    (h : (s.calls.call c).call = some call) (hrun : exec (Requests.step requests) s es = some s') :
    (s'.calls.call c).call = some call := by
  refine exec_invariant (I := fun m => (m.calls.call c).call = some call) ?_ h hrun
  intro m e m' hm hstep
  rcases step_calls hstep with hsame | ⟨ce, hce⟩
  · rw [hsame]
    exact hm
  · exact CallArguments.kept hce hm

section Answers

variable {T : Tables} {s : Requests} (hreach : Reachable (Requests.step requests) (init T) s)
  {r : Nat} {a : CompleteArgs} (hcall : (s.calls.call (.complete r)).call = some (.complete a))

include hreach hcall in
/-- A request that has called `complete` returns no other envelope than the one it has handed over. -/
theorem returned_of_completing {envelope : ResponseEnvelope}
    (hfinished : s.phase r = .finished (.ok envelope)) : envelope = a.envelope := by
  have hphase := (callsInv_of_reachable hreach r).phase
  rw [hfinished] at hphase
  cases hphase with
  | reservation a' reservation _ hreserve hanswer =>
      -- its reservation was acquired, so it was not answered from it
      rcases completing_of_call hreach hcall with ⟨_, _, ⟨_, reservation', hreserve', hstatus⟩, _⟩
      cases hreserve.symm.trans hreserve'
      simp [answerReservation, hstatus] at hanswer
  | completed a' _ hdone henvelope =>
      rw [hdone] at hcall
      cases hcall
      exact henvelope.symm

include hreach hcall in
/-- A completed record under its key is the one its `complete` has written. -/
theorem stored_of_completing {acceptsStr : PyStr → Bool}
    (hadmitted : Admitted acceptsStr (requests r).command) {record : IdempotencyRecord}
    (hrecord : s.tables (.record a.keyHash) = some record)
    (hcompleted : record.processingStatus = py "COMPLETED") :
    record.storedHeaders = persistedHeaders a.envelope.headers := by
  rcases completing_of_call hreach hcall with ⟨reserved, outcome, hacquired, hargs, _⟩
  have hkey : a.keyHash = reserved.keyHash := (settlement_ok (completion_ok hargs).2).1
  have hcalls := calls_reachable hreach
  rcases hacquired.logged hreach with ⟨time, hmem⟩
  rcases (Coordination.reservationsInv_of_reachable hcalls).rows _ hmem reserved rfl with
    ⟨row, fresh, _, heq, hrow, hfresh⟩
  cases heq
  cases (contents_of_reachable hreach).owned r reserved time row fresh hmem hrow hfresh with
  | fresh _ _ hrecordT =>
      -- not yet committed: the record is still the one that was reserved
      rw [recordInsert_keyHash hacquired.1 hfresh, ← hkey, hrecord] at hrecordT
      cases hrecordT
      rw [(recordInsert_fields hfresh).2.2.2.1] at hcompleted
      simp at hcompleted
  | completed a' now _ _ hlogged =>
      have hentry := ((Coordination.logInv_of_reachable hcalls).entry _ hlogged).1
      cases hcall.symm.trans hentry
      rcases records_of_logged hreach hadmitted hlogged with ⟨_, _, record', _, hrecords⟩
      cases hrecord.symm.trans hrecords.record_eq
      exact hrecords.headers

end Answers

/-- An answer that is a replay comes from the completed record of its key. -/
theorem replayed_record {T : Tables} (hT : SchemaOk T) {s : Requests}
    (hreach : Reachable (Requests.step requests) (init T) s) {r : Nat} {reserved : ReserveArgs}
    (hargs : (requests r).reserveArgs = .ok reserved) {envelope : ResponseEnvelope}
    (hfinished : s.phase r = .finished (.ok envelope)) (hreplay : envelope.isReplay = true) :
    ∃ record : IdempotencyRecord, s.tables (.record reserved.keyHash) = some record ∧
      record.processingStatus = py "COMPLETED" ∧ envelope = record.envelope := by
  have hphase := (callsInv_of_reachable hreach r).phase
  rw [hfinished] at hphase
  cases hphase with
  | reservation a reservation hargs' hcall hanswer =>
      cases hargs.symm.trans hargs'
      rcases completed_of_isReplay hanswer hreplay with ⟨hstatus, hstored⟩
      rcases Coordination.reserveResult_of_reachable hT (calls_reachable hreach) hcall hstatus with
        ⟨record, hrecord, _, hcompleted, henvelope⟩
      rw [hstored] at henvelope
      exact ⟨record, hrecord, hcompleted, Option.some.inj henvelope⟩
  | completed a hcompleting _ henvelope =>
      -- what a request has completed itself is no replay
      rcases hcompleting with ⟨_, outcome, _, hargs', _⟩
      rw [← henvelope, settlement_isReplay (completion_ok hargs').2] at hreplay
      cases hreplay

/-! ## Answers that ask to wait -/

/-- The headers of an answer that asks to come back in `n` seconds. -/
def waitHeaders (n : Int) : Headers :=
  [(py "Retry-After", textOfInt n)]

/-- Whatever is returned by a request, stored under its key and replayed from there asks to come back
in `n` seconds. -/
structure AsksToWait (requests : Nat → Request) (s : Requests) (r : Nat) (keyHash : PyStr) (n : Int) :
    Prop where
  returned : ∀ envelope, s.phase r = .finished (.ok envelope) →
    (httpAnswer envelope).statusCode = 503 ∧ (httpAnswer envelope).headers = waitHeaders n
  stored : ∀ record : IdempotencyRecord, s.tables (.record keyHash) = some record →
    record.processingStatus = py "COMPLETED" → record.storedHeaders = some (waitHeaders n)
  replayed : ∀ r' reserved envelope, (requests r').reserveArgs = .ok reserved →
    reserved.keyHash = keyHash → s.phase r' = .finished (.ok envelope) →
    envelope.isReplay = true →
    (httpAnswer envelope).headers = waitHeaders n ++ [(py "Idempotent-Replay", py "true")]

theorem asksToWait_of_completing {T : Tables} (hT : SchemaOk T) {s : Requests}
    (hreach : Reachable (Requests.step requests) (init T) s) {acceptsStr : PyStr → Bool} {r : Nat}
    (hadmitted : Admitted acceptsStr (requests r).command) {id keyHash : PyStr} {n : Int}
    {a : CompleteArgs} (ha : settlement id keyHash (.raised (.rateLimit n)) = .ok a)
    (hcall : (s.calls.call (.complete r)).call = some (.complete a)) :
    AsksToWait requests s r keyHash n := by
  have hkey : a.keyHash = keyHash := (settlement_ok ha).1
  have henvelope : a.envelope = rateLimitedProblem n := by
    rcases settlement_rateLimit ha with ⟨_, rfl⟩
    rfl
  have hstored : ∀ record : IdempotencyRecord, s.tables (.record keyHash) = some record →
      record.processingStatus = py "COMPLETED" → record.storedHeaders = some (waitHeaders n) := by
    intro record hrecord hcompleted
    rw [← hkey] at hrecord
    rw [stored_of_completing hreach hcall hadmitted hrecord hcompleted, henvelope]
    exact persistedHeaders_retryAfter _
  refine ⟨?_, hstored, ?_⟩
  · intro envelope hfinished
    rw [returned_of_completing hreach hcall hfinished, henvelope]
    exact ⟨rfl, rfl⟩
  · -- a replay reads the stored headers and adds its own to them
    rintro r' reserved envelope hargs rfl hfinished hreplay
    rcases replayed_record hT hreach hargs hfinished hreplay with
      ⟨record, hrecord, hcompleted, hreplayed⟩
    have hheaders : envelope.headers = waitHeaders n := by
      rw [hreplayed, IdempotencyRecord.envelope, hstored record hrecord hcompleted]
      rfl
    have hname : py "Retry-After" ≠ py "Idempotent-Replay" := by simp
    rw [httpAnswer, hreplay, hheaders]
    simp [waitHeaders, Dict.set]

/-- The adapter turns every 429 answer into the waiting time of its header. -/
theorem authorize_rateLimited {response : Response} (hstatus : response.statusCode = 429) :
    authorize (.response response) =
      .raised (.rateLimit (defaultRetryAfter (headerGet response.headers (py "Retry-After")))) := by
  simp [authorize, handleResponse, hstatus, defaultRetryAfter]

/-- The waiting time a client is told, for every header.

* Between any bounds with the default between them, `parse_retry_after` stays between the bounds.
* The header follows the rules of the default bounds if and only if it is not a numeral of more than
  4300 digits that denotes more than the default.
* Whatever it is, a 429 answer with this header leads to one number between 1 and 60 that everything
  returned, stored and replayed asks to wait, in every run from there on; and in every run without a
  fault of the request's own `complete`, the answer is at most three statements from being stored,
  and is returned. -/
theorem retryAfter_sanitized (headerValue : Option PyStr) :
    (∀ default minValue maxValue : Int, minValue ≤ default → default ≤ maxValue →
      minValue ≤ parseRetryAfter headerValue default minValue maxValue ∧
        parseRetryAfter headerValue default minValue maxValue ≤ maxValue) ∧
    (FollowsRules headerValue ↔ ¬ ExceedsDigits headerValue) ∧
    ∀ (requests : Nat → Request) (acceptsStr : PyStr → Bool) (T : Tables) (s : Requests) (r : Nat)
      (keyHash : PyStr) (response : Response), SchemaOk T →
      Admitted acceptsStr (requests r).command → Reachable (Requests.step requests) (init T) s →
      s.phase r = .awaiting keyHash → response.statusCode = 429 →
      headerGet response.headers (py "Retry-After") = headerValue →
      ∃ n s₁, 1 ≤ n ∧ n ≤ 60 ∧ n = defaultRetryAfter headerValue ∧
        s.step requests (.respond r (authorize (.response response))) = some s₁ ∧
        ∀ es s₂, exec (Requests.step requests) s₁ es = some s₂ →
          AsksToWait requests s₂ r keyHash n ∧
          ((∀ e ∈ es, Spares r e) → ∀ now, ∃ k s₃, k ≤ 3 ∧
            exec (Requests.step requests) s₂
              (List.replicate k (.database (.step (.complete r) now))) = some s₃ ∧
            EndedIn s₃.tables (requests r).command.transactionId keyHash (.failed, 503) ∧
            ∀ envelope, s₃.phase r = .completing envelope →
              ∃ s₄, s₃.step requests (.finish r) = some s₄ ∧
                s₄.phase r = .finished (.ok envelope)) := by
  refine ⟨fun _ _ _ hmin hmax => parseRetryAfter_bounds headerValue hmin hmax,
    followsRules_iff headerValue, ?_⟩
  intro requests acceptsStr T s r keyHash response hT hadmitted hreach hawaiting hstatus hheader
  subst hheader
  let n := defaultRetryAfter (headerGet response.headers (py "Retry-After"))
  have hbounds : 1 ≤ n ∧ n ≤ 60 := parseRetryAfter_bounds _ (by decide) (by decide)
  have houtcome : authorize (.response response) = .raised (.rateLimit n) :=
    authorize_rateLimited hstatus
  have hprints : printable n = true := printable_of_lt (by omega)
  have hsettled : settlement (requests r).command.transactionId keyHash (.raised (.rateLimit n)) =
      .ok (settled (requests r).command.transactionId keyHash .failed none (rateLimitedProblem n)
        none none none) := if_pos hprints
  rcases storable_completes hT hreach hadmitted hawaiting (o := .raised (.rateLimit n)) trivial rfl
    hsettled with ⟨s₁, hrespond, _, hcall, hruns⟩
  have hreach₁ := hreach.next hrespond
  refine ⟨n, s₁, hbounds.1, hbounds.2, rfl, houtcome ▸ hrespond, ?_⟩
  intro es s₂ hes
  have hreach₂ : Reachable (Requests.step requests) (init T) s₂ := hreach₁.trans ⟨es, hes⟩
  -- the call keeps its arguments, so it is the same number in every later state
  refine ⟨asksToWait_of_completing hT hreach₂ hadmitted hsettled
    (call_kept (by rw [hcall]; rfl) hes), ?_⟩
  intro hspares now
  rcases hruns es s₂ hes hspares now with ⟨k, s₃, hk, hrun, hdone⟩
  have hreach₃ : Reachable (Requests.step requests) (init T) s₃ := hreach₂.trans ⟨_, hrun⟩
  refine ⟨k, s₃, hk, hrun, endedIn_of_done hreach₃ hadmitted hsettled hdone, ?_⟩
  intro envelope hphase
  exact (finishes_of_done hreach₃ hdone hphase).2

/-- A provider that asks the sample request to wait for two minutes. -/
theorem retryAfter_sanitized_twoMinutes :
    let response : Response :=
      { statusCode := 429
        headers := [(py "retry-after", py " 0120 ")]
        json := .error .jsonDecodeError }
    ∃ s s₁ s₃ : Requests, ∃ keyHash, s.phase 0 = .awaiting keyHash ∧
      s.step (fun _ => sampleRequest) (.respond 0 (authorize (.response response))) = some s₁ ∧
      Reachable (Requests.step fun _ => sampleRequest) s₁ s₃ ∧
      AsksToWait (fun _ => sampleRequest) s₃ 0 keyHash 60 ∧
      EndedIn s₃.tables (py "txn_1") keyHash (.failed, 503) := by
  intro response
  rcases sampleRun_awaiting with ⟨s, keyHash, hrun, hawaiting⟩
  rcases (retryAfter_sanitized (some (py " 0120 "))).2.2 _ _ emptyTables s 0 keyHash response
    schemaOk_empty sample_admitted ⟨_, hrun⟩ hawaiting rfl (by decide) with
    ⟨n, s₁, _, _, hn, hrespond, hruns⟩
  have hsixty : n = 60 := hn.trans (by decide)
  subst hsixty
  rcases (hruns [] s₁ rfl).2 (by simp) 9 with ⟨k, s₃, _, hown, hended, _⟩
  exact ⟨s, s₁, s₃, keyHash, hawaiting, hrespond, ⟨_, hown⟩, (hruns _ s₃ hown).1, hended⟩

end Requests

end System
end TransactionPlatform
