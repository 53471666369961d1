import TransactionPlatform.System.Endpoint

/-!
# Answers — the responses that are documented

The route in `src/transaction_platform/api/app.py` documents its status codes.  Every answer that
leaves the endpoint has one of them, and the form and the headers that go with it.
-/

namespace TransactionPlatform
namespace System

open Text Domain Ports Common Application Adapters Api Infrastructure ReadCommitted Transition

namespace Endpoint

/-- The codes in `responses=` of the route. -/
def documentedCodes : List Int :=
  [201, 202, 400, 409, 422, 500, 502, 503]

/-- What a client can rely on, whatever it has sent. -/
structure Documented (http : HttpRequest) (answer : HttpAnswer) : Prop where
  code : answer.statusCode ∈ documentedCodes
  json : answer.statusCode < 400 → answer.mediaType = some jsonMediaType
  problem : 400 ≤ answer.statusCode → (answer.mediaType = some Common.problemMediaType ∧
      answer.body.member (py "status") = some (.int answer.statusCode)) ∨
    answer = internalServerError ∨ answer = correlationIdMiddleware http bodyParsingError
  correlation : answer = internalServerError ∨
    Dict.get answer.headers (py "X-Correlation-ID") = requireCorrelationId http.xCorrelationId
  waits : answer.statusCode = 503 → ∃ seconds : Int, 1 ≤ seconds ∧ seconds ≤ 60 ∧
    Dict.get answer.headers (py "Retry-After") = some (textOfInt seconds)
  retryAfter : Dict.get answer.headers (py "Retry-After") ≠ none →
    answer.statusCode = 503 ∨ answer.statusCode = 409
  replay : Dict.get answer.headers (py "Idempotent-Replay") = none ∨
    Dict.get answer.headers (py "Idempotent-Replay") = some (py "true") ∧
      finalCode answer.statusCode = true

/-- The same for an answer on its way to the middleware. -/
structure Prepared (answer : HttpAnswer) : Prop where
  code : answer.statusCode ∈ documentedCodes
  json : answer.statusCode < 400 → answer.mediaType = some jsonMediaType
  problem : 400 ≤ answer.statusCode → (answer.mediaType = some Common.problemMediaType ∧
      answer.body.member (py "status") = some (.int answer.statusCode)) ∨ answer = bodyParsingError
  correlation : Dict.get answer.headers (py "X-Correlation-ID") = none
  waits : answer.statusCode = 503 → ∃ seconds : Int, 1 ≤ seconds ∧ seconds ≤ 60 ∧
    Dict.get answer.headers (py "Retry-After") = some (textOfInt seconds)
  retryAfter : Dict.get answer.headers (py "Retry-After") ≠ none →
    answer.statusCode = 503 ∨ answer.statusCode = 409
  replay : Dict.get answer.headers (py "Idempotent-Replay") = none ∨
    Dict.get answer.headers (py "Idempotent-Replay") = some (py "true") ∧
      finalCode answer.statusCode = true

/-- The middleware adds one header, or nothing. -/
theorem documented_middleware {answer : HttpAnswer} (h : Prepared answer) (http : HttpRequest) :
    Documented http (correlationIdMiddleware http answer) := by
  cases hcid : requireCorrelationId http.xCorrelationId with
  | none =>
      have heq : ∀ answer : HttpAnswer, correlationIdMiddleware http answer = answer := by
        intro answer
        simp [correlationIdMiddleware, hcid]
      rw [heq]
      refine ⟨h.code, h.json, ?_, .inr ?_, h.waits, h.retryAfter, h.replay⟩
      · intro hcode
        rw [heq]
        rcases h.problem hcode with hproblem | rfl
        · exact .inl hproblem
        · exact .inr (.inr rfl)
      · rw [hcid]
        exact h.correlation
  | some correlationId =>
      have heq : ∀ answer : HttpAnswer, correlationIdMiddleware http answer =
          { answer with headers := Dict.set answer.headers (py "X-Correlation-ID") correlationId } := by
        intro answer
        simp [correlationIdMiddleware, hcid]
      have hother : ∀ name : String, name ≠ "X-Correlation-ID" →
          Dict.get (Dict.set answer.headers (py "X-Correlation-ID") correlationId) (py name) =
            Dict.get answer.headers (py name) := by
        intro name hne
        exact Dict.get_set_of_ne _ (by simpa using hne) _
      rw [heq]
      refine ⟨h.code, h.json, ?_, .inr ?_, ?_, ?_, ?_⟩
      · intro hcode
        rw [heq]
        rcases h.problem hcode with hproblem | rfl
        · exact .inl hproblem
        · exact .inr (.inr rfl)
      · rw [hcid]
        exact Dict.get_set_self _ _ _
      · intro hcode
        dsimp only
        rw [hother "Retry-After" (by decide)]
        exact h.waits hcode
      · dsimp only
        rw [hother "Retry-After" (by decide)]
        exact h.retryAfter
      · dsimp only
        rw [hother "Idempotent-Replay" (by decide)]
        exact h.replay

/-- An answer without headers that is no 503. -/
theorem prepared_plain {answer : HttpAnswer} (hheaders : answer.headers = [])
    (hcode : answer.statusCode ∈ documentedCodes) (hlimited : answer.statusCode ≠ 503)
    (hjson : answer.statusCode < 400 → answer.mediaType = some jsonMediaType)
    (hproblem : 400 ≤ answer.statusCode → (answer.mediaType = some Common.problemMediaType ∧
      answer.body.member (py "status") = some (.int answer.statusCode)) ∨
        answer = bodyParsingError) : Prepared answer where
  code := hcode
  json := hjson
  problem := hproblem
  correlation := by
    rw [hheaders]
    rfl
  waits h := absurd h hlimited
  retryAfter h := by
    rw [hheaders] at h
    exact absurd rfl h
  replay := by
    rw [hheaders]
    exact .inl rfl

theorem prepared_refusal {answer : HttpAnswer} (h : Refusal answer) : Prepared answer := by
  cases h with
  | malformed answer hcode hheaders hproblem | validation answer hcode hheaders hproblem =>
      refine prepared_plain hheaders ?_ ?_ ?_ ?_
      · simp [hcode, documentedCodes]
      · simp [hcode]
      · simp [hcode]
      · exact fun _ => .inl ⟨hproblem.1, hproblem.2.2⟩
  | unreadable =>
      refine prepared_plain rfl ?_ ?_ ?_ (fun _ => .inr rfl)
      · simp [bodyParsingError, documentedCodes]
      · simp [bodyParsingError]
      · simp [bodyParsingError]
  | correlationId | idempotencyKey =>
      exact prepared_plain rfl (by decide) (by decide) (fun h => absurd h (by decide))
        (fun _ => .inl ⟨rfl, rfl⟩)

theorem prepared_conflict {envelope : ResponseEnvelope} (h : Conflict envelope) :
    Prepared (httpAnswer envelope) := by
  cases h with
  | payload | transactionId =>
      exact prepared_plain rfl (by decide) (by decide) (fun h => absurd h (by decide))
        (fun _ => .inl ⟨rfl, rfl⟩)
  | inProgress =>
      exact
        { code := by decide
          json := fun h => absurd h (by decide)
          problem := fun _ => .inl ⟨rfl, rfl⟩
          correlation := rfl
          waits := fun h => absurd h (by decide)
          retryAfter := fun _ => .inr rfl
          replay := .inl rfl }

section Settled

variable {acceptsStr : PyStr → Bool} {inputs : Nat → HttpRequest} {d : Deployment} {p p₀ : Parameters}
  {envelope : ResponseEnvelope} {r₀ : Nat} {a a₀ : ReserveArgs} {row : TransactionRow}
  {record : IdempotencyRecord}

/-- A stored answer has one of four codes, and repeats it if it is a problem. -/
theorem Settled.code_cases (h : Settled acceptsStr inputs d p envelope r₀ p₀ a a₀ row record) :
    envelope.statusCode = 201 ∨ envelope.statusCode = 202 ∨
      (envelope.statusCode = 502 ∨ envelope.statusCode = 503) ∧
        envelope.body.member (py "status") = some (.int envelope.statusCode) := by
  have hsame : ∀ {code : Int}, record.storedStatusCode = some code → envelope.statusCode = code :=
    fun hcode => Option.some.inj (h.stored.code.symm.trans hcode)
  cases h.agrees.2 with
  | authorized _ _ _ _ _ _ _ _ hcode | declined _ _ _ _ _ _ _ hcode =>
      exact .inl (hsame hcode)
  | pending _ _ _ hcode =>
      exact .inr (.inl (hsame hcode))
  | failed code body _ _ hcodes hcode hbody hstatus =>
      have hbodies : envelope.body = body := Option.some.inj (h.stored.body.symm.trans hbody)
      rw [hsame hcode, hbodies]
      exact .inr (.inr ⟨hcodes, hstatus⟩)

theorem Settled.finalCode (h : Settled acceptsStr inputs d p envelope r₀ p₀ a a₀ row record) :
    finalCode envelope.statusCode = true := by
  rcases h.code_cases with hcode | hcode | ⟨hcode | hcode, _⟩ <;> rw [hcode] <;> rfl

theorem Settled.mediaType (h : Settled acceptsStr inputs d p envelope r₀ p₀ a a₀ row record) :
    envelope.mediaType = some (if envelope.statusCode ≥ 400 then Common.problemMediaType
      else jsonMediaType) := by
  have hcode : record.envelope.statusCode = envelope.statusCode := by rw [h.stored.replay]
  have hmedia : record.envelope.mediaType = envelope.mediaType := by rw [h.stored.replay]
  rw [← hmedia, ← hcode]
  rfl

/-- The header of a replay and the waiting time do not disturb each other. -/
theorem prepared_settled (h : Settled acceptsStr inputs d p envelope r₀ p₀ a a₀ row record) :
    Prepared (httpAnswer envelope) := by
  have hget : ∀ name : String, name ≠ "Idempotent-Replay" →
      Dict.get (httpAnswer envelope).headers (py name) = Dict.get envelope.headers (py name) := by
    intro name hne
    simp only [httpAnswer]
    split
    · exact Dict.get_set_of_ne _ (by simpa using hne) _
    · rfl
  have hnone : ∀ name : String, name ≠ "Retry-After" → Dict.get envelope.headers (py name) = none := by
    intro name hne
    rcases h.headers with ⟨_, n, _, _, hheaders⟩ | ⟨_, hheaders⟩
    · rw [hheaders, Dict.get_cons, if_neg (by simpa using hne)]
      rfl
    · rw [hheaders]
      rfl
  refine ⟨?_, ?_, ?_, ?_, ?_, ?_, ?_⟩
  · have hmem : envelope.statusCode ∈ documentedCodes := by
      rcases h.code_cases with hcode | hcode | ⟨hcode | hcode, _⟩ <;> simp [hcode, documentedCodes]
    exact hmem
  · intro hcode
    have hlow : ¬ envelope.statusCode ≥ 400 := not_le.mpr hcode
    have hmedia := h.mediaType
    rw [if_neg hlow] at hmedia
    exact hmedia
  · intro hcode
    have hhigh : envelope.statusCode ≥ 400 := hcode
    have hmedia := h.mediaType
    rw [if_pos hhigh] at hmedia
    rcases h.code_cases with hlow | hlow | ⟨_, hstatus⟩
    · omega
    · omega
    · exact .inl ⟨hmedia, hstatus⟩
  · rw [hget "X-Correlation-ID" (by decide)]
    exact hnone _ (by decide)
  · intro hcode
    rw [hget "Retry-After" (by decide)]
    rcases h.headers with ⟨_, n, hmin, hmax, hheaders⟩ | ⟨hother, _⟩
    · exact ⟨n, hmin, hmax, by rw [hheaders, Dict.get_cons, if_pos rfl]⟩
    · exact absurd hcode hother
  · rw [hget "Retry-After" (by decide)]
    intro hsome
    rcases h.headers with ⟨hlimited, _⟩ | ⟨_, hheaders⟩
    · exact .inl hlimited
    · rw [hheaders] at hsome
      exact absurd rfl hsome
  · by_cases hreplay : envelope.isReplay = true
    · refine .inr ⟨?_, h.finalCode⟩
      simp only [httpAnswer, hreplay, if_true]
      exact Dict.get_set_self _ _ _
    · refine .inl ?_
      simp only [httpAnswer, hreplay]
      exact hnone _ (by decide)

end Settled

theorem documented_internal (http : HttpRequest) : Documented http internalServerError where
  code := by decide
  json h := absurd h (by decide)
  problem _ := .inr (.inl rfl)
  correlation := .inl rfl
  waits h := absurd h (by decide)
  retryAfter h := absurd rfl h
  replay := .inl rfl

theorem documented_of_told {acceptsStr : PyStr → Bool} {msg : FieldError → PyStr}
    {inputs : Nat → HttpRequest} {d : Deployment} {r : Nat} {answer : HttpAnswer}
    (h : Told acceptsStr msg inputs d r answer) : Documented (inputs r) answer := by
  cases h with
  | refused answer hrefused =>
      exact documented_middleware (prepared_refusal (resolve_error hrefused)) _
  | conflict p envelope _ hconflict =>
      exact documented_middleware (prepared_conflict hconflict) _
  | settled p envelope r₀ p₀ a a₀ row record _ hsettled =>
      exact documented_middleware (prepared_settled hsettled) _
  | failed p _ =>
      refine documented_middleware (prepared_plain rfl (by decide) (by decide) ?_ ?_) _
      · exact fun h => absurd h (by decide)
      · exact fun _ => .inl ⟨rfl, rfl⟩
  | raised p _ =>
      exact documented_internal _

/-- Whatever the clients send and whatever goes wrong behind the endpoint, every answer has a
documented code; below 400 it is JSON, from 400 on a problem document that repeats its code, but for
the two answers the framework makes by itself; it reflects the correlation id exactly where the request
has a valid one; a 503 says how many seconds to wait, from 1 to 60, and only a 503 or a 409 says so; and only a stored
answer is marked as a replay. -/
theorem answers_documented (acceptsStr : PyStr → Bool) (msg : FieldError → PyStr)
    (inputs : Nat → HttpRequest) (es : List EndpointEvent) {s : Endpoint}
    (hrun : exec (Endpoint.step acceptsStr msg inputs) init es = some s) :
    ∀ p ∈ s.answers, Documented (inputs p.1) p.2 := by
  intro p hp
  exact documented_of_told (told_of_run hrun hp)

theorem answers_documented_sample :
    ∃ s, exec (Endpoint.step (fun _ => true) (fun _ => []) sampleInputs) init
        sampleExchange = some s ∧
      s.answers ≠ [] ∧ ∀ p ∈ s.answers, Documented (sampleInputs p.1) p.2 := by
  have hany : (exec (Endpoint.step (fun _ => true) (fun _ => []) sampleInputs) init
      sampleExchange).any (fun s => !s.answers.isEmpty) = true := by
    decide +kernel
  rcases (Option.any_eq_true _ _).mp hany with ⟨s, hrun, hanswers⟩
  exact ⟨s, hrun, by simpa using hanswers, answers_documented _ _ _ _ hrun⟩

end Endpoint

end System
end TransactionPlatform
