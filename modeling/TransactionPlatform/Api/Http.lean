import TransactionPlatform.Api.Validation

/-!
# Http — from the bytes of a request to `create_transaction`, and back

What happens to a POST on both sides of the endpoint in `src/transaction_platform/api/app.py`.  FastAPI
reads the body first, then resolves the dependencies in the order of the parameters, and validates
the body last; the middleware reflects the correlation id on every response a handler has made.
-/

namespace TransactionPlatform
namespace Api

open Text Ports Common Application

/-! ## Requests -/

/-- What FastAPI has read of a body: the text may be no JSON from some position on, or fail to be
read in another way; without a JSON content type the bytes stay as they are. -/
inductive RequestBody
  | empty
  | invalidJson (position : Int)
  | unreadable
  | bytes
  | json (value : Json)

structure HttpRequest where
  xCorrelationId : Option PyStr
  idempotencyKey : Option PyStr
  body : RequestBody

/-- The parameters of `create_transaction`, apart from the orchestrator. -/
structure Parameters where
  request : CreateTransactionRequest
  correlationId : PyStr
  idempotencyKey : PyStr
  deriving DecidableEq, Repr

section Resolve

variable (acceptsStr : PyStr → Bool) (msg : FieldError → PyStr)

/-- An error about the body as a whole. -/
def wholeBody (e : FieldError) : ErrorDetails :=
  { type := some e.type
    loc := some [.key (py "body")]
    msg := some (msg e)
    input := .null }

/-- `JSONDecodeError` as the entry FastAPI makes of it. -/
def jsonInvalid (position : Int) : ErrorDetails :=
  { type := some (py "json_invalid")
    loc := some [.key (py "body"), .index position]
    msg := some (py "JSON decode error")
    input := .obj [] }

/-- The validation of the body; `null` counts as no body. -/
def validatedBody : RequestBody → Except (List ErrorDetails) CreateTransactionRequest
  | .empty => .error [wholeBody msg .missing]
  | .json .null => .error [wholeBody msg .missing]
  | .json value =>
      match CreateTransactionRequest.validate acceptsStr value with
      | .ok request => .ok request
      | .error errors => .error (errors.map (errorDetails msg value))
  | .invalidJson position => .error [jsonInvalid position]
  | .unreadable => .error [wholeBody msg .notAnObject]
  | .bytes => .error [wholeBody msg .notAnObject]

/-- The answer to a body that fails otherwise than with a `JSONDecodeError`. -/
def bodyParsingError : HttpAnswer :=
  { statusCode := 400
    body := .obj [(py "detail", .str (py "There was an error parsing the body"))]
    headers := []
    mediaType := some jsonMediaType }

/-- The parameters behind the headers of a request, or the answer of the handler. -/
def resolveHeaders (http : HttpRequest) : Except HttpAnswer Parameters :=
  match requireCorrelationId http.xCorrelationId with
  | none => .error (JsonResponse.httpAnswer missingCorrelationIdHandler)
  | some correlationId =>
      match requireIdempotencyKey http.idempotencyKey with
      | none => .error (JsonResponse.httpAnswer missingIdempotencyKeyHandler)
      | some idempotencyKey =>
          match validatedBody acceptsStr msg http.body with
          | .ok request => .ok ⟨request, correlationId, idempotencyKey⟩
          | .error errors =>
              .error (JsonResponse.httpAnswer
                (validationExceptionHandler (.requestValidationError errors)))

/-- The parameters of a request: a body that cannot be read is answered first. -/
def resolve (http : HttpRequest) : Except HttpAnswer Parameters :=
  match http.body with
  | .invalidJson position =>
      .error (JsonResponse.httpAnswer
        (validationExceptionHandler (.requestValidationError [jsonInvalid position])))
  | .unreadable => .error bodyParsingError
  | _ => resolveHeaders acceptsStr msg http

end Resolve

/-! ## Responses -/

/-- `correlation_id_middleware`. -/
def correlationIdMiddleware (http : HttpRequest) (answer : HttpAnswer) : HttpAnswer :=
  match requireCorrelationId http.xCorrelationId with
  | some correlationId =>
      { answer with headers := Dict.set answer.headers (py "X-Correlation-ID") correlationId }
  | none => answer

/-- The server's answer to an exception that no handler takes. -/
def internalServerError : HttpAnswer :=
  { statusCode := 500
    body := .str (py "Internal Server Error")
    headers := []
    mediaType := some (py "text/plain; charset=utf-8") }

/-- The response to a request; an exception without a handler passes the middleware by. -/
def respond (http : HttpRequest) : Except Exc HttpAnswer → HttpAnswer
  | .ok answer => correlationIdMiddleware http answer
  | .error _ => internalServerError

/-! ## What is let through -/

section

variable {acceptsStr : PyStr → Bool} {msg : FieldError → PyStr} {http : HttpRequest}

theorem validatedBody_ok {body : RequestBody} {request : CreateTransactionRequest}
    (h : validatedBody acceptsStr msg body = .ok request) :
    ∃ value, body = .json value ∧ CreateTransactionRequest.validate acceptsStr value = .ok request := by
  unfold validatedBody at h
  split at h
  · cases h
  · cases h
  · rename_i value _
    split at h
    · rename_i request' hvalidate
      cases h
      exact ⟨value, rfl, hvalidate⟩
    · cases h
  · cases h
  · cases h
  · cases h

/-- A request gets through with exactly these parameters. -/
structure Resolved (acceptsStr : PyStr → Bool) (http : HttpRequest) (p : Parameters) : Prop where
  body : ∃ value, http.body = .json value ∧
    CreateTransactionRequest.validate acceptsStr value = .ok p.request
  correlationId : requireCorrelationId http.xCorrelationId = some p.correlationId
  idempotencyKey : requireIdempotencyKey http.idempotencyKey = some p.idempotencyKey

theorem validate_null (acceptsStr : PyStr → Bool) (request : CreateTransactionRequest) :
    CreateTransactionRequest.validate acceptsStr .null ≠ .ok request := by
  intro h
  cases h

theorem resolve_ok_iff {p : Parameters} :
    resolve acceptsStr msg http = .ok p ↔ Resolved acceptsStr http p := by
  constructor
  · intro h
    have hheaders : resolveHeaders acceptsStr msg http = .ok p := by
      unfold resolve at h
      split at h
      · cases h
      · cases h
      · exact h
    unfold resolveHeaders at hheaders
    split at hheaders
    · cases hheaders
    · rename_i correlationId hcorrelation
      split at hheaders
      · cases hheaders
      · rename_i idempotencyKey hkey
        split at hheaders
        · rename_i request hbody
          cases hheaders
          exact ⟨validatedBody_ok hbody, hcorrelation, hkey⟩
        · cases hheaders
  · rintro ⟨⟨value, hbody, hvalidate⟩, hcorrelation, hkey⟩
    have hvalidated : validatedBody acceptsStr msg http.body = .ok p.request := by
      rw [hbody]
      cases value with
      | null =>
          exact absurd hvalidate (validate_null acceptsStr p.request)
      | _ =>
          simp only [validatedBody, hvalidate]
    have hheaders : resolveHeaders acceptsStr msg http = .ok p := by
      simp only [resolveHeaders, hcorrelation, hkey, hvalidated]
    unfold resolve
    rw [hbody]
    exact hheaders

/-! ## What is answered at the door -/

/-- A problem document: its media type, and a `status` member that repeats the code. -/
def IsProblem (problemType : PyStr) (answer : HttpAnswer) : Prop :=
  answer.mediaType = some Common.problemMediaType ∧
    answer.body.member (py "type") = some (.str problemType) ∧
    answer.body.member (py "status") = some (.int answer.statusCode)

theorem isProblem_build (statusCode : Int) (problemType title detail : String)
    (invalidParameters : Option (List InvalidParameter)) (headers : Dict PyStr) :
    IsProblem (py problemType) (JsonResponse.httpAnswer
      (buildProblemResponse statusCode problemType title detail invalidParameters headers)) :=
  ⟨rfl, rfl, rfl⟩

/-- The answers a request gets without having been let through. -/
inductive Refusal : HttpAnswer → Prop
  | malformed (answer : HttpAnswer) (hcode : answer.statusCode = 400) (hheaders : answer.headers = [])
      (hproblem : IsProblem (py "urn:problem-type:malformed-request") answer) : Refusal answer
  | unreadable : Refusal bodyParsingError
  | correlationId : Refusal (JsonResponse.httpAnswer missingCorrelationIdHandler)
  | idempotencyKey : Refusal (JsonResponse.httpAnswer missingIdempotencyKeyHandler)
  | validation (answer : HttpAnswer) (hcode : answer.statusCode = 422) (hheaders : answer.headers = [])
      (hproblem : IsProblem (py "urn:problem-type:validation-error") answer) : Refusal answer

theorem refusal_validation (errors : List ErrorDetails) :
    Refusal (JsonResponse.httpAnswer
      (validationExceptionHandler (.requestValidationError errors))) := by
  by_cases hjson : errors.any (fun err => err.type = some (py "json_invalid")) = true
  · have hanswer : validationExceptionHandler (.requestValidationError errors) = _ :=
      if_pos hjson
    rw [hanswer]
    exact .malformed _ rfl rfl (isProblem_build _ _ _ _ _ _)
  · have hanswer : validationExceptionHandler (.requestValidationError errors) =
        validationProblem (errors.map invalidParameter) :=
      if_neg hjson
    rw [hanswer]
    exact .validation _ rfl rfl (isProblem_build _ _ _ _ _ _)

theorem resolve_error {answer : HttpAnswer} (h : resolve acceptsStr msg http = .error answer) :
    Refusal answer := by
  unfold resolve at h
  split at h
  · cases h
    exact refusal_validation _
  · cases h
    exact .unreadable
  · unfold resolveHeaders at h
    split at h
    · cases h
      exact .correlationId
    · split at h
      · cases h
        exact .idempotencyKey
      · split at h
        · cases h
        · cases h
          exact refusal_validation _

end

/-- The handlers registered for a rate limit and a rejection give the answers that the orchestrator
stores for them. -/
theorem handlers_agree (retryAfter : Int) :
    (rateLimitExceededHandler (some retryAfter)).map JsonResponse.httpAnswer =
        (rateLimitedEnvelope retryAfter).map httpAnswer ∧
      JsonResponse.httpAnswer downstreamRejectedHandler = httpAnswer rejectedEnvelope := by
  refine ⟨?_, rfl⟩
  -- both print the waiting time
  unfold rateLimitExceededHandler rateLimitedEnvelope
  rw [Option.getD_some]
  split <;> rfl

end Api
end TransactionPlatform
