import TransactionPlatform.System.Network
import TransactionPlatform.System.Replay
import TransactionPlatform.System.Stranded

/-!
# Endpoint — what the clients are told

The HTTP side of the deployment.  A POST is refused at the door or becomes a request of the platform,
and is answered at most once, when its request has come back.  Here the answers are compared with the
tables and with the decisions of the emulator.
-/

namespace TransactionPlatform
namespace System

open Text Domain Ports Common Application Adapters Api Infrastructure ReadCommitted Transition

/-! ## The endpoint -/

/-- The deployment, and the answers in the order in which they have left. -/
structure Endpoint where
  deployment : Deployment
  answers : List (Nat × HttpAnswer)

/-- A request reaches the endpoint; the deployment takes any step but an arrival; an answer leaves. -/
inductive EndpointEvent
  | receive (r : Nat)
  | internal (e : DeploymentEvent)
  | reply (r : Nat)

def DeploymentEvent.isArrival : DeploymentEvent → Bool
  | .platform (.arrive _) => true
  | _ => false

/-- A cancelled request has lost its client; nobody answers it. -/
def isCancelled : Except Exc ResponseEnvelope → Bool
  | .error e => e = Requests.cancelled
  | .ok _ => false

/-- The request behind an HTTP request.  One that is refused never arrives, so it has no use for the
value it has here. -/
def behind (acceptsStr : PyStr → Bool) (msg : FieldError → PyStr) (inputs : Nat → HttpRequest)
    (r : Nat) : Request :=
  match resolve acceptsStr msg (inputs r) with
  | .ok p => requestOf p
  | .error _ => sampleRequest

namespace Endpoint

def init : Endpoint :=
  { deployment := Deployment.init
    answers := [] }

section Step

variable (acceptsStr : PyStr → Bool) (msg : FieldError → PyStr) (inputs : Nat → HttpRequest)

def advance (s : Endpoint) (e : DeploymentEvent) : Option Endpoint :=
  match s.deployment.step acceptsStr msg (behind acceptsStr msg inputs) e with
  | some d => some { s with deployment := d }
  | none => none

/-- An answer leaves, unless the request has had one. -/
def send (s : Endpoint) (r : Nat) (answer : Except Exc HttpAnswer) : Option Endpoint :=
  if r ∈ s.answers.map Prod.fst then none
  else some { s with answers := s.answers ++ [(r, respond (inputs r) answer)] }

def receive (s : Endpoint) (r : Nat) : Option Endpoint :=
  match resolve acceptsStr msg (inputs r) with
  | .ok _ => s.advance acceptsStr msg inputs (.platform (.arrive r))
  | .error answer => s.send inputs r (.ok answer)

/-- `create_transaction` has come back. -/
def reply (s : Endpoint) (r : Nat) : Option Endpoint :=
  match s.deployment.platform.phase r with
  | .finished result =>
      if isCancelled result then none else s.send inputs r (createTransaction result)
  | _ => none

def step (s : Endpoint) : EndpointEvent → Option Endpoint
  | .receive r => s.receive acceptsStr msg inputs r
  | .internal e => if e.isArrival then none else s.advance acceptsStr msg inputs e
  | .reply r => s.reply inputs r

end Step

/-! ## Accepted requests only -/

section Agreeing

variable {acceptsStr : PyStr → Bool} {msg : FieldError → PyStr} {inputs : Nat → HttpRequest}

/-- The requests behind the HTTP requests that get through; any others behind the rest. -/
def Agrees (acceptsStr : PyStr → Bool) (msg : FieldError → PyStr) (inputs : Nat → HttpRequest)
    (requests : Nat → Request) : Prop :=
  ∀ r p, resolve acceptsStr msg (inputs r) = .ok p → requests r = requestOf p

theorem agrees_behind : Agrees acceptsStr msg inputs (behind acceptsStr msg inputs) := by
  intro r p h
  simp [behind, h]

/-- If one HTTP request gets through, there are accepted requests behind all of them. -/
theorem exists_agrees {r₀ : Nat} {p₀ : Parameters}
    (h : resolve acceptsStr msg (inputs r₀) = .ok p₀) :
    ∃ requests, Agrees acceptsStr msg inputs requests ∧ ∀ r, Accepted acceptsStr (requests r) := by
  refine ⟨fun r => match resolve acceptsStr msg (inputs r) with
    | .ok p => requestOf p
    | .error _ => requestOf p₀, ?_, ?_⟩
  · intro r p hp
    simp [hp]
  · intro r
    dsimp only
    split
    · rename_i p hp
      exact ⟨inputs r, p, resolve_ok_iff.mp hp, rfl⟩
    · exact ⟨inputs r₀, p₀, resolve_ok_iff.mp h, rfl⟩

end Agreeing

end Endpoint

namespace Requests

variable {requests requests' : Nat → Request} {s s' : Requests} {e : Event}

/-- A step depends on the request it belongs to only, and a request that has not arrived takes no step
but its arrival. -/
theorem step_congr (h : ∀ r, e.request = some r →
    requests r = requests' r ∨ s.phase r = .idle ∧ e ≠ .arrive r) :
    s.step requests e = s.step requests' e := by
  cases e with
  | database d | resume r | finish r | cancel r | crash r =>
      rfl
  | arrive r =>
      rcases h r rfl with heq | ⟨_, hne⟩
      · rw [step, step, heq]
      · exact absurd rfl hne
  | invoke r =>
      rcases h r rfl with heq | ⟨hidle, _⟩
      · rw [step, step, heq]
      · simp [step, invoke, hidle]
  | respond r o =>
      rcases h r rfl with heq | ⟨hidle, _⟩
      · rw [step, step, heq]
      · simp [step, respond, hidle]

theorem phase_idle_kept (hstep : s.step requests e = some s') {r : Nat} (hidle : s.phase r = .idle)
    (he : e ≠ .arrive r) : s'.phase r = .idle := by
  have hne : e.request ≠ some r := by
    intro hr
    cases transition_of_step hstep with
    | arrive r₀ a calls hphase _ _ | refused r₀ exc hphase _ =>
        cases hr
        exact he rfl
    | database d calls _ =>
        cases hr
    | answered r₀ a reservation answer hphase _ _ | acquired r₀ a reservation hphase _ _
    | reserveError r₀ a exc hphase _ | invoke r₀ keyHash t hphase _ | invalid r₀ keyHash exc hphase _
    | respond r₀ keyHash o a calls hphase _ _ | escaped r₀ keyHash o exc hphase _
    | finish r₀ envelope a hphase _ | completeError r₀ envelope a exc hphase _ =>
        cases hr
        cases hidle.symm.trans hphase
    | cancel r₀ hphase | crash r₀ calls hphase _ =>
        cases hr
        exact hphase hidle
  rw [(step_frame hstep hne).1]
  exact hidle

theorem phase_finished_kept (hstep : s.step requests e = some s') {r : Nat}
    {result : Except Exc ResponseEnvelope} (h : s.phase r = .finished result) :
    s'.phase r = .finished result := by
  have hended : Ended (s.phase r) := by
    rw [h]
    exact True.intro
  rw [(step_frame hstep (request_ne_of_ended hstep hended)).1]
  exact h

end Requests

namespace Deployment

variable {acceptsStr : PyStr → Bool} {msg : FieldError → PyStr} {requests requests' : Nat → Request}
  {d d' : Deployment} {e : DeploymentEvent}

theorem step_congr (h : ∀ r, requests r = requests' r ∨
    d.platform.phase r = .idle ∧ e ≠ .platform (.arrive r)) :
    d.step acceptsStr msg requests e = d.step acceptsStr msg requests' e := by
  have hhear : ∀ r o, d.hear requests r o = d.hear requests' r o := by
    intro r o
    have hsame : d.platform.step requests (.respond r o) =
        d.platform.step requests' (.respond r o) := by
      apply Requests.step_congr
      rintro r' hr
      rcases h r' with heq | ⟨hidle, _⟩
      · exact .inl heq
      · exact .inr ⟨hidle, by simp⟩
    rw [hear, hear, hsame]
  cases e with
  | platform pe =>
      have hsame : d.platform.step requests pe = d.platform.step requests' pe := by
        apply Requests.step_congr
        intro r _
        rcases h r with heq | ⟨hidle, hne⟩
        · exact .inl heq
        · exact .inr ⟨hidle, fun hpe => hne (by rw [hpe])⟩
      simp only [step, hsame]
  | serve r =>
      rfl
  | deliver r | lose r loss | unencodable r =>
      simp only [step, hhear]

/-- What a step does to the phases is done by a step of the platform. -/
theorem platform_of_step (hstep : d.step acceptsStr msg requests e = some d') :
    d'.platform = d.platform ∨ ∃ pe, d.platform.step requests pe = some d'.platform ∧
      ∀ r, pe = .arrive r → e = .platform (.arrive r) := by
  cases e with
  | platform pe =>
      simp only [step] at hstep
      split at hstep
      · cases hstep
      · split at hstep
        · rename_i platform hpe
          cases hstep
          exact .inr ⟨pe, hpe, fun r hr => by rw [hr]⟩
        · cases hstep
  | serve r =>
      rcases serve_eq_some hstep with ⟨_, _, _, _, rfl⟩
      exact .inl rfl
  | deliver r =>
      simp only [step] at hstep
      split at hstep
      · exact .inr ⟨_, (hear_eq_some hstep).1, by simp⟩
      · cases hstep
  | lose r loss =>
      exact .inr ⟨_, (hear_eq_some hstep).1, by simp⟩
  | unencodable r =>
      rcases unencodable_eq_some hstep with ⟨_, _, _, hhear⟩
      exact .inr ⟨_, (hear_eq_some hhear).1, by simp⟩

theorem phase_idle_kept (hstep : d.step acceptsStr msg requests e = some d') {r : Nat}
    (hidle : d.platform.phase r = .idle) (he : e ≠ .platform (.arrive r)) :
    d'.platform.phase r = .idle := by
  rcases platform_of_step hstep with hsame | ⟨pe, hpe, harrive⟩
  · rw [hsame]
    exact hidle
  · exact Requests.phase_idle_kept hpe hidle fun h => he (harrive r h)

theorem phase_finished_kept (hstep : d.step acceptsStr msg requests e = some d') {r : Nat}
    {result : Except Exc ResponseEnvelope} (h : d.platform.phase r = .finished result) :
    d'.platform.phase r = .finished result := by
  rcases platform_of_step hstep with hsame | ⟨pe, hpe, _⟩
  · rw [hsame]
    exact h
  · exact Requests.phase_finished_kept hpe h

end Deployment

namespace Endpoint

variable {acceptsStr : PyStr → Bool} {msg : FieldError → PyStr} {inputs : Nat → HttpRequest}
  {requests : Nat → Request}

/-- Where an answer comes from: the door, or a request that has come back. -/
inductive Given (acceptsStr : PyStr → Bool) (msg : FieldError → PyStr) (inputs : Nat → HttpRequest)
    (s : Requests) (r : Nat) : HttpAnswer → Prop
  | refused (answer : HttpAnswer) (hrefused : resolve acceptsStr msg (inputs r) = .error answer) :
      Given acceptsStr msg inputs s r (respond (inputs r) (.ok answer))
  | finished (result : Except Exc ResponseEnvelope) (hphase : s.phase r = .finished result)
      (hliving : isCancelled result = false) :
      Given acceptsStr msg inputs s r (respond (inputs r) (createTransaction result))

theorem Given.kept {s s' : Requests} {r : Nat} {answer : HttpAnswer}
    (hkept : ∀ result, s.phase r = .finished result → s'.phase r = .finished result)
    (h : Given acceptsStr msg inputs s r answer) : Given acceptsStr msg inputs s' r answer := by
  cases h with
  | refused answer hrefused =>
      exact .refused answer hrefused
  | finished result hphase hliving =>
      exact .finished result (hkept result hphase) hliving

structure EndpointInv (acceptsStr : PyStr → Bool) (msg : FieldError → PyStr)
    (inputs : Nat → HttpRequest) (requests : Nat → Request) (s : Endpoint) : Prop where
  network : Deployment.NetworkInv acceptsStr msg requests s.deployment
  once : (s.answers.map Prod.fst).Nodup
  refused : ∀ r answer, resolve acceptsStr msg (inputs r) = .error answer →
    s.deployment.platform.phase r = .idle
  given : ∀ p ∈ s.answers, Given acceptsStr msg inputs s.deployment.platform p.1 p.2

theorem endpointInv_init : EndpointInv acceptsStr msg inputs requests init where
  network := Deployment.networkInv_init
  once := List.nodup_nil
  refused _ _ _ := rfl
  given := by
    intro p hp
    cases hp

section Step

variable (hagrees : Agrees acceptsStr msg inputs requests) {s s' : Endpoint}
  (h : EndpointInv acceptsStr msg inputs requests s)

include hagrees h in
/-- A step of the deployment, in which no refused request arrives. -/
theorem advance_endpointInv {e : DeploymentEvent}
    (harrival : ∀ r answer, resolve acceptsStr msg (inputs r) = .error answer →
      e ≠ .platform (.arrive r))
    (hstep : s.advance acceptsStr msg inputs e = some s') :
    EndpointInv acceptsStr msg inputs requests s' := by
  unfold advance at hstep
  split at hstep
  · rename_i d hd
    cases hstep
    -- the requests behind are those of `requests`, or have not arrived
    have hsame : s.deployment.step acceptsStr msg (behind acceptsStr msg inputs) e =
        s.deployment.step acceptsStr msg requests e := by
      apply Deployment.step_congr
      intro r
      cases hresolve : resolve acceptsStr msg (inputs r) with
      | ok p =>
          exact .inl ((agrees_behind r p hresolve).trans (hagrees r p hresolve).symm)
      | error answer =>
          exact .inr ⟨h.refused r answer hresolve, harrival r answer hresolve⟩
    rw [hsame] at hd
    refine ⟨Deployment.step_networkInv h.network hd, h.once, ?_, ?_⟩
    · intro r answer hrefused
      exact Deployment.phase_idle_kept hd (h.refused r answer hrefused) (harrival r answer hrefused)
    · intro p hp
      exact (h.given p hp).kept fun _ hphase => Deployment.phase_finished_kept hd hphase
  · cases hstep

include h in
/-- An answer leaves that its request has been given. -/
theorem send_endpointInv {r : Nat} {answer : Except Exc HttpAnswer}
    (hgiven : Given acceptsStr msg inputs s.deployment.platform r (respond (inputs r) answer))
    (hstep : s.send inputs r answer = some s') : EndpointInv acceptsStr msg inputs requests s' := by
  unfold send at hstep
  split at hstep
  · cases hstep
  · rename_i hnew
    cases hstep
    refine ⟨h.network, ?_, h.refused, ?_⟩
    · simpa using h.once.concat hnew
    · intro p hp
      rcases List.mem_append.mp hp with hold | hlast
      · exact h.given p hold
      · rw [List.mem_singleton.mp hlast]
        exact hgiven

include hagrees h in
theorem step_endpointInv {e : EndpointEvent} (hstep : s.step acceptsStr msg inputs e = some s') :
    EndpointInv acceptsStr msg inputs requests s' := by
  cases e with
  | receive r =>
      simp only [step, receive] at hstep
      split at hstep
      · rename_i p hresolve
        refine advance_endpointInv hagrees h ?_ hstep
        intro r' answer hrefused heq
        cases heq
        cases hresolve.symm.trans hrefused
      · rename_i answer hrefused
        exact send_endpointInv h (.refused answer hrefused) hstep
  | internal e =>
      simp only [step] at hstep
      split at hstep
      · cases hstep
      · rename_i harrival
        refine advance_endpointInv hagrees h ?_ hstep
        rintro r answer _ rfl
        exact harrival rfl
  | reply r =>
      simp only [step, reply] at hstep
      split at hstep
      · rename_i result hphase
        split at hstep
        · cases hstep
        · rename_i hliving
          exact send_endpointInv h (.finished result hphase (by simpa using hliving)) hstep
      · cases hstep

end Step

theorem endpointInv_of_run (hagrees : Agrees acceptsStr msg inputs requests)
    {es : List EndpointEvent} {s : Endpoint}
    (hrun : exec (Endpoint.step acceptsStr msg inputs) init es = some s) :
    EndpointInv acceptsStr msg inputs requests s :=
  exec_invariant (fun _ _ _ h hstep => step_endpointInv hagrees h hstep) endpointInv_init hrun

/-! ## What an answer says -/

/-- The tables stand behind an answer.  It is the one stored under its key, where request `r₀` with
the same key and payload has put it; the row of `r₀` agrees with it, and with what the emulator has
decided. -/
structure Settled (acceptsStr : PyStr → Bool) (inputs : Nat → HttpRequest) (d : Deployment)
    (p : Parameters) (envelope : ResponseEnvelope) (r₀ : Nat) (p₀ : Parameters)
    (a a₀ : ReserveArgs) (row : TransactionRow) (record : IdempotencyRecord) : Prop where
  args : (requestOf p).reserveArgs = .ok a
  stored : FinalAnswer d.platform.tables a envelope record
  headers : (envelope.statusCode = 503 ∧ ∃ retryAfter : Int, 1 ≤ retryAfter ∧ retryAfter ≤ 60 ∧
      envelope.headers = [(py "Retry-After", textOfInt retryAfter)]) ∨
    (envelope.statusCode ≠ 503 ∧ envelope.headers = [])
  owner : Resolved acceptsStr (inputs r₀) p₀
  owner_args : (requestOf p₀).reserveArgs = .ok a₀
  same : a₀.keyHash = a.keyHash ∧ a₀.requestFingerprint = a.requestFingerprint
  pair : Requests.Pair d.platform.tables (requestOf p₀) a₀ row record
  agrees : row.version = 1 ∧ CompletedAs row record
  decided : row.status = py "PENDING_RECONCILIATION" ∨
    (∃ reply, (r₀, reply) ∈ d.served) ∧ Deployment.Reflects row (decision (requestOf p₀).command)

/-- What a client can be told. -/
inductive Told (acceptsStr : PyStr → Bool) (msg : FieldError → PyStr) (inputs : Nat → HttpRequest)
    (d : Deployment) (r : Nat) : HttpAnswer → Prop
  | refused (answer : HttpAnswer) (hrefused : resolve acceptsStr msg (inputs r) = .error answer) :
      Told acceptsStr msg inputs d r (correlationIdMiddleware (inputs r) answer)
  | conflict (p : Parameters) (envelope : ResponseEnvelope)
      (hresolved : Resolved acceptsStr (inputs r) p) (hconflict : Conflict envelope) :
      Told acceptsStr msg inputs d r (correlationIdMiddleware (inputs r) (httpAnswer envelope))
  | settled (p : Parameters) (envelope : ResponseEnvelope) (r₀ : Nat) (p₀ : Parameters)
      (a a₀ : ReserveArgs) (row : TransactionRow) (record : IdempotencyRecord)
      (hresolved : Resolved acceptsStr (inputs r) p)
      (hsettled : Settled acceptsStr inputs d p envelope r₀ p₀ a a₀ row record) :
      Told acceptsStr msg inputs d r (correlationIdMiddleware (inputs r) (httpAnswer envelope))
  | failed (p : Parameters) (hresolved : Resolved acceptsStr (inputs r) p) :
      Told acceptsStr msg inputs d r
        (correlationIdMiddleware (inputs r) (JsonResponse.httpAnswer persistenceErrorHandler))
  | raised (p : Parameters) (hresolved : Resolved acceptsStr (inputs r) p) :
      Told acceptsStr msg inputs d r internalServerError

/-- The clients, the tables and the emulator agree. -/
structure ClientAgreement (acceptsStr : PyStr → Bool) (msg : FieldError → PyStr)
    (inputs : Nat → HttpRequest) (s : Endpoint) : Prop where
  once : (s.answers.map Prod.fst).Nodup
  told : ∀ p ∈ s.answers, Told acceptsStr msg inputs s.deployment p.1 p.2
  untouched : ∀ r answer, resolve acceptsStr msg (inputs r) = .error answer →
    (∀ p ∈ s.deployment.platform.sent, p.1 ≠ r) ∧ (∀ p ∈ s.deployment.served, p.1 ≠ r) ∧
      ∀ e ∈ s.deployment.platform.calls.log, e.id ≠ .reserve r ∧ e.id ≠ .complete r

/-- The stored headers of an answer of the adapter: a waiting time between 1 and 60, or none. -/
theorem headers_of_settlement {x : Exchange} {id keyHash : PyStr} {a : CompleteArgs}
    (h : settlement id keyHash (authorize x) = .ok a) :
    (a.envelope.statusCode ≠ 503 ∧ persistedHeaders a.envelope.headers = none) ∨
      (a.envelope.statusCode = 503 ∧ ∃ n : Int, 1 ≤ n ∧ n ≤ 60 ∧
        persistedHeaders a.envelope.headers = some [(py "Retry-After", textOfInt n)]) := by
  have hmeaning := meaning x
  rcases (settlement_stored h).headers with hother | ⟨hlimited, _⟩
  · exact .inl hother
  · generalize authorize x = o at h hmeaning
    cases o with
    | raised e =>
        cases e with
        | rateLimit n =>
            rcases settlement_rateLimit h with ⟨_, rfl⟩
            rcases hmeaning.rateLimit_range with ⟨hmin, hmax⟩
            exact .inr ⟨rfl, n, hmin, hmax, persistedHeaders_retryAfter _⟩
        | _ =>
            cases h
            cases hlimited
    | escaped e =>
        cases h
    | _ =>
        cases h
        cases hlimited

theorem CompletedAs.not_created {row : TransactionRow} {record : IdempotencyRecord}
    (h : CompletedAs row record) : row.status ≠ py "CREATED" := by
  cases h with
  | authorized _ _ _ hstatus | declined _ _ hstatus | pending _ hstatus | failed _ _ hstatus =>
      simp [hstatus]

section Answers

variable (haccepted : ∀ r, Accepted acceptsStr (requests r))
  (hagrees : Agrees acceptsStr msg inputs requests) {s : Endpoint}
  (h : EndpointInv acceptsStr msg inputs requests s)

include hagrees h in
/-- A request that is not idle has got through. -/
theorem resolved_of_busy {r : Nat} (hbusy : s.deployment.platform.phase r ≠ .idle) :
    ∃ p, Resolved acceptsStr (inputs r) p ∧ requests r = requestOf p := by
  cases hresolve : resolve acceptsStr msg (inputs r) with
  | ok p =>
      exact ⟨p, resolve_ok_iff.mp hresolve, hagrees r p hresolve⟩
  | error answer =>
      exact absurd (h.refused r answer hresolve) hbusy

include h in
theorem busy_of_call {r : Nat} {call : CoordinatorCall}
    (hcall : (s.deployment.platform.calls.call (.reserve r)).call = some call ∨
      (s.deployment.platform.calls.call (.complete r)).call = some call) :
    s.deployment.platform.phase r ≠ .idle := by
  intro hidle
  have hphase := (Requests.callsInv_of_reachable h.network.reach r).phase
  rw [hidle] at hphase
  rcases hcall with hcall | hcall
  · rw [hphase.1] at hcall
    cases hcall
  · rw [hphase.2] at hcall
    cases hcall

include haccepted hagrees h in
/-- The final answer of a request is settled. -/
theorem settled_of_final {p : Parameters} {envelope : ResponseEnvelope} {a : ReserveArgs}
    {record : IdempotencyRecord} (hargs : (requestOf p).reserveArgs = .ok a)
    (hfinal : FinalAnswer s.deployment.platform.tables a envelope record) :
    ∃ r₀ p₀ a₀ row,
      Settled acceptsStr inputs s.deployment p envelope r₀ p₀ a a₀ row record := by
  have hreach := h.network.reach
  have hadmitted : ∀ r, Admitted acceptsStr (requests r).command := fun r => (haccepted r).admitted
  have hschema := Coordination.schemaOk_of_reachable schemaOk_empty (Requests.calls_reachable hreach)
  rcases Requests.owner_of_record hreach hfinal.record_eq with
    ⟨r₀, a₀, now, hargs₀, hkey, hlogged⟩
  have hentry := (Coordination.logInv_of_reachable (Requests.calls_reachable hreach)).entry _ hlogged
  rcases resolved_of_busy hagrees h (busy_of_call h (.inl hentry.1)) with ⟨p₀, hresolved₀, hrequest⟩
  rcases Requests.standing_of_logged hreach hadmitted h.network.heard hargs₀ hlogged with
    ⟨row, record', hpair, hstanding⟩
  have hsame := hkey ▸ hpair.record_eq
  cases hfinal.record_eq.symm.trans hsame
  rcases Deployment.row_of_logged haccepted h.network hargs₀ hlogged with
    ⟨row', record', hpair', hstate⟩
  cases hpair.row_eq.symm.trans hpair'.row_eq
  cases hstanding with
  | fresh hprogress _ _ _ =>
      have hcompleted := hfinal.completed
      rw [hprogress] at hcompleted
      exact absurd hcompleted (by simp)
  | completed keyHash o args ho hsettled hrecords =>
      rcases ho.settled hsettled with ⟨x, _, rfl⟩
      have hcompletedAs :=
        Requests.completedAs_of_records hschema (trimmed_authorize x) hsettled hrecords
      have hcode : envelope.statusCode = args.envelope.statusCode :=
        Option.some.inj (hfinal.code.symm.trans hrecords.code)
      have hheaders : headersOrEmpty (persistedHeaders args.envelope.headers) = envelope.headers := by
        rw [← hrecords.headers]
        exact hfinal.headers
      refine ⟨r₀, p₀, a₀, row, ?_⟩
      exact
        { args := hargs
          stored := hfinal
          headers := by
            rw [hcode, ← hheaders]
            rcases headers_of_settlement hsettled with
              ⟨hother, hnone⟩ | ⟨hlimited, n, hmin, hmax, hsome⟩
            · rw [hnone]
              exact .inr ⟨hother, rfl⟩
            · rw [hsome]
              exact .inl ⟨hlimited, n, hmin, hmax, rfl⟩
          owner := hresolved₀
          owner_args := hrequest ▸ hargs₀
          same := ⟨hkey, hrecords.fingerprint.symm.trans hfinal.fingerprint⟩
          pair := hrequest ▸ hpair
          agrees := hcompletedAs
          decided := by
            rcases hstate with (hcreated | hpending) | hdecided
            · exact absurd hcreated (CompletedAs.not_created hcompletedAs.2)
            · exact .inl hpending
            · exact .inr (hrequest ▸ hdecided) }

include haccepted hagrees h in
theorem told_of_given {r : Nat} {answer : HttpAnswer}
    (hgiven : Given acceptsStr msg inputs s.deployment.platform r answer) :
    Told acceptsStr msg inputs s.deployment r answer := by
  cases hgiven with
  | refused answer hrefused =>
      exact .refused answer hrefused
  | finished result hphase hliving =>
      have hbusy : s.deployment.platform.phase r ≠ .idle := by
        rw [hphase]
        simp
      rcases resolved_of_busy hagrees h hbusy with ⟨p, hresolved, hrequest⟩
      cases result with
      | ok envelope =>
          rcases Requests.answer_of_finished schemaOk_empty h.network.reach (haccepted r).admitted
            hphase with ⟨a, hargs, hconflict | ⟨record, hfinal⟩⟩
          · exact .conflict p envelope hresolved hconflict
          · rw [hrequest] at hargs
            rcases settled_of_final haccepted hagrees h hargs hfinal with
              ⟨r₀, p₀, a₀, row, hsettled⟩
            exact .settled p envelope r₀ p₀ a a₀ row record hresolved hsettled
      | error e =>
          cases e with
          | persistence message | optimisticConcurrency message =>
              exact .failed p hresolved
          | transaction e | assertion | unicodeEncode | foreign className =>
              exact .raised p hresolved

include h in
/-- A refused request has left nothing behind. -/
theorem untouched_of_refused {r : Nat} {answer : HttpAnswer}
    (hrefused : resolve acceptsStr msg (inputs r) = .error answer) :
    (∀ p ∈ s.deployment.platform.sent, p.1 ≠ r) ∧ (∀ p ∈ s.deployment.served, p.1 ≠ r) ∧
      ∀ e ∈ s.deployment.platform.calls.log, e.id ≠ .reserve r ∧ e.id ≠ .complete r := by
  have hidle := h.refused r answer hrefused
  have hsent : ∀ p ∈ s.deployment.platform.sent, p.1 ≠ r := by
    rintro p hp rfl
    rcases (Requests.sentInv_of_reachable h.network.reach).acquired p hp with
      ⟨_, a, _, reservation, hcall, _⟩
    have hmade : (s.deployment.platform.calls.call (.reserve p.1)).call = some (.reserve a) := by
      rw [hcall]
      rfl
    exact busy_of_call h (.inl hmade) hidle
  refine ⟨hsent, ?_, ?_⟩
  · intro p hp
    rcases h.network.posts p hp with ⟨request, hmem, _⟩
    exact hsent _ hmem
  · intro e he
    have hentry :=
      (Coordination.logInv_of_reachable (Requests.calls_reachable h.network.reach)).entry e he
    constructor
    · intro hid
      rw [hid] at hentry
      exact busy_of_call h (.inl hentry.1) hidle
    · intro hid
      rw [hid] at hentry
      exact busy_of_call h (.inr hentry.1) hidle

end Answers

section Run

variable {es : List EndpointEvent} {s : Endpoint}
  (hrun : exec (Endpoint.step acceptsStr msg inputs) init es = some s)

include hrun in
/-- If no HTTP request gets through, every answer is a refusal. -/
theorem told_of_none (hnone : ∀ r p, resolve acceptsStr msg (inputs r) ≠ .ok p) {p : Nat × HttpAnswer}
    (hp : p ∈ s.answers) : Told acceptsStr msg inputs s.deployment p.1 p.2 := by
  have hinv := endpointInv_of_run agrees_behind hrun
  cases hresolve : resolve acceptsStr msg (inputs p.1) with
  | ok q =>
      exact absurd hresolve (hnone p.1 q)
  | error answer =>
      have hidle := hinv.refused p.1 answer hresolve
      have hgiven := hinv.given p hp
      generalize p.2 = answer at hgiven
      cases hgiven with
      | refused answer hrefused =>
          exact .refused answer hrefused
      | finished result hphase _ =>
          cases hidle.symm.trans hphase

include hrun in
theorem told_of_run {p : Nat × HttpAnswer} (hp : p ∈ s.answers) :
    Told acceptsStr msg inputs s.deployment p.1 p.2 := by
  by_cases hsome : ∃ r q, resolve acceptsStr msg (inputs r) = .ok q
  · rcases hsome with ⟨r, q, hresolve⟩
    rcases exists_agrees hresolve with ⟨requests, hagrees, haccepted⟩
    have hinv := endpointInv_of_run hagrees hrun
    exact told_of_given haccepted hagrees hinv (hinv.given p hp)
  · exact told_of_none hrun (fun r q hresolve => hsome ⟨r, q, hresolve⟩) hp

end Run

/-- In every run of the endpoint, the platform and the emulator from empty tables, for all HTTP
requests, with losses, cancellations, crashes and database faults at any step: no request is answered
twice; a refused one has left no trace; and every answer ever given is a refusal, one of the three
conflicts, a failure that says nothing about the payment, or an answer the tables still hold under its
key, which agrees with its row and with what the emulator has decided. -/
theorem answers_agree (acceptsStr : PyStr → Bool) (msg : FieldError → PyStr)
    (inputs : Nat → HttpRequest) (es : List EndpointEvent) {s : Endpoint}
    (hrun : exec (Endpoint.step acceptsStr msg inputs) init es = some s) :
    ClientAgreement acceptsStr msg inputs s := by
  have hinv := endpointInv_of_run agrees_behind hrun
  refine ⟨hinv.once, ?_, ?_⟩
  · intro p hp
    exact told_of_run hrun hp
  · intro r answer hrefused
    exact untouched_of_refused hinv hrefused

/-- A payment the emulator declines, and requests without a key. -/
def sampleInputs : Nat → HttpRequest
  | 0 => ⟨some (py "c-1"), some (py "key-1"), .json (.obj
      [(py "transaction_id", .str (py "txn_1")), (py "merchant_id", .str (py "m_1")),
        (py "payment_token", .str (py "tok_test_declined")), (py "amount", .int 100),
        (py "currency", .str (py "USD"))])⟩
  | _ + 1 => ⟨some (py "c-2"), none, .empty⟩

/-- Request 0 is paid for and answered, request 1 refused. -/
def sampleExchange : List EndpointEvent :=
  let statement (c : CallId) : EndpointEvent := .internal (.platform (.database (.step c 1)))
  [.receive 1, .receive 0, statement (.reserve 0), statement (.reserve 0), statement (.reserve 0),
    statement (.reserve 0), .internal (.platform (.resume 0)), .internal (.platform (.invoke 0)),
    .internal (.serve 0), .internal (.deliver 0), statement (.complete 0), statement (.complete 0),
    statement (.complete 0), .internal (.platform (.finish 0)), .reply 0]

theorem answers_agree_declined :
    ∃ s, exec (Endpoint.step (fun _ => true) (fun _ => []) sampleInputs) init
        sampleExchange = some s ∧
      s.answers.map (fun p => (p.1, p.2.statusCode)) = [(1, 400), (0, 201)] ∧
      ClientAgreement (fun _ => true) (fun _ => []) sampleInputs s := by
  have hany : (exec (Endpoint.step (fun _ => true) (fun _ => []) sampleInputs) init
      sampleExchange).any (fun s =>
        s.answers.map (fun p => (p.1, p.2.statusCode)) = [(1, 400), (0, 201)]) = true := by
    decide +kernel
  rcases (Option.any_eq_true _ _).mp hany with ⟨s, hrun, hanswers⟩
  exact ⟨s, hrun, by simpa using hanswers, answers_agree _ _ _ _ hrun⟩

end Endpoint

end System
end TransactionPlatform
