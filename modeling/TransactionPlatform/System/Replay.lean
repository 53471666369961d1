import TransactionPlatform.System.Storable

/-!
# Replay — a final answer stays the answer

Once a request has returned a final answer, the record of its key is completed and holds that answer.
A request that arrives later with the same key finds the record at its first statement, whatever the
others do meanwhile: it is answered from the record, or refused when its payload is another one, and
it neither changes the database nor calls the payment network.
-/

namespace TransactionPlatform
namespace System

open Text Domain Ports Common Application Adapters Api Infrastructure ReadCommitted Transition

/-! ## Stored answers -/

/-- The statuses that end an authorization. -/
def finalCode (code : Int) : Bool :=
  code = 201 || code = 202 || code = 502 || code = 503

/-- The envelope rebuilt from the stored columns is the one that was returned, marked as a replay. -/
theorem storedEnvelope_settled {id keyHash : PyStr} {o : PortOutcome} {a : CompleteArgs}
    (h : settlement id keyHash o = .ok a) :
    storedEnvelope a.envelope.statusCode a.envelope.body (persistedHeaders a.envelope.headers) =
      { a.envelope with isReplay := true } := by
  refine settlement_induction (P := fun a => storedEnvelope a.envelope.statusCode a.envelope.body
    (persistedHeaders a.envelope.headers) = { a.envelope with isReplay := true })
    (fun _ _ => rfl) (fun _ => rfl) ?_ rfl rfl h
  intro n _
  have hheaders : persistedHeaders (rateLimitedProblem n).headers =
      some (rateLimitedProblem n).headers := persistedHeaders_retryAfter _
  simp only [settled, hheaders]
  rfl

/-- The record under a key holds a final answer. -/
structure FinalAnswer (T : Tables) (a : ReserveArgs) (envelope : ResponseEnvelope)
    (record : IdempotencyRecord) : Prop where
  record_eq : T (.record a.keyHash) = some record
  fingerprint : record.requestFingerprint = a.requestFingerprint
  completed : record.processingStatus = py "COMPLETED"
  code : record.storedStatusCode = some envelope.statusCode
  body : record.storedResponseBody = some envelope.body
  headers : headersOrEmpty record.storedHeaders = envelope.headers
  replay : record.envelope = { envelope with isReplay := true }

/-- A completed record the schema admits holds the answer it is replayed with. -/
theorem finalAnswer_of_replay {T : Tables} (hT : SchemaOk T) {a : ReserveArgs}
    {record : IdempotencyRecord} (hrecord : T (.record a.keyHash) = some record)
    (hfingerprint : record.requestFingerprint = a.requestFingerprint)
    (hcompleted : record.processingStatus = py "COMPLETED") :
    FinalAnswer T a record.envelope record := by
  have hok : record.admitted = true := (hT.record_ok _ _ hrecord).2
  -- the constraint gives a completed record its code and its body
  have hpayload : record.payloadIntegrity = true := by
    simp only [IdempotencyRecord.admitted, Bool.and_eq_true] at hok
    exact hok.1.1.2
  have hprogress : py "COMPLETED" ≠ py "IN_PROGRESS" := by simp
  simp only [IdempotencyRecord.payloadIntegrity, hcompleted, hprogress, decide_true, decide_false,
    Bool.true_and, Bool.false_and, Bool.or_false, Bool.and_eq_true] at hpayload
  rcases Option.isSome_iff_exists.mp hpayload.1 with ⟨code, hcode⟩
  rcases Option.isSome_iff_exists.mp hpayload.2 with ⟨body, hbody⟩
  exact
    { record_eq := hrecord
      fingerprint := hfingerprint
      completed := hcompleted
      code := by
        simp [IdempotencyRecord.envelope, hcode]
      body := by
        simp [IdempotencyRecord.envelope, hbody]
      headers := rfl
      replay := rfl }

/-- The answers that `handle_authorization` makes without storing them. -/
inductive Conflict : ResponseEnvelope → Prop
  | payload : Conflict idempotencyConflictEnvelope
  | inProgress : Conflict inProgressEnvelope
  | transactionId : Conflict transactionIdConflictEnvelope

theorem Conflict.fresh {envelope : ResponseEnvelope} (h : Conflict envelope) :
    envelope.statusCode = 409 ∧ envelope.isReplay = false := by
  cases h <;> exact ⟨rfl, rfl⟩

/-- An envelope that answers a reservation is the stored one, or one of the three conflicts. -/
theorem answerReservation_cases {reservation : IdempotencyReservation} {envelope : ResponseEnvelope}
    (h : answerReservation reservation = some (.ok envelope)) :
    (reservation.status = .completed ∧ reservation.storedEnvelope = some envelope) ∨
      Conflict envelope := by
  unfold answerReservation at h
  split at h
  · rename_i hstatus
    split at h
    · rename_i stored hstored
      cases h
      exact .inl ⟨hstatus, hstored⟩
    · cases h
  -- the conflicts are made anew
  · cases h
    exact .inr .payload
  · cases h
    exact .inr .inProgress
  · cases h
    exact .inr .transactionId
  · cases h

/-- An answer from a reservation that is marked as a replay is one. -/
theorem completed_of_isReplay {reservation : IdempotencyReservation} {envelope : ResponseEnvelope}
    (h : answerReservation reservation = some (.ok envelope)) (hreplay : envelope.isReplay = true) :
    reservation.status = .completed ∧ reservation.storedEnvelope = some envelope := by
  rcases answerReservation_cases h with hstored | hconflict
  · exact hstored
  · rw [hconflict.fresh.2] at hreplay
    cases hreplay

namespace Requests

variable {requests : Nat → Request}

/-- The record of a completion holds its answer. -/
theorem Records.replayed {T : Tables} {reserved : ReserveArgs} {a : CompleteArgs}
    {row : TransactionRow} {record : IdempotencyRecord} (h : Records T reserved a row record)
    {id keyHash : PyStr} {o : PortOutcome} (hsettled : settlement id keyHash o = .ok a) :
    record.storedResponseBody = some a.envelope.body ∧
      record.envelope = { a.envelope with isReplay := true } := by
  rcases (settlement_stored hsettled).body with ⟨members, hmembers⟩
  have hbody : record.storedResponseBody = some a.envelope.body := by
    rw [h.body, hmembers]
    rfl
  refine ⟨hbody, ?_⟩
  rw [← storedEnvelope_eq h.code hbody, h.headers]
  exact storedEnvelope_settled hsettled

/-- A request that has returned an envelope has it in the record of its key, unless it is one of the
conflicts. -/
theorem answer_of_finished {T : Tables} (hT : SchemaOk T) {s : Requests}
    (hreach : Reachable (Requests.step requests) (init T) s) {acceptsStr : PyStr → Bool} {r : Nat}
    (hadmitted : Admitted acceptsStr (requests r).command) {envelope : ResponseEnvelope}
    (hfinished : s.phase r = .finished (.ok envelope)) :
    ∃ a, (requests r).reserveArgs = .ok a ∧
      (Conflict envelope ∨ ∃ record, FinalAnswer s.tables a envelope record) := by
  have hphase := (callsInv_of_reachable hreach r).phase
  rw [hfinished] at hphase
  have hcalls := calls_reachable hreach
  -- the request was answered from a record, or has completed its own
  cases hphase with
  | reservation a reservation hargs hcall hanswer =>
      refine ⟨a, hargs, ?_⟩
      rcases answerReservation_cases hanswer with ⟨hstatus, hstored⟩ | hconflict
      · have hreplays : Replays s.tables a reservation :=
          Coordination.reserveResult_of_reachable hT hcalls hcall
        rcases hreplays hstatus with ⟨record, hrecord, hfingerprint, hcompleted, henvelope⟩
        cases hstored.symm.trans henvelope
        exact .inr ⟨record, finalAnswer_of_replay (Coordination.schemaOk_of_reachable hT hcalls)
          hrecord hfingerprint hcompleted⟩
      · exact .inl hconflict
  | completed args hcompleting hcall henvelope =>
      subst henvelope
      rcases (Coordination.logInv_of_reachable hcalls).completed _ _ hcall with ⟨now, hlogged⟩
      rcases records_of_logged hreach hadmitted hlogged with
        ⟨reserved, row, record, hacquired, hrecords⟩
      rcases hcompleting with ⟨reserved', outcome, hacquired', hargs, _⟩
      cases hacquired.1.symm.trans hacquired'.1
      have hsettled := (completion_ok hargs).2
      rcases hrecords.replayed hsettled with ⟨hbody, hreplay⟩
      refine ⟨reserved, hacquired.1, .inr ⟨record, ?_⟩⟩
      exact
        { record_eq := by
            rw [← (settlement_ok hsettled).1]
            exact hrecords.record_eq
          fingerprint := hrecords.fingerprint
          completed := hrecords.completed
          code := hrecords.code
          body := hbody
          headers := congrArg ResponseEnvelope.headers hreplay
          replay := hreplay }

/-- A request that has returned a final answer has it in the record of its key. -/
theorem finalAnswer_of_finished {T : Tables} (hT : SchemaOk T) {s : Requests}
    (hreach : Reachable (Requests.step requests) (init T) s) {acceptsStr : PyStr → Bool} {r : Nat}
    (hadmitted : Admitted acceptsStr (requests r).command) {envelope : ResponseEnvelope}
    (hfinished : s.phase r = .finished (.ok envelope))
    (hcode : finalCode envelope.statusCode = true) :
    ∃ a record, (requests r).reserveArgs = .ok a ∧ FinalAnswer s.tables a envelope record := by
  rcases answer_of_finished hT hreach hadmitted hfinished with
    ⟨a, hargs, hconflict | ⟨record, hfinal⟩⟩
  · rw [hconflict.fresh.1] at hcode
    exact absurd hcode (by decide)
  · exact ⟨a, record, hargs, hfinal⟩

/-! ## Events of one request -/

/-- The call a database event belongs to. -/
def callOf : DatabaseEvent → CallId
  | .step c _ => c
  | .fail c _ => c
  | .land c => c
  | .reap c => c

/-- The event is a step of request `r`, or of the database for one of its calls. -/
def Concerns (r : Nat) : Event → Prop
  | .database d => callOf d = .reserve r ∨ callOf d = .complete r
  | e => e.request = some r

/-- The request meets no database fault in `reserve`, is not cancelled and does not crash. -/
def SparesReserve (r : Nat) (e : Event) : Prop :=
  (∀ fault, e ≠ .database (.fail (.reserve r) fault)) ∧ e ≠ .cancel r ∧ e ≠ .crash r

theorem Concerns.session {r : Nat} {e : Event} {ce : CoordinatorEvent CallId} (h : Concerns r e)
    (hcause : Causes e ce) : ce.id = .reserve r ∨ ce.id = .complete r := by
  cases hcause with
  | arrive r₀ a =>
      cases h
      exact .inl rfl
  | database d =>
      cases d <;> exact h
  | respond r₀ o a =>
      cases h
      exact .inr rfl
  | crash r₀ c hc =>
      cases h
      exact hc

/-! ## A later request commits nothing -/

/-- The record of a key is completed, and request `r` with that key has not arrived yet. -/
structure LaterStart (requests : Nat → Request) (s : Requests) (keyHash : PyStr)
    (record : IdempotencyRecord) (r : Nat) : Prop where
  record_eq : s.tables (.record keyHash) = some record
  completed : record.processingStatus = py "COMPLETED"
  idle : s.phase r = .idle
  key : ∀ a, (requests r).reserveArgs = .ok a → a.keyHash = keyHash

/-- From here on the record stays under its key, and request `r` with that key has not arrived yet. -/
structure Blocked (requests : Nat → Request) (s₀ : Requests) (keyHash : PyStr)
    (record : IdempotencyRecord) (r : Nat) : Prop where
  stays : ∀ es s, exec (Requests.step requests) s₀ es = some s →
    s.tables (.record keyHash) = some record
  idle : s₀.phase r = .idle
  key : ∀ a, (requests r).reserveArgs = .ok a → a.keyHash = keyHash

/-- A completed record stays. -/
theorem LaterStart.blocked {T : Tables} {s₀ : Requests}
    (hreach₀ : Reachable (Requests.step requests) (init T) s₀) {keyHash : PyStr}
    {record : IdempotencyRecord} {r : Nat} (hstart : LaterStart requests s₀ keyHash record r) :
    Blocked requests s₀ keyHash record r := by
  refine ⟨?_, hstart.idle, hstart.key⟩
  intro es s hrun
  have hboth : Reachable (Requests.step requests) (init T) s ∧
      s.tables (.record keyHash) = some record := by
    refine exec_invariant (I := fun m => Reachable (Requests.step requests) (init T) m ∧
      m.tables (.record keyHash) = some record) ?_ ⟨hreach₀, hstart.record_eq⟩ hrun
    rintro m e m' ⟨hm, hrecord⟩ hstep
    refine ⟨hm.next hstep, ?_⟩
    rcases step_calls hstep with hsame | ⟨ce, hce⟩
    · rw [tables, hsame]
      exact hrecord
    · have hinv := Coordination.inv_of_reachable (calls_reachable hm)
      exact Coordination.completed_step hinv hce hrecord hstart.completed
  exact hboth.2

section Blocked

variable {T : Tables} {s₀ : Requests} (hreach₀ : Reachable (Requests.step requests) (init T) s₀)
  {keyHash : PyStr} {record : IdempotencyRecord} {r : Nat}
  (hstart : Blocked requests s₀ keyHash record r)

include hreach₀ hstart in
/-- Whatever happens afterwards, no reservation of `r` is committed: its key is taken. -/
theorem blocked_run {es : List Event} {s : Requests}
    (hrun : exec (Requests.step requests) s₀ es = some s) :
    Reachable (Requests.step requests) (init T) s ∧ s.tables (.record keyHash) = some record ∧
      ∀ e ∈ s.calls.log, e.id ≠ .reserve r := by
  have hall : (∃ es, exec (Requests.step requests) s₀ es = some s) ∧
      ∀ e ∈ s.calls.log, e.id ≠ .reserve r := by
    refine exec_invariant (I := fun m => (∃ es, exec (Requests.step requests) s₀ es = some m) ∧
      ∀ e ∈ m.calls.log, e.id ≠ .reserve r) ?_ ?_ hrun
    · rintro m e m' ⟨⟨fs, hfs⟩, hlog⟩ hstep
      refine ⟨⟨fs ++ [e], exec_append_eq_some.mpr ⟨m, hfs, exec_singleton.mpr hstep⟩⟩, ?_⟩
      have hm : Reachable (Requests.step requests) (init T) m := hreach₀.trans ⟨fs, hfs⟩
      have hrecord := hstart.stays fs m hfs
      rcases step_calls hstep with hsame | ⟨ce, hce⟩
      · rwa [hsame]
      · cases Coordination.step_effect (Coordination.inv_of_reachable (calls_reachable hm)) hce with
        | quiet _ hsame =>
            rwa [hsame]
        | commits c call now _ _ hnew happlies =>
            intro entry hentry hid
            have hentry' := hentry
            rw [hnew, List.mem_append, List.mem_singleton] at hentry
            rcases hentry with hold | rfl
            · exact hlog entry hold hid
            · -- the new reservation would have found its key free
              rcases log_cases (hm.next hstep) hentry' with
                ⟨r', a, hid', hcall, hargs⟩ | ⟨_, _, hid', _⟩
              · cases hid.symm.trans hid'
                cases hcall
                rcases Coordination.Applies.inserts (c := c) happlies with
                  ⟨row, record₀, ⟨_, heq, _, hinsert⟩, _, hfree, _⟩
                cases heq
                rw [recordInsert_keyHash hargs hinsert, hstart.key _ hargs] at hfree
                cases hrecord.symm.trans hfree
              · cases hid.symm.trans hid'
    · refine ⟨⟨[], rfl⟩, ?_⟩
      have hphase := (callsInv_of_reachable hreach₀ r).phase
      rw [hstart.idle] at hphase
      exact fun e he => ne_of_unsettled hreach₀ (unsettled_of_idle hphase.1) he
  exact ⟨hreach₀.trans ⟨es, hrun⟩, hstart.stays es s hrun, hall.2⟩

include hreach₀ hstart in
theorem blocked_not_acquired {es : List Event} {s : Requests}
    (hrun : exec (Requests.step requests) s₀ es = some s) (a : ReserveArgs) :
    ¬ Acquired requests s r a := by
  intro hacquired
  rcases blocked_run hreach₀ hstart hrun with ⟨hreach, _, hlog⟩
  rcases hacquired.logged hreach with ⟨now, hmem⟩
  exact hlog _ hmem rfl

include hreach₀ hstart in
/-- A later request never calls the payment network. -/
theorem blocked_not_sent {es : List Event} {s : Requests}
    (hrun : exec (Requests.step requests) s₀ es = some s) : ∀ p ∈ s.sent, p.1 ≠ r := by
  rintro p hp rfl
  have hreach := (blocked_run hreach₀ hstart hrun).1
  rcases (sentInv_of_reachable hreach).acquired p hp with ⟨_, a, hacquired⟩
  exact blocked_not_acquired hreach₀ hstart hrun a hacquired

include hreach₀ hstart in
/-- No event of a later request changes the tables. -/
theorem blocked_quiet {es : List Event} {s s' : Requests} {e : Event}
    (hrun : exec (Requests.step requests) s₀ es = some s) (hstep : s.step requests e = some s')
    (he : Concerns r e) : s'.tables = s.tables := by
  have hreach := (blocked_run hreach₀ hstart hrun).1
  have hrun' : exec (Requests.step requests) s₀ (es ++ [e]) = some s' :=
    exec_append_eq_some.mpr ⟨s, hrun, exec_singleton.mpr hstep⟩
  rcases blocked_run hreach₀ hstart hrun' with ⟨hreach', _, hlog'⟩
  rcases step_causes hstep with hsame | ⟨ce, hcause, hce⟩
  · rw [tables, hsame]
    rfl
  · cases Coordination.step_effect (Coordination.inv_of_reachable (calls_reachable hreach)) hce with
    | quiet htables _ =>
        exact htables
    | commits c call now _ hsettled hnew _ =>
        exfalso
        -- the call that commits is the one the event belongs to
        have hc : c = ce.id := by
          by_contra hne
          rcases Coordination.step_frame hce hne with ⟨hcall, horphan⟩
          apply hsettled.1
          rw [Coordination.Settled, ← hcall, ← horphan]
          exact hsettled.2
        have hmem : (⟨c, call, now⟩ : Commit CallId) ∈ s'.calls.log := by
          simp [hnew]
        rcases he.session hcause with hid | hid
        · exact hlog' _ hmem (hc.trans hid)
        · rcases log_cases hreach' hmem with ⟨_, _, hid', _⟩ | ⟨r', a, hid', _, hcompleting⟩
          · cases (hc.trans hid).symm.trans hid'
          · cases (hc.trans hid).symm.trans hid'
            rcases hcompleting with ⟨reserved, _, hacquired, _⟩
            exact blocked_not_acquired hreach₀ hstart hrun' reserved hacquired

end Blocked

/-! ## A later request without faults -/

/-- Where a later request stands, and how many of its steps are still to come. -/
inductive Later (requests : Nat → Request) (s : Requests) (r : Nat) (a : ReserveArgs)
    (reservation : IdempotencyReservation) (envelope : ResponseEnvelope) : Nat → Prop
  | idle (hphase : s.phase r = .idle) : Later requests s r a reservation envelope 4
  | select (hphase : s.phase r = .reserving) (hcall : s.calls.call (.reserve r) = .reserve a .select) :
      Later requests s r a reservation envelope 3
  | commit (hphase : s.phase r = .reserving)
      (hcall : s.calls.call (.reserve r) = .reserve a (.commitResult reservation)) :
      Later requests s r a reservation envelope 2
  | done (hphase : s.phase r = .reserving)
      (hcall : s.calls.call (.reserve r) = .reserve a (.done (.ok reservation))) :
      Later requests s r a reservation envelope 1
  | finished (hphase : s.phase r = .finished (.ok envelope)) :
      Later requests s r a reservation envelope 0

/-- What `reserve` and the request make of the completed record. -/
structure LaterAnswer (requests : Nat → Request) (record : IdempotencyRecord) (r : Nat)
    (a : ReserveArgs) (reservation : IdempotencyReservation) (envelope : ResponseEnvelope) :
    Prop where
  args : (requests r).reserveArgs = .ok a
  classified : classifyExisting record a.requestFingerprint = .ok reservation
  answered : answerReservation reservation = some (.ok envelope)

section Later

variable {s : Requests} {r : Nat} {a : ReserveArgs} {reservation : IdempotencyReservation}
  {envelope : ResponseEnvelope} {n : Nat}

theorem Later.phase_cases (h : Later requests s r a reservation envelope n) :
    s.phase r = .idle ∨ s.phase r = .reserving ∨ s.phase r = .finished (.ok envelope) := by
  cases h with
  | idle h =>
      exact .inl h
  | finished h =>
      exact .inr (.inr h)
  | select h _ | commit h _ | done h _ =>
      exact .inr (.inl h)

/-- All that `reserve` returns to a later request is its reservation. -/
theorem Later.returned (h : Later requests s r a reservation envelope n)
    (hreserving : s.phase r = .reserving) {a₀ : ReserveArgs}
    {result : Except Exc IdempotencyReservation}
    (hcall : s.calls.call (.reserve r) = .reserve a₀ (.done result)) : result = .ok reservation := by
  cases h with
  | done _ hcall' =>
      cases hcall.symm.trans hcall'
      rfl
  | idle h | finished h =>
      cases hreserving.symm.trans h
  | select _ hcall' | commit _ hcall' =>
      cases hcall.symm.trans hcall'

/-- A later request starts with the first query of its `reserve`. -/
theorem later_of_arrive {calls : Coordination CallId}
    (hstart : s.calls.step (.start (.reserve r) (.reserve a)) = some calls) :
    Later requests { (s.setPhase r .reserving) with calls := calls } r a reservation envelope 3 := by
  rcases CallArguments.eq_reserve (CallArguments.of_start hstart).2 with ⟨pc, hcall⟩
  cases Coordination.reserveOrigin_of_step hstart hcall with
  | started _ hpc =>
      subst hpc
      exact .select (by simp) hcall
  | kept hcall₀ =>
      cases (CallArguments.of_start hstart).1.symm.trans hcall₀
  | statement _ _ he | fault _ _ _ he | killed he =>
      cases he

end Later

section Answer

variable {record : IdempotencyRecord} {r : Nat} {a : ReserveArgs}
  {reservation : IdempotencyReservation} {envelope : ResponseEnvelope}
  (hanswer : LaterAnswer requests record r a reservation envelope)

include hanswer in
/-- The first statement finds the record. -/
theorem select_found {server : Server Row CallId} (hpending : server.pending (.reserve r) = noRows)
    (hrecord : server.committed (.record a.keyHash) = some record) (now : Timestamp) :
    reserveStep server (.reserve r) a now .select = some (server, .commitResult reservation) := by
  have htext : pgText a.keyHash = true :=
    (isDigest_sha256Text (reserveArgs_ok hanswer.args).1).text
  simp [reserveStep, htext, view_eq_committed hpending, hrecord, hanswer.classified, afterClassify]

variable {T : Tables} {s : Requests} (hreach : Reachable (Requests.step requests) (init T) s)
  (hrecord : s.tables (.record a.keyHash) = some record)

include hanswer hreach hrecord in
/-- A step of the database or of another request leaves a later request where it is, or runs its
next statement. -/
theorem later_frame {s' : Requests} {e : Event} (hstep : s.step requests e = some s')
    (he : SparesReserve r e) (hr : e.request ≠ some r) {n : Nat}
    (h : Later requests s r a reservation envelope n) :
    ∃ n', Later requests s' r a reservation envelope n' := by
  have hphase := (step_frame hstep hr).1
  -- the call of a request that is reserving: it is kept, or its own statement has run
  have hmove : ∀ {pc}, s.calls.call (.reserve r) = .reserve a pc → ∃ pc',
      s'.calls.call (.reserve r) = .reserve a pc' ∧ (pc' = pc ∨ ∃ now,
        reserveStep s.calls.server (.reserve r) a now pc = some (s'.calls.server, pc')) := by
    intro pc hcall
    rcases step_causes hstep with hsame | ⟨ce, hcause, hce⟩
    · exact ⟨pc, by rw [hsame]; exact hcall, .inl rfl⟩
    · have hargs : (s'.calls.call (.reserve r)).call = some (.reserve a) :=
        CallArguments.kept hce (by rw [hcall]; rfl)
      rcases CallArguments.eq_reserve hargs with ⟨pc', hcall'⟩
      refine ⟨pc', hcall', ?_⟩
      cases Coordination.reserveOrigin_of_step hce hcall' with
      | kept hcall₀ =>
          cases hcall.symm.trans hcall₀
          exact .inl rfl
      | started hidle =>
          cases hcall.symm.trans hidle
      | statement now pc₀ _ hcall₀ hs =>
          cases hcall.symm.trans hcall₀
          exact .inr ⟨now, hs⟩
      | fault fault pc₀ o hfail =>
          subst hfail
          exact absurd hcause.fail (he.1 fault)
      | killed hkill =>
          subst hkill
          rcases hcause.kill with ⟨r', rfl, hc | hc⟩
          · cases hc
            exact absurd rfl he.2.2
          · cases hc
  cases h with
  | idle h =>
      exact ⟨4, .idle (hphase.trans h)⟩
  | finished h =>
      exact ⟨0, .finished (hphase.trans h)⟩
  | select h hcall =>
      rcases hmove hcall with ⟨pc', hcall', rfl | ⟨now, hs⟩⟩
      · exact ⟨3, .select (hphase.trans h) hcall'⟩
      · have hown := (Coordination.inv_of_reachable (calls_reachable hreach)).reserve_session hcall
        have hpc : pc' = .commitResult reservation := by
          rw [select_found hanswer hown.2 hrecord now, Option.some.injEq, Prod.mk.injEq] at hs
          exact hs.2.symm
        subst hpc
        exact ⟨2, .commit (hphase.trans h) hcall'⟩
  | commit h hcall =>
      rcases hmove hcall with ⟨pc', hcall', rfl | ⟨now, hs⟩⟩
      · exact ⟨2, .commit (hphase.trans h) hcall'⟩
      · have hpc : pc' = .done (.ok reservation) := by
          simp only [reserveStep, Option.some.injEq, Prod.mk.injEq] at hs
          exact hs.2.symm
        subst hpc
        exact ⟨1, .done (hphase.trans h) hcall'⟩
  | done h hcall =>
      rcases hmove hcall with ⟨pc', hcall', rfl | ⟨now, hs⟩⟩
      · exact ⟨1, .done (hphase.trans h) hcall'⟩
      · cases hs

include hanswer in
/-- An own event of a later request takes it one step on. -/
theorem later_own {s' : Requests} {e : Event} (hstep : s.step requests e = some s')
    (he : SparesReserve r e) (hr : e.request = some r) {n : Nat}
    (h : Later requests s r a reservation envelope n) :
    ∃ n', Later requests s' r a reservation envelope n' := by
  have hphases := h.phase_cases
  cases transition_of_step hstep with
  | database e calls hcalls =>
      cases hr
  | arrive r₀ a₀ calls hidle hargs hstart =>
      cases hr
      cases hanswer.args.symm.trans hargs
      exact ⟨3, later_of_arrive hstart⟩
  | refused r₀ e hidle hargs =>
      cases hr
      cases hanswer.args.symm.trans hargs
  | answered r₀ a₀ reservation₀ answer hreserving hcall hanswered =>
      cases hr
      cases h.returned hreserving hcall
      cases hanswered.symm.trans hanswer.answered
      exact ⟨0, .finished (by simp)⟩
  | acquired r₀ a₀ reservation₀ hreserving hcall hnone =>
      cases hr
      cases h.returned hreserving hcall
      cases hnone.symm.trans hanswer.answered
  | reserveError r₀ a₀ e hreserving hcall =>
      cases hr
      cases h.returned hreserving hcall
  | cancel r₀ =>
      cases hr
      exact absurd rfl he.2.1
  | crash r₀ =>
      cases hr
      exact absurd rfl he.2.2
  | invoke r₀ keyHash t hphase | invalid r₀ keyHash e hphase
  | respond r₀ keyHash o a₀ calls hphase | escaped r₀ keyHash o e hphase
  | finish r₀ envelope₀ a₀ hphase | completeError r₀ envelope₀ a₀ e hphase =>
      -- a later request never gets past `reserve`
      cases hr
      rw [hphase] at hphases
      simp at hphases

/-- The database runs the next statement of a `reserve`. -/
theorem reserve_statement {pc pc' : ReservePc} {now : Timestamp} {server : Server Row CallId}
    (hcall : s.calls.call (.reserve r) = .reserve a pc)
    (hs : reserveStep s.calls.server (.reserve r) a now pc = some (server, pc')) :
    ∃ s', s.step requests (.database (.step (.reserve r) now)) = some s' ∧
      s'.calls.call (.reserve r) = .reserve a pc' ∧ s'.phase = s.phase := by
  let calls : Coordination CallId :=
    { (s.calls.setCall (.reserve r) (.reserve a pc')) with
      server := server
      log := s.calls.log ++ reserveLogged (.reserve r) a pc }
  have hcalls : s.calls.step (.step (.reserve r) now) = some calls := by
    simp [Coordination.step, Coordination.stepCall, hcall, hs, calls]
  refine ⟨{ s with calls := calls }, ?_, ?_, rfl⟩
  · simp [step, DatabaseEvent.event, hcalls]
  · simp [calls, Coordination.setCall]

include hanswer hreach hrecord in
/-- The next step of a later request is always possible. -/
theorem later_advances {n : Nat} (h : Later requests s r a reservation envelope (n + 1)) :
    ∃ e s', Concerns r e ∧ s.step requests e = some s' ∧
      Later requests s' r a reservation envelope n := by
  -- one case for each step from its arrival to its answer
  cases h with
  | idle hphase =>
      have hcalls := (callsInv_of_reachable hreach r).phase
      rw [hphase] at hcalls
      have hstart : s.calls.step (.start (.reserve r) (.reserve a)) =
          some (s.calls.setCall (.reserve r) (.reserve a .select)) := by
        simp [Coordination.step, Coordination.start, hcalls.1, CoordinatorCall.begin]
      refine ⟨.arrive r, { (s.setPhase r .reserving) with
        calls := s.calls.setCall (.reserve r) (.reserve a .select) }, rfl, ?_, .select ?_ ?_⟩
      · simp [step, arrive, hphase, hanswer.args, await, hstart]
      · simp
      · simp [Coordination.setCall]
  | select hphase hcall =>
      have hown := (Coordination.inv_of_reachable (calls_reachable hreach)).reserve_session hcall
      rcases reserve_statement hcall (select_found hanswer hown.2 hrecord 0) with
        ⟨s', hstep, hcall', hphase'⟩
      exact ⟨.database (.step (.reserve r) 0), s', .inl rfl, hstep,
        .commit (by rw [hphase', hphase]) hcall'⟩
  | commit hphase hcall =>
      rcases reserve_statement hcall rfl with ⟨s', hstep, hcall', hphase'⟩
      exact ⟨.database (.step (.reserve r) 0), s', .inl rfl, hstep,
        .done (by rw [hphase', hphase]) hcall'⟩
  | done hphase hcall =>
      refine ⟨.resume r, s.setPhase r (.finished (.ok envelope)), rfl, ?_, .finished (by simp)⟩
      simp [step, resume, hphase, hcall, hanswer.answered]

end Answer

/-- Request `r` has returned the envelope, or its own steps, at most four, make it return it. -/
structure Returns (requests : Nat → Request) (s : Requests) (r : Nat) (envelope : ResponseEnvelope) :
    Prop where
  returned : ∀ result, s.phase r = .finished result → result = .ok envelope
  returns : ∃ own s', own.length ≤ 4 ∧ (∀ e ∈ own, Concerns r e) ∧
    exec (Requests.step requests) s own = some s' ∧ s'.phase r = .finished (.ok envelope)

section Run

variable {T : Tables} {s₀ : Requests} (hreach₀ : Reachable (Requests.step requests) (init T) s₀)
  {record : IdempotencyRecord} {r : Nat} {a : ReserveArgs}
  (hstart : Blocked requests s₀ a.keyHash record r) {reservation : IdempotencyReservation}
  {envelope : ResponseEnvelope}
  (hanswer : LaterAnswer requests record r a reservation envelope)

include hreach₀ hstart hanswer in
theorem blocked_of_run {es : List Event} {s : Requests}
    (hrun : exec (Requests.step requests) s₀ es = some s) (hes : ∀ e ∈ es, SparesReserve r e) :
    ∃ n, Later requests s r a reservation envelope n := by
  have hall : (∃ es, exec (Requests.step requests) s₀ es = some s) ∧
      ∃ n, Later requests s r a reservation envelope n := by
    refine exec_invariant_of (I := fun m => (∃ es, exec (Requests.step requests) s₀ es = some m) ∧
      ∃ n, Later requests m r a reservation envelope n) (A := SparesReserve r) ?_
      ⟨⟨[], rfl⟩, 4, .idle hstart.idle⟩ hes hrun
    rintro m e m' ⟨⟨fs, hfs⟩, n, hlater⟩ he hstep
    rcases blocked_run hreach₀ hstart hfs with ⟨hm, hrecord, _⟩
    refine ⟨⟨fs ++ [e], exec_append_eq_some.mpr ⟨m, hfs, exec_singleton.mpr hstep⟩⟩, ?_⟩
    by_cases hr : e.request = some r
    · exact later_own hanswer hstep he hr hlater
    · exact later_frame hanswer hm hrecord hstep he hr hlater
  exact hall.2

include hreach₀ hstart hanswer in
theorem blocked_finishes {n : Nat} {es : List Event} {s : Requests}
    (hrun : exec (Requests.step requests) s₀ es = some s)
    (h : Later requests s r a reservation envelope n) :
    ∃ own s', own.length = n ∧ (∀ e ∈ own, Concerns r e) ∧
      exec (Requests.step requests) s own = some s' ∧ s'.phase r = .finished (.ok envelope) := by
  induction n generalizing s es with
  | zero =>
      cases h with
      | finished hphase =>
          exact ⟨[], s, rfl, by simp, rfl, hphase⟩
  | succ n ih =>
      rcases blocked_run hreach₀ hstart hrun with ⟨hreach, hrecord, _⟩
      rcases later_advances hanswer hreach hrecord h with ⟨e, s₁, he, hstep, hlater⟩
      have hrun₁ : exec (Requests.step requests) s₀ (es ++ [e]) = some s₁ :=
        exec_append_eq_some.mpr ⟨s, hrun, exec_singleton.mpr hstep⟩
      rcases ih hrun₁ hlater with ⟨own, s', hlength, hown, hexec, hphase⟩
      refine ⟨e :: own, s', by simp [hlength], ?_, exec_cons_eq_some.mpr ⟨s₁, hstep, hexec⟩, hphase⟩
      intro e' he'
      rcases List.mem_cons.mp he' with rfl | hmem
      · exact he
      · exact hown e' hmem

include hreach₀ hstart hanswer in
theorem blocked_returns {es : List Event} {s : Requests}
    (hrun : exec (Requests.step requests) s₀ es = some s) (hes : ∀ e ∈ es, SparesReserve r e) :
    Returns requests s r envelope := by
  rcases blocked_of_run hreach₀ hstart hanswer hrun hes with ⟨n, hlater⟩
  have hn : n ≤ 4 := by
    cases hlater <;> decide
  refine ⟨?_, ?_⟩
  · intro result hresult
    cases hlater with
    | finished hphase =>
        exact Phase.finished.inj (hresult.symm.trans hphase)
    | idle hphase =>
        cases hresult.symm.trans hphase
    | select hphase _ | commit hphase _ | done hphase _ =>
        cases hresult.symm.trans hphase
  · rcases blocked_finishes hreach₀ hstart hanswer hrun hlater with
      ⟨own, s', hlength, hown, hexec, hphase⟩
    exact ⟨own, s', by omega, hown, hexec, hphase⟩

end Run

section Later

variable {T : Tables} {s₀ : Requests} (hreach₀ : Reachable (Requests.step requests) (init T) s₀)
  {keyHash : PyStr} {record : IdempotencyRecord} {r : Nat}

include hreach₀ in
theorem later_not_sent (hstart : LaterStart requests s₀ keyHash record r) {es : List Event}
    {s : Requests} (hrun : exec (Requests.step requests) s₀ es = some s) : ∀ p ∈ s.sent, p.1 ≠ r :=
  blocked_not_sent hreach₀ (hstart.blocked hreach₀) hrun

include hreach₀ in
theorem later_quiet (hstart : LaterStart requests s₀ keyHash record r) {es : List Event}
    {s s' : Requests} {e : Event} (hrun : exec (Requests.step requests) s₀ es = some s)
    (hstep : s.step requests e = some s') (he : Concerns r e) : s'.tables = s.tables :=
  blocked_quiet hreach₀ (hstart.blocked hreach₀) hrun hstep he

include hreach₀ in
theorem later_returns {a : ReserveArgs} (hstart : LaterStart requests s₀ a.keyHash record r)
    {reservation : IdempotencyReservation} {envelope : ResponseEnvelope}
    (hanswer : LaterAnswer requests record r a reservation envelope) {es : List Event} {s : Requests}
    (hrun : exec (Requests.step requests) s₀ es = some s) (hes : ∀ e ∈ es, SparesReserve r e) :
    Returns requests s r envelope :=
  blocked_returns hreach₀ (hstart.blocked hreach₀) hanswer hrun hes

end Later

/-! ## Agreement of final answers -/

/-- Agreement of final answers.  Once a request has returned 201, 202, 502 or 503, its answer is
committed, and in every continuation, with any interleaving, faults and crashes:

* no event of a request that arrives later with the same key changes the tables, and no such request
  calls the payment network;
* one that meets no fault itself returns the same envelope, marked as a replay, if its payload is the
  same up to surrogate pairs, and the idempotency conflict if it is another one.

For the last part SHA-256 does not collide on the two canonical texts, and the amount is one
`json.dumps` can print. -/
theorem final_answer_replayed {T : Tables} (hT : SchemaOk T) {acceptsStr : PyStr → Bool}
    (hadmitted : ∀ r, Admitted acceptsStr (requests r).command) (before : List Event) {s : Requests}
    (hbefore : exec (Requests.step requests) (init T) before = some s) {r : Nat}
    {envelope : ResponseEnvelope} (hreturned : s.phase r = .finished (.ok envelope))
    (hcode : finalCode envelope.statusCode = true) :
    (∃ a record, (requests r).reserveArgs = .ok a ∧ FinalAnswer s.tables a envelope record) ∧
    httpAnswer { envelope with isReplay := true } =
      { statusCode := envelope.statusCode
        body := envelope.body
        headers := Dict.set envelope.headers (py "Idempotent-Replay") (py "true")
        mediaType := envelope.mediaType } ∧
    ∀ r', s.phase r' = .idle → (requests r').idempotencyKey = (requests r).idempotencyKey →
      ∀ after s', exec (Requests.step requests) s after = some s' →
        (∀ m e m', (m, e, m') ∈ transitions (Requests.step requests) s after → Concerns r' e →
          m'.tables = m.tables) ∧
        (∀ p ∈ s'.sent, p.1 ≠ r') ∧
        ((∀ e ∈ after, SparesReserve r' e) →
          ((requests r').payload.joined = (requests r).payload.joined →
            Returns requests s' r' { envelope with isReplay := true }) ∧
          ((requests r').payload.joined ≠ (requests r).payload.joined →
            (canonicalJson (requests r').payload).isSome = true →
            (∀ text text', canonicalJson (requests r').payload = some text →
              canonicalJson (requests r).payload = some text' →
              sha256Text text = sha256Text text' → text = text') →
            Returns requests s' r' idempotencyConflictEnvelope)) := by
  have hreach : Reachable (Requests.step requests) (init T) s := ⟨before, hbefore⟩
  rcases finalAnswer_of_finished hT hreach (hadmitted r) hreturned hcode with
    ⟨a, record, hargs, hfinal⟩
  refine ⟨⟨a, record, hargs, hfinal⟩, rfl, ?_⟩
  intro r' hidle hkey after s' hafter
  have hkeyHash : computeKeyHash (requests r').idempotencyKey = .ok a.keyHash := by
    rw [hkey]
    exact (reserveArgs_ok hargs).1
  have hsameKey : ∀ a', (requests r').reserveArgs = .ok a' → a'.keyHash = a.keyHash := by
    intro a' hargs'
    have hboth := (reserveArgs_ok hargs').1.symm.trans hkeyHash
    exact Except.ok.inj hboth
  have hstart : LaterStart requests s a.keyHash record r' :=
    ⟨hfinal.record_eq, hfinal.completed, hidle, hsameKey⟩
  have hok : record.admitted = true :=
    ((Coordination.schemaOk_of_reachable hT (calls_reachable hreach)).record_ok _ _
      hfinal.record_eq).2
  have hprogress : record.processingStatus ≠ py "IN_PROGRESS" := by
    rw [hfinal.completed]
    simp
  refine ⟨?_, later_not_sent hreach hstart hafter, ?_⟩
  · intro m e m' hmem he
    rcases mem_transitions hmem with ⟨⟨es, hes⟩, hstep⟩
    exact later_quiet hreach hstart hes hstep he
  · intro hspares
    -- the answer only depends on whether the fingerprints agree
    have hreturns : ∀ a' answer, (requests r').reserveArgs = .ok a' →
        answerReservation (answerExisting record a'.requestFingerprint) = some (.ok answer) →
        Returns requests s' r' answer := by
      intro a' answer hargs' hanswered
      rw [← hsameKey a' hargs'] at hstart
      exact later_returns hreach hstart ⟨hargs', classifyExisting_eq hok _, hanswered⟩ hafter hspares
    refine ⟨?_, ?_⟩
    · intro hpayload
      have hprint : computeRequestFingerprint (requests r').payload = .ok a.requestFingerprint := by
        rw [computeRequestFingerprint_congr hpayload]
        exact (reserveArgs_ok hargs).2.1
      rcases (show ∃ a', (requests r').reserveArgs = .ok a' by
        simp [Request.reserveArgs, hkeyHash, hprint]) with ⟨a', hargs'⟩
      have hfingerprint : record.requestFingerprint = a'.requestFingerprint := by
        have hboth := (reserveArgs_ok hargs').2.1.symm.trans hprint
        rw [hfinal.fingerprint]
        exact (Except.ok.inj hboth).symm
      refine hreturns a' _ hargs' ?_
      simp [answerExisting, hfingerprint, hprogress, answerReservation, hfinal.replay]
    · intro hpayload hdigits hsha
      rcases reserveArgs_defined hkeyHash hdigits with ⟨a', hargs'⟩
      have hfingerprint : record.requestFingerprint ≠ a'.requestFingerprint := by
        intro heq
        rw [hfinal.fingerprint] at heq
        have hprint' := (reserveArgs_ok hargs').2.1
        rw [← heq] at hprint'
        exact hpayload (joined_eq_of_fingerprint hprint' (reserveArgs_ok hargs).2.1 hsha)
      refine hreturns a' _ hargs' ?_
      simp [answerExisting, hfingerprint, reservation, answerReservation]

/-- The sample request is declined, and the same request arrives once more. -/
theorem final_answer_replayed_decline :
    let before : List Event := sampleRun ++
      [.respond 0 (.declined (py "05")), .database (.step (.complete 0) 2),
        .database (.step (.complete 0) 2), .database (.step (.complete 0) 2), .finish 0]
    ∃ (s : Requests) (envelope : ResponseEnvelope),
      exec (Requests.step fun _ => sampleRequest) (init emptyTables) before = some s ∧
      s.phase 0 = .finished (.ok envelope) ∧ envelope.statusCode = 201 ∧
      Returns (fun _ => sampleRequest) s 1 { envelope with isReplay := true } := by
  intro before
  have hany : (exec (Requests.step fun _ => sampleRequest) (init emptyTables) before).any
      (fun s => (s.phase 0).returned.any (fun envelope => envelope.statusCode = 201) &&
        (s.phase 1).isIdle) = true := by
    decide +kernel
  rcases (Option.any_eq_true _ _).mp hany with ⟨s, hrun, hs⟩
  rcases (Bool.and_eq_true _ _).mp hs with ⟨hanswered, hidle⟩
  rcases (Option.any_eq_true _ _).mp hanswered with ⟨envelope, henvelope, hcode⟩
  have hphase := Phase.eq_finished henvelope
  have hstatus : envelope.statusCode = 201 := of_decide_eq_true hcode
  have hlater := (final_answer_replayed schemaOk_empty (fun _ => sample_admitted)
    before hrun hphase (by rw [hstatus]; decide)).2.2 1 (Phase.eq_idle hidle) rfl [] s rfl
  exact ⟨s, envelope, hrun, hphase, hstatus, (hlater.2.2 (by simp)).1 rfl⟩

/-! ## Surrogate pairs

A body sent in raw bytes can hold the two halves of a surrogate pair as two characters.  `json.dumps`
writes them as it writes the character they stand for, so the fingerprint does not tell them apart.
-/

/-- Request 0 has one token, all others have another. -/
def tokenRequests (first second : PyStr) (r : Nat) : Request :=
  withToken (if r = 0 then first else second)

theorem tokenRequests_cases {first second : PyStr} {P : Request → Prop} (hfirst : P (withToken first))
    (hsecond : P (withToken second)) (r : Nat) : P (tokenRequests first second r) := by
  unfold tokenRequests
  split
  · exact hfirst
  · exact hsecond

/-- The first token ends in U+1F600, the second in its two halves. -/
def emojiRequests : Nat → Request :=
  tokenRequests (py "tok_test_" ++ [0x1F600]) (py "tok_test_" ++ [0xD83D, 0xDE00])

theorem emojiRequests_admitted (r : Nat) : Admitted (fun _ => true) (emojiRequests r).command :=
  tokenRequests_cases (P := fun request => Admitted (fun _ => true) request.command)
    (withToken_admitted rfl) (withToken_admitted rfl) r

/-- Request 0 is declined; request 1 has another payload under the same key, and gets the answer of
request 0 instead of the conflict. -/
theorem surrogatePair_replayed :
    let run : List Event := sampleRun ++
      [.respond 0 (.declined (py "05")), .database (.step (.complete 0) 2),
        .database (.step (.complete 0) 2), .database (.step (.complete 0) 2), .finish 0,
        .arrive 1, .database (.step (.reserve 1) 3), .database (.step (.reserve 1) 3), .resume 1]
    (∀ r, Admitted (fun _ => true) (emojiRequests r).command) ∧
    (emojiRequests 1).idempotencyKey = (emojiRequests 0).idempotencyKey ∧
    (emojiRequests 1).payload ≠ (emojiRequests 0).payload ∧
    (canonicalJson (emojiRequests 1).payload).isSome = true ∧
    (∀ text text', canonicalJson (emojiRequests 1).payload = some text →
      canonicalJson (emojiRequests 0).payload = some text' →
      sha256Text text = sha256Text text' → text = text') ∧
    (∀ e ∈ run, SparesReserve 1 e) ∧
    ∃ (s : Requests) (envelope envelope' : ResponseEnvelope),
      exec (Requests.step emojiRequests) (init emptyTables) run = some s ∧
      s.phase 0 = .finished (.ok envelope) ∧ envelope.statusCode = 201 ∧
      s.phase 1 = .finished (.ok envelope') ∧ envelope'.statusCode = 201 ∧
      envelope'.isReplay = true := by
  intro run
  have htexts : canonicalJson (emojiRequests 1).payload = canonicalJson (emojiRequests 0).payload := by
    rfl
  have hany : (exec (Requests.step emojiRequests) (init emptyTables) run).any
      (fun s => (s.phase 0).returned.any (fun envelope => envelope.statusCode = 201) &&
        (s.phase 1).returned.any fun envelope => envelope.statusCode = 201 && envelope.isReplay) =
      true := by
    decide +kernel
  refine ⟨emojiRequests_admitted, rfl, by decide, rfl, ?_, ?_, ?_⟩
  · intro text text' htext htext' _
    exact Option.some.inj (htext.symm.trans (htexts.trans htext'))
  · simp [run, sampleRun, SparesReserve]
  · rcases (Option.any_eq_true _ _).mp hany with ⟨s, hrun, hs⟩
    rcases (Bool.and_eq_true _ _).mp hs with ⟨hfirst, hlater⟩
    rcases (Option.any_eq_true _ _).mp hfirst with ⟨envelope, henvelope, hcode⟩
    rcases (Option.any_eq_true _ _).mp hlater with ⟨envelope', henvelope', hboth⟩
    rcases (Bool.and_eq_true _ _).mp hboth with ⟨hcode', hreplay⟩
    exact ⟨s, envelope, envelope', hrun, Phase.eq_finished henvelope, of_decide_eq_true hcode,
      Phase.eq_finished henvelope', of_decide_eq_true hcode', hreplay⟩

end Requests

end System
end TransactionPlatform
