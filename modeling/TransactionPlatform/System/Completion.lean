import TransactionPlatform.Infrastructure.Envelopes
import TransactionPlatform.Infrastructure.Locks
import TransactionPlatform.System.Exchanges

/-!
# Completion — an acquired request finds its rows as it left them

Between its reservation and the end of its `complete`, nobody else touches the two rows of an
acquired request.  So the entity it builds is one version ahead of the row, both updates match, and
none of the errors that guard against a lost race can occur.
-/

namespace TransactionPlatform
namespace System

open Text Domain Ports Common Application Adapters Api Infrastructure ReadCommitted Transition

/-! ## Values stored as they are -/

/-- A text that fits its column is stored unchanged. -/
theorem varchar_fits {n : Nat} {s s' : PyStr} (h : varchar n s = some s') (hlength : s.length ≤ n) :
    s' = s := by
  rcases (varchar_cases h).2 with heq | hlong
  · exact heq
  · omega

/-- An admitted command's transaction id is the primary key of its row. -/
theorem transactionInsert_id {acceptsStr : PyStr → Bool} {request : Request}
    (hadmitted : Admitted acceptsStr request.command) {a : ReserveArgs}
    (hargs : request.reserveArgs = .ok a) {now : Timestamp} {row : TransactionRow}
    (h : transactionInsert a now = some row) :
    row.transactionId = request.command.transactionId := by
  have hid : a.transactionId = request.command.transactionId := (reserveArgs_ok hargs).2.2.1
  have hlength : request.command.transactionId.length ≤ 128 := hadmitted.valid.transactionId_length
  rw [← hid] at hlength ⊢
  exact varchar_fits (transactionInsert_fields h).1 hlength

namespace Requests

variable {requests : Nat → Request}

/-! ## The rows of a request that completes -/

/-- The two rows a request has reserved, as its reservation left them. -/
structure Untouched (T : Tables) (id keyHash : PyStr) (row : TransactionRow)
    (record : IdempotencyRecord) : Prop where
  row_eq : T (.transaction id) = some row
  record_eq : T (.record keyHash) = some record
  created : row.status = py "CREATED"
  version_zero : row.version = 0
  in_progress : record.processingStatus = py "IN_PROGRESS"
  linked : record.transactionId = id

theorem Acquired.untouched {T : Tables} {s : Requests}
    (hreach : Reachable (Requests.step requests) (init T) s) {acceptsStr : PyStr → Bool} {r : Nat}
    (hadmitted : Admitted acceptsStr (requests r).command) {a : ReserveArgs}
    (h : Acquired requests s r a) (hunsettled : ¬ s.calls.Settled (.complete r)) :
    ∃ now row record, transactionInsert a now = some row ∧ recordInsert a now = some record ∧
      Untouched s.tables (requests r).command.transactionId a.keyHash row record := by
  rcases h.rows_fresh hreach hunsettled with ⟨now, row, record, _, hrow, hrecord, hrowT, hrecordT⟩
  have hid : row.transactionId = (requests r).command.transactionId :=
    transactionInsert_id hadmitted h.1 hrow
  have hrowFields := transactionInsert_fields hrow
  refine ⟨now, row, record, hrow, hrecord, ?_⟩
  exact
    { row_eq := hid ▸ hrowT
      record_eq := hrecordT
      created := hrowFields.2.2.2.2.1
      version_zero := hrowFields.2.2.2.2.2.2.1
      in_progress := (recordInsert_fields hrecord).2.2.2.1
      linked := (recordInsert_transactionId hrow hrecord).trans hid }

/-- The `complete` of a request runs with the arguments of its own outcome. -/
theorem completing_of_call {T : Tables} {s : Requests}
    (hreach : Reachable (Requests.step requests) (init T) s) {r : Nat} {a : CompleteArgs}
    (hcall : (s.calls.call (.complete r)).call = some (.complete a)) : Completing requests s r a := by
  rcases (callsInv_of_reachable hreach r).complete_of_call hcall with ⟨a', heq, hcompleting⟩
  cases heq
  exact hcompleting

theorem Completing.args {s : Requests} {r : Nat} {a : CompleteArgs}
    (h : Completing requests s r a) :
    a.transaction.transactionId = (requests r).command.transactionId ∧
      a.transaction.version = 1 ∧ a.expectedVersion = 0 := by
  rcases h with ⟨reserved, outcome, _, hargs, _⟩
  rcases settlement_ok (completion_ok hargs).2 with ⟨_, hid, hversion, hexpected⟩
  exact ⟨hid, hversion, hexpected⟩

theorem Completing.keyHash {s : Requests} {r : Nat} {a : CompleteArgs}
    (h : Completing requests s r a) {reserved : ReserveArgs}
    (hargs : (requests r).reserveArgs = .ok reserved) : a.keyHash = reserved.keyHash := by
  rcases h with ⟨reserved', outcome, hacquired, hcompletion, _⟩
  cases hargs.symm.trans hacquired.1
  exact (settlement_ok (completion_ok hcompletion).2).1

/-- Two requests that complete have no row in common. -/
theorem Completing.distinct {T : Tables} {s : Requests}
    (hreach : Reachable (Requests.step requests) (init T) s) {r r' : Nat} {a a' : CompleteArgs}
    (h : Completing requests s r a) (h' : Completing requests s r' a') (hne : r ≠ r') :
    a.transaction.transactionId ≠ a'.transaction.transactionId ∧ a.keyHash ≠ a'.keyHash := by
  rw [h.args.1, h'.args.1]
  rcases h with ⟨reserved, outcome, hacquired, hargs, _⟩
  rcases h' with ⟨reserved', outcome', hacquired', hargs', _⟩
  rcases acquired_distinct hreach hacquired hacquired' hne with ⟨hkey, hid⟩
  rw [(settlement_ok (completion_ok hargs).2).1, (settlement_ok (completion_ok hargs').2).1,
    ← (reserveArgs_ok hacquired.1).2.2.1, ← (reserveArgs_ok hacquired'.1).2.2.1]
  exact ⟨hid, hkey⟩

section Rows

variable {T : Tables} {s : Requests} (hreach : Reachable (Requests.step requests) (init T) s)
  {acceptsStr : PyStr → Bool} {r : Nat} (hadmitted : Admitted acceptsStr (requests r).command)

include hreach hadmitted in
theorem Completing.untouched {a : CompleteArgs} (h : Completing requests s r a)
    (hunsettled : ¬ s.calls.Settled (.complete r)) :
    ∃ reserved now row record, (requests r).reserveArgs = .ok reserved ∧
      transactionInsert reserved now = some row ∧ recordInsert reserved now = some record ∧
      Untouched s.tables a.transaction.transactionId a.keyHash row record := by
  have hid := h.args.1
  rcases h with ⟨reserved, outcome, hacquired, hargs, _⟩
  have hkey : a.keyHash = reserved.keyHash := (settlement_ok (completion_ok hargs).2).1
  rcases hacquired.untouched hreach hadmitted hunsettled with
    ⟨now, row, record, hrow, hrecord, huntouched⟩
  refine ⟨reserved, now, row, record, hacquired.1, hrow, hrecord, ?_⟩
  rw [hid, hkey]
  exact huntouched

include hreach hadmitted in
/-- Nobody else may lock the rows of a request that completes: a `reserve` only locks new keys, and
the `complete` of another request has other rows. -/
theorem Completing.free {a : CompleteArgs} (h : Completing requests s r a)
    (hunsettled : ¬ s.calls.Settled (.complete r)) :
    s.calls.server.blocked (.complete r) (.transaction a.transaction.transactionId) = false ∧
      s.calls.server.blocked (.complete r) (.record a.keyHash) = false := by
  rcases h.untouched hreach hadmitted hunsettled with ⟨_, _, row, record, _, _, _, huntouched⟩
  have hothers : ∀ c, c ≠ .complete r → ∀ k, (k = .transaction a.transaction.transactionId ∨
      k = .record a.keyHash) → ¬ MayLock s.tables (s.calls.call c) k := by
    intro c hc k hk hlock
    cases c with
    | reserve r' =>
        rcases (callsInv_of_reachable hreach r').reserve with hidle | ⟨a', _, hcall⟩
        · rw [hidle] at hlock
          cases hlock
        · rcases CallArguments.eq_reserve hcall with ⟨pc, hpc⟩
          rw [hpc] at hlock
          -- both rows are committed, so no reservation has them
          rcases hk with rfl | rfl
          · cases huntouched.row_eq.symm.trans hlock
          · cases huntouched.record_eq.symm.trans hlock
    | complete r' =>
        have hne : r ≠ r' := by
          rintro rfl
          exact hc rfl
        rcases (callsInv_of_reachable hreach r').complete with hidle | ⟨a', h'⟩
        · rw [hidle] at hlock
          cases hlock
        · rcases h.distinct hreach h' hne with ⟨hidNe, hkeyNe⟩
          rcases h' with ⟨_, _, _, _, hcall⟩
          rcases CallArguments.eq_complete hcall with ⟨pc, hpc⟩
          rw [hpc] at hlock
          rcases hk with rfl | rfl
          · rcases hlock with heq | heq
            · exact hidNe (Pk.transaction.inj heq)
            · cases heq
          · rcases hlock with heq | heq
            · cases heq
            · exact hkeyNe (Pk.record.inj heq)
  have hcalls := calls_reachable hreach
  exact ⟨Coordination.free_of_others hcalls (fun c hc => hothers c hc _ (.inl rfl)),
    Coordination.free_of_others hcalls (fun c hc => hothers c hc _ (.inr rfl))⟩

include hreach hadmitted in
/-- Every update of a request's `complete` finds its row, and finds it free. -/
theorem findsRow (hT : SchemaOk T) {a : CompleteArgs} {pc : CompletePc}
    (hcall : s.calls.call (.complete r) = .complete a pc) :
    FindsRow s.calls.server (.complete r) a pc := by
  have hcompleting : Completing requests s r a :=
    completing_of_call hreach (by rw [hcall]; rfl)
  have hown := (Coordination.inv_of_reachable (calls_reachable hreach)).complete_session hcall
  have hschema := Coordination.schemaOk_of_reachable hT (calls_reachable hreach)
  -- a call that still runs has left no entry in the log
  have hunsettled : (CallState.complete a pc).over = false → ¬ s.calls.Settled (.complete r) := by
    intro hrunning hsettled
    have hover := hsettled.1
    rw [hcall, hrunning] at hover
    cases hover
  cases pc with
  | updateTransaction =>
      rcases hcompleting.untouched hreach hadmitted (hunsettled rfl) with
        ⟨_, _, row, record, _, _, _, h⟩
      refine ⟨(hcompleting.free hreach hadmitted (hunsettled rfl)).1, row, ?_, ?_, ?_⟩
      · -- nothing is pending before the first update
        rw [view_eq_committed hown.2.1]
        exact h.row_eq
      · rw [h.version_zero, hcompleting.args.2.2]
      · exact (hschema.transaction_ok _ _ h.row_eq).2
  | updateRecord now =>
      rcases hcompleting.untouched hreach hadmitted (hunsettled rfl) with
        ⟨_, _, row, record, _, _, _, h⟩
      rcases hown with ⟨_, set, row', _, hpending⟩
      refine ⟨(hcompleting.free hreach hadmitted (hunsettled rfl)).2, record, ?_, ?_, ?_⟩
      · -- only the transaction row is pending before the second
        have hnone : s.calls.server.pending (.complete r) (.record a.keyHash) = none := by
          rw [hpending]
          exact oneRow_record _ _ _
        rw [Server.view_of_pending_eq_none hnone]
        exact h.record_eq
      · simp [recordGuard, h.linked, h.in_progress]
      · exact (hschema.record_ok _ _ h.record_eq).2
  | _ =>
      trivial

end Rows

/-- What a request stores has no surrogates once its first update has gone through, so that `JSONB`
gives it back as it is. -/
theorem unchanged_of_settlement {id keyHash : PyStr} {o : PortOutcome} {a : CompleteArgs}
    (h : settlement id keyHash o = .ok a) {now : Timestamp} {set : TransactionRow → TransactionRow}
    (hset : transactionUpdate a now = some set) (row : TransactionRow) :
    a.envelope.body.joined = a.envelope.body ∧
      joinedHeaders (persistedHeaders a.envelope.headers) =
        persistedHeaders a.envelope.headers := by
  have hid := isScalar_of_pgText (transactionUpdate_id hset)
  rcases transactionUpdate_fields hset row with ⟨_, _, _, _, _, _, _, _, hnet, hauth, hdecline⟩
  revert hid hnet hauth hdecline
  refine settlement_induction (P := fun a => a.transaction.transactionId.all isScalar = true →
    varcharOpt 128 a.networkReference = some (set row).networkReference →
    varcharOpt 128 a.authorizationCode = some (set row).authorizationCode →
    varcharOpt 128 a.declineCode = some (set row).declineCode →
    a.envelope.body.joined = a.envelope.body ∧
      joinedHeaders (persistedHeaders a.envelope.headers) = persistedHeaders a.envelope.headers)
    ?_ ?_ ?_ ?_ ?_ h
  · intro n c hid hnet hauth _
    exact ⟨Json.joined_of_isUnicode (isUnicode_authorized hid
      (isScalar_of_pgText (varcharOpt_text hnet)) (isScalar_of_pgText (varcharOpt_text hauth))), rfl⟩
  · intro d hid _ _ hdecline
    exact ⟨Json.joined_of_isUnicode (isUnicode_declined hid
      (isScalar_of_pgText (varcharOpt_text hdecline))), rfl⟩
  · intro n _ _ _ _ _
    refine ⟨Json.joined_of_isUnicode (isUnicode_problem _ _ _ _), ?_⟩
    -- the one header that is stored is a numeral
    have hheaders : persistedHeaders (rateLimitedProblem n).headers =
        some [(py "Retry-After", textOfInt n)] := persistedHeaders_retryAfter _
    rw [settled, hheaders]
    simp [joinedHeaders, joinPairs_of_isScalar (all_isScalar_textOfInt n)]
  · intro _ _ _ _
    exact ⟨Json.joined_of_isUnicode (isUnicode_problem _ _ _ _), rfl⟩
  · intro hid _ _ _
    exact ⟨Json.joined_of_isUnicode (isUnicode_pending hid), rfl⟩

theorem noneAsNull_unchanged {body : Json} (h : body.joined = body) :
    (noneAsNull body).map Json.joined = noneAsNull body := by
  cases body with
  | null =>
      rfl
  | _ =>
      exact congrArg some h

/-- The two rows of a request whose `complete` has been committed. -/
structure Records (T : Tables) (reserved : ReserveArgs) (a : CompleteArgs) (row : TransactionRow)
    (record : IdempotencyRecord) : Prop where
  row_eq : T (.transaction a.transaction.transactionId) = some row
  record_eq : T (.record a.keyHash) = some record
  merchantId : varchar 128 reserved.merchantId = some row.merchantId
  amount : row.amount = reserved.amount
  currency : varchar 3 reserved.currency = some row.currency
  status : row.status = a.transaction.status.value
  pendingOperation : row.pendingOperation =
    a.transaction.pendingOperation.map PendingOperation.value
  version : row.version = a.transaction.version
  networkReference : varcharOpt 128 a.networkReference = some row.networkReference
  authorizationCode : varcharOpt 128 a.authorizationCode = some row.authorizationCode
  declineCode : varcharOpt 128 a.declineCode = some row.declineCode
  linked : record.transactionId = a.transaction.transactionId
  fingerprint : record.requestFingerprint = reserved.requestFingerprint
  completed : record.processingStatus = py "COMPLETED"
  code : record.storedStatusCode = some a.envelope.statusCode
  body : record.storedResponseBody = noneAsNull a.envelope.body
  headers : record.storedHeaders = persistedHeaders a.envelope.headers

/-- A committed `complete` is in the tables for good, over the rows its request has reserved. -/
theorem records_of_logged {T : Tables} {s : Requests}
    (hreach : Reachable (Requests.step requests) (init T) s) {acceptsStr : PyStr → Bool} {r : Nat}
    (hadmitted : Admitted acceptsStr (requests r).command) {a : CompleteArgs} {now : Timestamp}
    (hlogged : ⟨.complete r, .complete a, now⟩ ∈ s.calls.log) :
    ∃ reserved row record, Acquired requests s r reserved ∧
      Records s.tables reserved a row record := by
  have hentry := (Coordination.logInv_of_reachable (calls_reachable hreach)).entry _ hlogged
  have hcompleting := completing_of_call hreach hentry.1
  have hid := hcompleting.args.1
  rcases hcompleting with ⟨reserved, outcome, hacquired, hargs, _⟩
  have hkey : a.keyHash = reserved.keyHash := (settlement_ok (completion_ok hargs).2).1
  rcases hacquired.logged hreach with ⟨time, hmem⟩
  rcases (Coordination.reservationsInv_of_reachable (calls_reachable hreach)).rows _ hmem reserved
    rfl with ⟨row, record, _, heq, hrow, hrecord⟩
  cases heq
  -- the contents of the rows follow from the log: the request has reserved and completed them
  cases (contents_of_reachable hreach).owned r reserved time row record hmem hrow hrecord with
  | fresh hopen =>
      exact absurd rfl (hopen _ hlogged)
  | completed a' now' setRow setRecord hlogged' hsetRow hsetRecord hrowT hrecordT =>
      cases log_unique hreach hlogged hlogged' rfl
      have hrowId : row.transactionId = (requests r).command.transactionId :=
        transactionInsert_id hadmitted hacquired.1 hrow
      have hinserted := transactionInsert_fields hrow
      rcases transactionUpdate_fields hsetRow row with
        ⟨_, hmerchant, hamount, hcurrency, _, hstatus, hpending, hversion, hnet, hauth, hdecline⟩
      rcases recordUpdate_fields hsetRecord record with
        ⟨_, hfingerprint, hlinked, _, hcompleted, hcode, hbody, hheaders⟩
      rcases unchanged_of_settlement (completion_ok hargs).2 hsetRow row with
        ⟨hsameBody, hsameHeaders⟩
      refine ⟨reserved, setRow row, setRecord record, hacquired, ?_⟩
      exact
        { row_eq := by
            rw [hid, ← hrowId]
            exact hrowT
          record_eq := by
            rw [hkey, ← recordInsert_keyHash hacquired.1 hrecord]
            exact hrecordT
          merchantId := hmerchant ▸ hinserted.2.1
          amount := hamount.trans hinserted.2.2.1
          currency := hcurrency ▸ hinserted.2.2.2.1
          status := hstatus
          pendingOperation := hpending
          version := hversion
          networkReference := hnet
          authorizationCode := hauth
          declineCode := hdecline
          linked := by
            rw [hlinked, recordInsert_transactionId hrow hrecord, hrowId, hid]
          fingerprint := hfingerprint.trans (recordInsert_fingerprint hacquired.1 hrecord)
          completed := hcompleted
          code := hcode
          body := hbody.trans (noneAsNull_unchanged hsameBody)
          headers := hheaders.trans hsameHeaders }

/-! ## What a request can raise -/

theorem step_completeResult {T : Tables} (hT : SchemaOk T) {s s' : Requests} {e : Event}
    (hreach : Reachable (Requests.step requests) (init T) s) {acceptsStr : PyStr → Bool}
    (hadmitted : ∀ r, Admitted acceptsStr (requests r).command)
    (hstep : s.step requests e = some s')
    (h : ∀ r a pc, s.calls.call (.complete r) = .complete a pc → CompleteResult pc) :
    ∀ r a pc, s'.calls.call (.complete r) = .complete a pc → CompleteResult pc := by
  intro r a pc' hcall'
  rcases step_calls hstep with hsame | ⟨ce, hce⟩
  · rw [hsame] at hcall'
    exact h r a pc' hcall'
  · cases Coordination.completeOrigin_of_step hce hcall' with
    | kept hcall =>
        exact h r a pc' hcall
    | started _ hpc =>
        -- the entity is exactly one version ahead, so the call does begin
        have hcompleting : Completing requests s' r a :=
          completing_of_call (hreach.next hstep) (by rw [hcall']; rfl)
        rcases hcompleting.args with ⟨_, hversion, hexpected⟩
        subst hpc
        simp [completeStart, hversion, hexpected, CompleteResult]
    | statement now pc _ hcall hs =>
        exact completeStep_result (findsRow hreach (hadmitted r) hT hcall) (h r a pc hcall) hs
    | fault fault pc o _ _ hfail =>
        exact completeFail_result hfail
    | killed _ hpc =>
        subst hpc
        trivial

theorem completeResult_of_reachable {T : Tables} (hT : SchemaOk T) {s : Requests}
    (hreach : Reachable (Requests.step requests) (init T) s) {acceptsStr : PyStr → Bool}
    (hadmitted : ∀ r, Admitted acceptsStr (requests r).command) {r : Nat} {a : CompleteArgs}
    {pc : CompletePc} (hcall : s.calls.call (.complete r) = .complete a pc) : CompleteResult pc := by
  have hall : Reachable (Requests.step requests) (init T) s ∧
      ∀ r a pc, s.calls.call (.complete r) = .complete a pc → CompleteResult pc := by
    refine hreach.invariant (I := fun m => Reachable (Requests.step requests) (init T) m ∧
      ∀ r a pc, m.calls.call (.complete r) = .complete a pc → CompleteResult pc) ?_
      ⟨Reachable.refl _, ?_⟩
    · rintro m e m' ⟨hm, hresult⟩ hstep
      exact ⟨hm.next hstep, step_completeResult hT hm hadmitted hstep hresult⟩
    · intro r a pc hcall
      cases hcall
  exact hall.2 r a pc hcall

/-- The exceptions that can end a request. -/
def Raises (e : Exc) : Prop :=
  e = .unicodeEncode ∨ ReserveRaises e ∨ CompleteRaises e

theorem raises_foreign (className : PyStr) : Raises (.foreign className) :=
  .inr (.inl (.inr (.inr ⟨className, rfl⟩)))

theorem sha256Text_error {text : PyStr} {e : Exc} (h : sha256Text text = .error e) :
    e = .unicodeEncode := by
  unfold sha256Text at h
  split at h
  · cases h
  · cases h
    rfl

theorem reserveArgs_error {request : Request} {e : Exc} (h : request.reserveArgs = .error e) :
    Raises e := by
  unfold Request.reserveArgs at h
  split at h
  · rename_i e' hkey
    cases h
    exact .inl (sha256Text_error hkey)
  · split at h
    · rename_i e' hfingerprint
      cases h
      unfold computeRequestFingerprint at hfingerprint
      split at hfingerprint
      · exact .inl (sha256Text_error hfingerprint)
      · cases hfingerprint
        exact raises_foreign _
    · cases h

/-- The assertion on a completed reservation holds. -/
theorem answerReservation_ok {T : Tables} {a : ReserveArgs} {reservation : IdempotencyReservation}
    (h : Replays T a reservation) {answer : Except Exc ResponseEnvelope}
    (hanswer : answerReservation reservation = some answer) :
    ∃ envelope, answer = .ok envelope := by
  unfold answerReservation at hanswer
  split at hanswer
  · rename_i hstatus
    split at hanswer
    · cases hanswer
      exact ⟨_, rfl⟩
    · rename_i hnone
      rcases h hstatus with ⟨record, _, _, _, hsome⟩
      rw [hnone] at hsome
      cases hsome
  all_goals cases hanswer
  all_goals exact ⟨_, rfl⟩

/-- An error that reports a broken invariant: a lost update, a failed assertion, an entity that
refuses a step, a record in no known status. -/
def brokenInvariant : Exc → Bool
  | .optimisticConcurrency _ => true
  | .assertion => true
  | .transaction _ => true
  | .persistence message => (py "Unexpected processing_status").isPrefixOf message
  | _ => false

theorem Raises.not_brokenInvariant {e : Exc} (h : Raises e) : brokenInvariant e = false := by
  rcases h with rfl | (rfl | rfl | ⟨className, rfl⟩) | (rfl | ⟨className, rfl⟩)
  all_goals rfl

/-- An own event of a request that ends it with an exception ends it with one of `Raises`. -/
theorem own_raises {T : Tables} (hT : SchemaOk T) {s s' : Requests} {e : Event}
    (hreach : Reachable (Requests.step requests) (init T) s) {acceptsStr : PyStr → Bool}
    (hadmitted : ∀ r, Admitted acceptsStr (requests r).command)
    (hregular : ∀ r o, e = .respond r o → o.isRegular = true)
    (hstep : s.step requests e = some s') {r : Nat} (hr : e.request = some r) {exc : Exc}
    (hphase' : s'.phase r = .finished (.error exc)) : Raises exc := by
  have hcalls := calls_reachable hreach
  cases transition_of_step hstep with
  | database e calls hcalls =>
      cases hr
  | refused r₀ e hidle hargs =>
      cases hr
      simp only [setPhase_phase_self, Phase.finished.injEq, Except.error.injEq] at hphase'
      subst hphase'
      exact reserveArgs_error hargs
  | answered r₀ a reservation answer hreserving hcall hanswer =>
      cases hr
      -- a reservation that answers at once never answers with an exception
      have hresult := Coordination.reserveResult_of_reachable hT hcalls hcall
      rcases answerReservation_ok hresult hanswer with ⟨envelope, rfl⟩
      simp at hphase'
  | reserveError r₀ a e hreserving hcall =>
      cases hr
      simp only [setPhase_phase_self, Phase.finished.injEq, Except.error.injEq] at hphase'
      subst hphase'
      exact .inr (.inl (Coordination.reserveResult_of_reachable hT hcalls hcall))
  | invalid r₀ keyHash e hacquired hnew =>
      cases hr
      rw [new_eq (hadmitted r).transactionId_nonblank] at hnew
      cases hnew
  | escaped r₀ keyHash outcome e hawaiting hargs =>
      cases hr
      rw [completion_eq (hadmitted r).transactionId_nonblank] at hargs
      simp only [setPhase_phase_self, Phase.finished.injEq, Except.error.injEq] at hphase'
      subst hphase'
      rw [(settlement_error (hregular r outcome rfl) hargs).2]
      exact raises_foreign _
  | completeError r₀ envelope a e hcompleting hcall =>
      cases hr
      simp only [setPhase_phase_self, Phase.finished.injEq, Except.error.injEq] at hphase'
      subst hphase'
      exact .inr (.inr (completeResult_of_reachable hT hreach hadmitted hcall))
  | cancel r₀ _ =>
      cases hr
      simp only [setPhase_phase_self, Phase.finished.injEq, Except.error.injEq] at hphase'
      subst hphase'
      exact raises_foreign _
  | _ =>
      cases hr
      simp at hphase'

theorem raises_of_run {T : Tables} (hT : SchemaOk T) {acceptsStr : PyStr → Bool}
    (hadmitted : ∀ r, Admitted acceptsStr (requests r).command) {es : List Event}
    (hregular : ∀ r o, .respond r o ∈ es → o.isRegular = true) {s : Requests}
    (hrun : exec (Requests.step requests) (init T) es = some s) {r : Nat} {exc : Exc}
    (hphase : s.phase r = .finished (.error exc)) : Raises exc := by
  have hall : Reachable (Requests.step requests) (init T) s ∧
      ∀ r exc, s.phase r = .finished (.error exc) → Raises exc := by
    refine exec_invariant_of
      (I := fun m => Reachable (Requests.step requests) (init T) m ∧
        ∀ r exc, m.phase r = .finished (.error exc) → Raises exc)
      (A := fun e => ∀ r o, e = .respond r o → o.isRegular = true) ?_ ⟨Reachable.refl _, ?_⟩ ?_ hrun
    · rintro m e m' ⟨hm, hraises⟩ he hstep
      refine ⟨hm.next hstep, ?_⟩
      intro r exc hphase'
      by_cases hr : e.request = some r
      · exact own_raises hT hm hadmitted he hstep hr hphase'
      · rw [(step_frame hstep hr).1] at hphase'
        exact hraises r exc hphase'
    · intro r exc hphase
      cases hphase
    · rintro e he r o rfl
      exact hregular r o he
  exact hall.2 r exc hphase

/-! ## The way to `complete` -/

/-- Nothing happens to a request on its way to `complete` but its next step. -/
inductive Onward : Phase → Phase → Prop
  | same (phase : Phase) : Onward phase phase
  | resumed (keyHash : PyStr) : Onward .reserving (.acquired keyHash)
  | invoked (keyHash : PyStr) : Onward (.acquired keyHash) (.awaiting keyHash)
  | responded (keyHash : PyStr) (envelope : ResponseEnvelope) :
      Onward (.awaiting keyHash) (.completing envelope)

/-- No event of an acquired request that has not called `complete` yet ends it, unless it is
cancelled or its process dies. -/
theorem Acquired.onward {T : Tables} {s s' : Requests} {e : Event}
    (hreach : Reachable (Requests.step requests) (init T) s) {acceptsStr : PyStr → Bool}
    (hadmitted : ∀ r, Admitted acceptsStr (requests r).command)
    (hregular : ∀ r o, e = .respond r o → o.isRegular = true)
    (hstep : s.step requests e = some s') {r : Nat}
    (hprints : ∀ o, e = .respond r o → o.waitPrints = true) {a : ReserveArgs}
    (h : Acquired requests s r a) (hidle : s.calls.call (.complete r) = .idle)
    (hcancel : e ≠ .cancel r) (hcrash : e ≠ .crash r) : Onward (s.phase r) (s'.phase r) := by
  by_cases hr : e.request = some r
  · rcases h with ⟨_, reservation, hdone, hstatus⟩
    have hphase := (callsInv_of_reachable hreach r).phase
    -- a request whose `reserve` returned `ACQUIRED` is past its arrival
    cases transition_of_step hstep with
    | database e calls hcalls =>
        cases hr
    | arrive r₀ a' calls hidle' =>
        cases hr
        rw [hidle'] at hphase
        cases hdone.symm.trans hphase.1
    | refused r₀ e hidle' =>
        cases hr
        rw [hidle'] at hphase
        cases hdone.symm.trans hphase.1
    | answered r₀ a' reservation' answer hreserving hcall hanswer =>
        cases hr
        cases hdone.symm.trans hcall
        simp [answerReservation, hstatus] at hanswer
    | acquired r₀ a' reservation' hreserving hcall hanswer =>
        cases hr
        rw [hreserving, setPhase_phase_self]
        exact .resumed _
    | reserveError r₀ a' e hreserving hcall =>
        cases hr
        cases hdone.symm.trans hcall
    | invoke r₀ keyHash t hacquired hnew =>
        cases hr
        rw [hacquired]
        simpa using Onward.invoked keyHash
    | invalid r₀ keyHash e hacquired hnew =>
        cases hr
        rw [new_eq (hadmitted r).transactionId_nonblank] at hnew
        cases hnew
    | respond r₀ keyHash outcome a' calls hawaiting hargs hstart =>
        cases hr
        rw [hawaiting]
        simpa using Onward.responded keyHash a'.envelope
    | escaped r₀ keyHash outcome e hawaiting hargs =>
        cases hr
        rw [completion_eq (hadmitted r).transactionId_nonblank] at hargs
        have hunprintable := (settlement_error (hregular r outcome rfl) hargs).1
        rw [hprints outcome rfl] at hunprintable
        cases hunprintable
    | finish r₀ envelope a' hcompleting hcall =>
        cases hr
        cases hidle.symm.trans hcall
    | completeError r₀ envelope a' e hcompleting hcall =>
        cases hr
        cases hidle.symm.trans hcall
    | cancel r₀ =>
        cases hr
        exact absurd rfl hcancel
    | crash r₀ =>
        cases hr
        exact absurd rfl hcrash
  · -- the step of another request leaves the phase alone
    rw [(step_frame hstep hr).1]
    exact .same _

theorem Acquired.resumes {s : Requests} {r : Nat} {a : ReserveArgs}
    (h : Acquired requests s r a) (hreserving : s.phase r = .reserving) :
    s.step requests (.resume r) = some (s.setPhase r (.acquired a.keyHash)) := by
  rcases h with ⟨_, reservation, hdone, hstatus⟩
  simp [Requests.step, resume, hreserving, hdone, answerReservation, hstatus]

theorem invokes {s : Requests} {acceptsStr : PyStr → Bool} {r : Nat}
    (hadmitted : Admitted acceptsStr (requests r).command) {keyHash : PyStr}
    (hacquired : s.phase r = .acquired keyHash) :
    ∃ s', s.step requests (.invoke r) = some s' ∧ s'.phase r = .awaiting keyHash := by
  have hnew := new_eq hadmitted.transactionId_nonblank
  refine ⟨{ (s.setPhase r (.awaiting keyHash)) with
    sent := s.sent ++ [(r, portRequest (requests r).command)] }, ?_, ?_⟩
  · simp [step, invoke, hacquired, hnew]
  · simp

/-- A request that waits for the port still has both rows as it inserted them. -/
theorem awaiting_untouched {T : Tables} {s : Requests}
    (hreach : Reachable (Requests.step requests) (init T) s) {acceptsStr : PyStr → Bool} {r : Nat}
    (hadmitted : Admitted acceptsStr (requests r).command) {keyHash : PyStr}
    (hawaiting : s.phase r = .awaiting keyHash) :
    ∃ row record, Untouched s.tables (requests r).command.transactionId keyHash row record := by
  have hphase := (callsInv_of_reachable hreach r).phase
  rw [hawaiting] at hphase
  rcases hphase with ⟨hidle, reserved, hacquired, rfl⟩
  rcases hacquired.untouched hreach hadmitted (unsettled_of_idle hidle) with
    ⟨_, row, record, _, _, huntouched⟩
  exact ⟨row, record, huntouched⟩

/-- A request that waits for the port calls `complete` on every outcome of the port's protocol whose
waiting time prints, one version ahead of the row it still owns. -/
theorem responds {T : Tables} {s : Requests}
    (hreach : Reachable (Requests.step requests) (init T) s) {acceptsStr : PyStr → Bool} {r : Nat}
    (hadmitted : Admitted acceptsStr (requests r).command) {keyHash : PyStr}
    (hawaiting : s.phase r = .awaiting keyHash) {o : PortOutcome} (hregular : o.isRegular = true)
    (hprints : o.waitPrints = true) :
    ∃ s' a row record, s.step requests (.respond r o) = some s' ∧
      s'.phase r = .completing a.envelope ∧
      s'.calls.call (.complete r) = .complete a .updateTransaction ∧
      a.keyHash = keyHash ∧ a.expectedVersion = 0 ∧ a.transaction.version = 1 ∧
      a.transaction.transactionId = (requests r).command.transactionId ∧
      Untouched s'.tables (requests r).command.transactionId keyHash row record := by
  rcases settlement_regular hregular hprints (requests r).command.transactionId keyHash with ⟨a, ha⟩
  have hargs : completion (requests r).command keyHash o = .ok a := by
    rw [completion_eq hadmitted.transactionId_nonblank]
    exact ha
  rcases settlement_ok ha with ⟨hkey, hid, hversion, hexpected⟩
  rcases respond_ok hreach hawaiting hargs with ⟨s', hstep, hphase', hcall, htables⟩
  rcases awaiting_untouched hreach hadmitted hawaiting with ⟨row, record, huntouched⟩
  rw [← htables] at huntouched
  exact ⟨s', a, row, record, hstep, hphase', hcall, hkey, hexpected, hversion, hid, huntouched⟩

/-- On a rate limit whose waiting time does not print, the request ends with a `ValueError` before it
has called `complete`, and both rows stay as it inserted them. -/
theorem responds_unprintable {T : Tables} {s : Requests}
    (hreach : Reachable (Requests.step requests) (init T) s) {acceptsStr : PyStr → Bool} {r : Nat}
    (hadmitted : Admitted acceptsStr (requests r).command) {keyHash : PyStr}
    (hawaiting : s.phase r = .awaiting keyHash) {n : Int} (hprints : printable n ≠ true) :
    ∃ s' row record, s.step requests (.respond r (.raised (.rateLimit n))) = some s' ∧
      s'.phase r = .finished (.error (.foreign (py "ValueError"))) ∧
      s'.calls.call (.complete r) = .idle ∧
      Untouched s'.tables (requests r).command.transactionId keyHash row record := by
  have hargs : completion (requests r).command keyHash (.raised (.rateLimit n)) =
      .error (.foreign (py "ValueError")) := by
    rw [completion_eq hadmitted.transactionId_nonblank]
    exact if_neg hprints
  have hphase := (callsInv_of_reachable hreach r).phase
  rw [hawaiting] at hphase
  rcases awaiting_untouched hreach hadmitted hawaiting with ⟨row, record, huntouched⟩
  exact ⟨_, row, record, respond_error hawaiting hargs, by simp, hphase.1, huntouched⟩

/-- Ownership.  In every run with admitted commands and outcomes within the port's protocol, an
acquired request goes on to `complete` unless it is cancelled, its process dies or the waiting time of
a rate limit cannot be printed: its next step is always possible and raises nothing, and `complete`
gets its transaction at version 1 while its row is still at version 0 and its record still
`IN_PROGRESS` and linked to it.  So no request ever ends with an error that reports a broken invariant,
and none of its calls ever raises one. -/
theorem owner_reaches_complete {T : Tables} (hT : SchemaOk T) {acceptsStr : PyStr → Bool}
    (hadmitted : ∀ r, Admitted acceptsStr (requests r).command) (es : List Event)
    (hregular : ∀ r o, .respond r o ∈ es → o.isRegular = true) {s : Requests}
    (hrun : exec (Requests.step requests) (init T) es = some s) :
    (∀ m e m', (m, e, m') ∈ transitions (Requests.step requests) (init T) es →
      ∀ r a, Acquired requests m r a → m.calls.call (.complete r) = .idle → e ≠ .cancel r →
        e ≠ .crash r → (∀ o, e = .respond r o → o.waitPrints = true) →
        Onward (m.phase r) (m'.phase r)) ∧
    (∀ r a, Acquired requests s r a → s.phase r = .reserving →
      s.step requests (.resume r) = some (s.setPhase r (.acquired a.keyHash))) ∧
    (∀ r keyHash, s.phase r = .acquired keyHash →
      ∃ s', s.step requests (.invoke r) = some s' ∧ s'.phase r = .awaiting keyHash) ∧
    (∀ r keyHash, s.phase r = .awaiting keyHash → ∀ o : PortOutcome, o.isRegular = true →
      o.waitPrints = true → ∃ s' a row record, s.step requests (.respond r o) = some s' ∧
        s'.phase r = .completing a.envelope ∧
        s'.calls.call (.complete r) = .complete a .updateTransaction ∧
        a.keyHash = keyHash ∧ a.expectedVersion = 0 ∧ a.transaction.version = 1 ∧
        a.transaction.transactionId = (requests r).command.transactionId ∧
        Untouched s'.tables (requests r).command.transactionId keyHash row record) ∧
    (∀ r exc, s.phase r = .finished (.error exc) → brokenInvariant exc = false) ∧
    (∀ r a exc, s.calls.call (.reserve r) = .reserve a (.rollback exc) →
      brokenInvariant exc = false) ∧
    (∀ r a exc, s.calls.call (.complete r) = .complete a (.rollback exc) →
      brokenInvariant exc = false) := by
  have hreach : Reachable (Requests.step requests) (init T) s := ⟨es, hrun⟩
  refine ⟨?_, ?_, ?_, ?_, ?_, ?_, ?_⟩
  · intro m e m' hmem r a hacquired hidle hcancel hcrash hprints
    rcases mem_transitions hmem with ⟨hm, hstep⟩
    have he : ∀ r o, e = .respond r o → o.isRegular = true := by
      rintro r o rfl
      exact hregular r o (event_mem_of_mem_transitions hmem)
    exact hacquired.onward hm hadmitted he hstep hprints hidle hcancel hcrash
  · intro r a hacquired hreserving
    exact hacquired.resumes hreserving
  · intro r keyHash hacquired
    exact invokes (hadmitted r) hacquired
  · intro r keyHash hawaiting o ho hprints
    exact responds hreach (hadmitted r) hawaiting ho hprints
  · -- the exceptions that a request or one of its calls ends with
    intro r exc hphase
    exact (raises_of_run hT hadmitted hregular hrun hphase).not_brokenInvariant
  · intro r a exc hcall
    have hraises : Raises exc :=
      .inr (.inl (Coordination.reserveResult_of_reachable hT (calls_reachable hreach) hcall))
    exact hraises.not_brokenInvariant
  · intro r a exc hcall
    have hraises : Raises exc := .inr (.inr (completeResult_of_reachable hT hreach hadmitted hcall))
    exact hraises.not_brokenInvariant

/-- The sample request waits for the port; an unrecognized answer takes it to `complete`. -/
theorem owner_reaches_complete_unrecognized :
    ∃ s s' : Requests, ∃ a row record,
      s.step (fun _ => sampleRequest) (.respond 0 .unrecognized) = some s' ∧
      s'.calls.call (.complete 0) = .complete a .updateTransaction ∧
      a.transaction.version = 1 ∧
      Untouched s'.tables (py "txn_1") a.keyHash row record := by
  rcases sampleRun_awaiting with ⟨s, keyHash, hrun, hawaiting⟩
  rcases (owner_reaches_complete schemaOk_empty (fun _ => sample_admitted) sampleRun
    (by simp [sampleRun]) hrun).2.2.2.1 0 keyHash hawaiting .unrecognized rfl rfl with
    ⟨s', a, row, record, hstep, _, hcall, hkey, _, hversion, _, huntouched⟩
  rw [← hkey] at huntouched
  exact ⟨s, s', a, row, record, hstep, hcall, hversion, huntouched⟩

/-- The port of the sample request raises a `PaymentNetworkRateLimitError` whose `retry_after` has 4301
digits: the request ends with a `ValueError`, it has not called `complete`, and its record stays
`IN_PROGRESS`. -/
theorem owner_stops_at_hugeWait :
    let o : PortOutcome := .raised (.rateLimit ((10 ^ maxStrDigits : Nat) : Int))
    o.isRegular = true ∧ ∃ s s' : Requests, ∃ keyHash row record,
      exec (Requests.step fun _ => sampleRequest) (init emptyTables) sampleRun = some s ∧
      s.phase 0 = .awaiting keyHash ∧
      s.step (fun _ => sampleRequest) (.respond 0 o) = some s' ∧
      s'.phase 0 = .finished (.error (.foreign (py "ValueError"))) ∧
      s'.calls.call (.complete 0) = .idle ∧
      Untouched s'.tables (py "txn_1") keyHash row record := by
  intro o
  have hdigits : (((10 ^ maxStrDigits : Nat) : Int)).natAbs = 10 ^ maxStrDigits :=
    Int.natAbs_natCast _
  have hprints : printable ((10 ^ maxStrDigits : Nat) : Int) ≠ true := by
    rw [ne_eq, printable_iff, hdigits]
    exact Nat.lt_irrefl _
  rcases sampleRun_awaiting with ⟨s, keyHash, hrun, hawaiting⟩
  rcases responds_unprintable ⟨_, hrun⟩ sample_admitted hawaiting hprints with
    ⟨s', row, record, hstep, hphase, hcall, huntouched⟩
  exact ⟨rfl, s, s', keyHash, row, record, hrun, hawaiting, hstep, hphase, hcall, huntouched⟩

end Requests

end System
end TransactionPlatform
