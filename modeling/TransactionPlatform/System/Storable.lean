import TransactionPlatform.Infrastructure.Locks
import TransactionPlatform.System.Completion

/-!
# Storable — when a confirmed outcome fits the schema

The adapter accepts any non-blank text from the provider; the columns take 128 characters of
PostgreSQL text.  An outcome is recorded exactly when its stripped texts are such text: then both
updates of `complete` pass the column types and the checks, and nobody can make them wait, and
otherwise the first update is a data error.
-/

namespace TransactionPlatform
namespace System

open Text Domain Ports Common Application Adapters Api Infrastructure ReadCommitted Transition

/-! ## Texts and columns -/

/-- A text `VARCHAR(n)` takes as it is. -/
def storesAsIs (n : Nat) (s : PyStr) : Bool :=
  pgText s && s.length ≤ n

/-- A text whose excess over `n` characters is spaces ends in a space. -/
theorem getLast_of_spaces {n : Nat} {s : PyStr} (hne : s ≠ []) (hlong : n < s.length)
    (h : (s.drop n).all (fun c => decide (c = 0x20)) = true) : s.getLast hne = 0x20 := by
  have hdrop : s.drop n ≠ [] := by
    simp only [ne_eq, List.drop_eq_nil_iff]
    omega
  have hmem : s.getLast hne ∈ s.drop n := by
    rw [← List.getLast_drop hdrop]
    exact List.getLast_mem hdrop
  simpa using List.all_eq_true.mp h _ hmem

/-- A stripped text does not end in a space, so `VARCHAR(n)` never cuts it. -/
theorem varchar_stripped {s : PyStr} (h : strip s = s) (n : Nat) :
    varchar n s = if storesAsIs n s then some s else none := by
  unfold varchar storesAsIs
  by_cases htext : pgText s = true
  · by_cases hlength : s.length ≤ n
    · simp [htext, hlength]
    · have hne : s ≠ [] := by
        rintro rfl
        simp at hlength
      have hspaces : (s.drop n).all (fun c => decide (c = 0x20)) = false := by
        apply Bool.eq_false_iff.mpr
        intro hall
        have hkept : strip s ≠ [] := by rwa [h]
        have hnot := List.rdropWhile_last_not isSpace (s.dropWhile isSpace) hkept
        have hlast : (strip s).getLast hkept = s.getLast hne := by
          simp only [h]
        apply hnot
        -- the last character of `strip s`, that is of `s`, would be a space
        have hspace : (strip s).getLast hkept = 0x20 :=
          hlast.trans (getLast_of_spaces hne (by omega) hall)
        change isSpace ((strip s).getLast hkept) = true
        rw [hspace]
        decide
      simp [htext, hlength, hspaces]
  · simp [htext]

theorem pgText_textOfInt (n : Int) : pgText (textOfInt n) = true := by
  apply pgText_of_ascii
  intro c hc
  have hrange := mem_textOfInt hc
  omega

/-! ## Outcomes -/

/-- Every text of an outcome fits its column. -/
def storable : PortOutcome → Bool
  | .authorized networkReference authorizationCode =>
      storesAsIs 128 networkReference && storesAsIs 128 authorizationCode
  | .declined declineCode => storesAsIs 128 declineCode
  | _ => true

/-- The texts of an outcome are stripped. -/
def Trimmed : PortOutcome → Prop
  | .authorized networkReference authorizationCode =>
      strip networkReference = networkReference ∧ strip authorizationCode = authorizationCode
  | .declined declineCode => strip declineCode = declineCode
  | _ => True

theorem trimmed_authorize (x : Exchange) : Trimmed (authorize x) := by
  have hmeaning := meaning x
  cases ho : authorize x with
  | authorized n c =>
      rcases (hmeaning.authorized_iff n c).mp ho with ⟨_, _, s, t, _, _, _, _, _, _, rfl, _, rfl, _⟩
      exact ⟨strip_strip s, strip_strip t⟩
  | declined d =>
      rcases (hmeaning.declined_iff d).mp ho with ⟨_, _, s, _, _, _, _, _, rfl, _⟩
      exact strip_strip s
  | _ =>
      trivial

/-- The bound texts of the first update. -/
theorem transactionUpdate_settled {id keyHash : PyStr} {o : PortOutcome} {a : CompleteArgs}
    (h : settlement id keyHash o = .ok a) (htrimmed : Trimmed o) (hid : pgText id = true)
    (now : Timestamp) :
    transactionUpdate a now = if storable o then
      some fun row =>
        { row with
          status := a.transaction.status.value
          pendingOperation := a.transaction.pendingOperation.map PendingOperation.value
          version := 1
          networkReference := a.networkReference
          authorizationCode := a.authorizationCode
          declineCode := a.declineCode
          updatedAt := now }
    else none := by
  have hzero : integer 0 = true := by decide
  have hone : integer 1 = true := by decide
  -- only a confirmed outcome has texts of the network to store
  cases o with
  | authorized n c =>
      cases h
      have hn := varchar_stripped htrimmed.1 128
      have hc := varchar_stripped htrimmed.2 128
      cases hnfits : storesAsIs 128 n <;> cases hcfits : storesAsIs 128 c <;>
        simp [transactionUpdate, settled, varcharOpt, storable, hn, hc, hnfits, hcfits, hid, hzero,
          hone]
  | declined d =>
      cases h
      have hd := varchar_stripped htrimmed 128
      cases hfits : storesAsIs 128 d <;>
        simp [transactionUpdate, settled, varcharOpt, storable, hd, hfits, hid, hzero, hone]
  | escaped e =>
      cases h
  | raised e =>
      cases e with
      | rateLimit n =>
          rcases settlement_rateLimit h with ⟨-, rfl⟩
          simp [transactionUpdate, settled, varcharOpt, storable, hid, hzero, hone]
      | _ =>
          cases h
          simp [transactionUpdate, settled, ambiguousArgs, varcharOpt, storable, hid, hzero, hone]
  | unrecognized =>
      cases h
      simp [transactionUpdate, settled, ambiguousArgs, varcharOpt, storable, hid, hzero, hone]

/-- Where a settled transaction stands. -/
theorem settlement_status {id keyHash : PyStr} {o : PortOutcome} {a : CompleteArgs}
    (h : settlement id keyHash o = .ok a) :
    (a.transaction.pendingOperation = none ∧ (a.transaction.status = .authorized ∨
      a.transaction.status = .declined ∨ a.transaction.status = .failed)) ∨
    (a.transaction.pendingOperation = some .authorization ∧
      a.transaction.status = .pendingReconciliation) :=
  settlement_induction (P := fun a => (a.transaction.pendingOperation = none ∧
      (a.transaction.status = .authorized ∨ a.transaction.status = .declined ∨
        a.transaction.status = .failed)) ∨
    (a.transaction.pendingOperation = some .authorization ∧
      a.transaction.status = .pendingReconciliation))
    (fun _ _ => .inl ⟨rfl, .inl rfl⟩) (fun _ => .inl ⟨rfl, .inr (.inl rfl)⟩)
    (fun _ _ => .inl ⟨rfl, .inr (.inr rfl)⟩) (.inl ⟨rfl, .inr (.inr rfl)⟩) (.inr ⟨rfl, rfl⟩) h

/-- The updated row passes the checks of its table. -/
theorem admitted_settled {id keyHash : PyStr} {o : PortOutcome} {a : CompleteArgs}
    (h : settlement id keyHash o = .ok a) {now : Timestamp} {set : TransactionRow → TransactionRow}
    (hset : transactionUpdate a now = some set) {row : TransactionRow}
    (hrow : row.admitted = true) : (set row).admitted = true := by
  rcases transactionUpdate_fields hset row with
    ⟨hid, hmerchant, hamount, hcurrency, _, hstatus, hpending, hversion, _⟩
  have hone : a.transaction.version = 1 := (settlement_ok h).2.2.1
  have hchecks : (set row).statusValid = true ∧ (set row).pendingOperationValid = true ∧
      (set row).reconciliationInvariant = true := by
    unfold TransactionRow.statusValid TransactionRow.pendingOperationValid
      TransactionRow.reconciliationInvariant
    rw [hstatus, hpending]
    rcases settlement_status h with ⟨hop, hst | hst | hst⟩ | ⟨hop, hst⟩ <;> rw [hop, hst] <;> decide
  simp only [TransactionRow.admitted, Bool.and_eq_true] at hrow ⊢
  rcases hrow with ⟨⟨⟨⟨⟨⟨⟨htid, htmerchant⟩, htamount⟩, htcurrency⟩, _⟩, _⟩, _⟩, _⟩
  rw [hid, hmerchant, hamount, hcurrency, hversion, hone]
  exact ⟨⟨⟨⟨⟨⟨⟨htid, htmerchant⟩, htamount⟩, htcurrency⟩, by decide⟩, hchecks.1⟩, hchecks.2.1⟩,
    hchecks.2.2⟩

/-! ## The stored answer -/

/-- What is stored of the answer to an outcome. -/
structure StoredAnswer (envelope : ResponseEnvelope) : Prop where
  code : envelope.statusCode = 201 ∨ envelope.statusCode = 202 ∨ envelope.statusCode = 502 ∨
    envelope.statusCode = 503
  body : ∃ members, envelope.body = .obj members
  headers : (envelope.statusCode ≠ 503 ∧ persistedHeaders envelope.headers = none) ∨
    (envelope.statusCode = 503 ∧ ∃ retryAfter : Int,
      persistedHeaders envelope.headers = some [(py "Retry-After", textOfInt retryAfter)])

theorem storedAnswer_plain {code : Int} (hcode : code = 201 ∨ code = 202 ∨ code = 502)
    (members : List (PyStr × Json)) (mediaType : Option PyStr) :
    StoredAnswer ⟨code, .obj members, [], false, mediaType⟩ where
  code := by
    rcases hcode with rfl | rfl | rfl <;> simp
  body := ⟨members, rfl⟩
  headers := by
    refine .inl ⟨?_, rfl⟩
    rcases hcode with rfl | rfl | rfl <;> simp

theorem settlement_stored {id keyHash : PyStr} {o : PortOutcome} {a : CompleteArgs}
    (h : settlement id keyHash o = .ok a) : StoredAnswer a.envelope :=
  settlement_induction (P := fun a => StoredAnswer a.envelope)
    (fun _ _ => storedAnswer_plain (by simp) _ _) (fun _ => storedAnswer_plain (by simp) _ _)
    (fun n _ => ⟨.inr (.inr (.inr rfl)), ⟨_, rfl⟩, .inr ⟨rfl, n, persistedHeaders_retryAfter _⟩⟩)
    (storedAnswer_plain (by simp) _ _) (storedAnswer_plain (by simp) _ _) h

theorem StoredAnswer.code_range {envelope : ResponseEnvelope} (h : StoredAnswer envelope) :
    100 ≤ envelope.statusCode ∧ envelope.statusCode ≤ 599 := by
  rcases h.code with hcode | hcode | hcode | hcode <;> rw [hcode] <;> decide

theorem StoredAnswer.headers_text {envelope : ResponseEnvelope} (h : StoredAnswer envelope) :
    jsonbHeaders (persistedHeaders envelope.headers) = true := by
  have hname : pgText (py "Retry-After") = true := by decide
  rcases h.headers with ⟨_, hnone⟩ | ⟨_, n, hsome⟩
  · rw [hnone]
    rfl
  · have hnumeral := joinPairs_of_isScalar (all_isScalar_textOfInt n)
    rw [hsome]
    simp [jsonbHeaders, hname, hnumeral, pgText_textOfInt]

/-- The fixed texts of the answers. -/
theorem pgText_constant : ∀ text ∈ [py "transaction_id", py "status", py "version",
    py "network_reference", py "authorization_code", py "decline_code", py "pending_operation",
    py "AUTHORIZED", py "DECLINED", py "PENDING_RECONCILIATION", py "AUTHORIZATION"],
    pgText text = true := by
  decide

theorem printable_one : printable 1 = true := by
  decide

/-- A text the server stores is one `JSONB` stores. -/
theorem pgText_joinPairs {s : PyStr} (h : pgText s = true) : pgText (joinPairs s) = true := by
  rw [joinPairs_of_isScalar (isScalar_of_pgText h)]
  exact h

theorem jsonb_authorized {id n c : PyStr} (hid : pgText id = true) (hn : pgText n = true)
    (hc : pgText c = true) : jsonb (authorizedEnvelope id n c).body = true := by
  simp [authorizedEnvelope, jsonEnvelope, jsonb_obj, Json.dumpableMembers, Json.dumpable,
    jsonbStoresMembers, jsonbStores, pgText_constant, printable_one, pgText_joinPairs, hid, hn, hc]

theorem jsonb_declined {id d : PyStr} (hid : pgText id = true) (hd : pgText d = true) :
    jsonb (declinedEnvelope id d).body = true := by
  simp [declinedEnvelope, jsonEnvelope, jsonb_obj, Json.dumpableMembers, Json.dumpable,
    jsonbStoresMembers, jsonbStores, pgText_constant, printable_one, pgText_joinPairs, hid, hd]

theorem jsonb_pending {id : PyStr} (hid : pgText id = true) :
    jsonb (pendingEnvelope id).body = true := by
  simp [pendingEnvelope, jsonEnvelope, jsonb_obj, Json.dumpableMembers, Json.dumpable,
    jsonbStoresMembers, jsonbStores, pgText_constant, printable_one, pgText_joinPairs, hid]

/-- The body of the answer to a storable outcome is a `JSONB` value. -/
theorem jsonb_settled {id keyHash : PyStr} {o : PortOutcome} {a : CompleteArgs}
    (h : settlement id keyHash o = .ok a) (hstorable : storable o = true) (hid : pgText id = true) :
    jsonb a.envelope.body = true := by
  cases o with
  | authorized n c =>
      cases h
      simp only [storable, storesAsIs, Bool.and_eq_true] at hstorable
      exact jsonb_authorized hid hstorable.1.1 hstorable.2.1
  | declined d =>
      cases h
      simp only [storable, storesAsIs, Bool.and_eq_true] at hstorable
      exact jsonb_declined hid hstorable.1
  | unrecognized =>
      cases h
      exact jsonb_pending hid
  | escaped e =>
      cases h
  | raised e =>
      cases e with
      | rateLimit n =>
          rcases settlement_rateLimit h with ⟨-, rfl⟩
          -- the time to wait is a header, so the body is the same for all of them
          have hbody : jsonb (rateLimitedProblem 0).body = true := by decide
          exact hbody
      | rejected m =>
          cases h
          have hbody : jsonb rejectedEnvelope.body = true := by decide
          exact hbody
      | _ =>
          cases h
          exact jsonb_pending hid

theorem recordUpdate_settled {id keyHash : PyStr} {o : PortOutcome} {a : CompleteArgs}
    (h : settlement id keyHash o = .ok a) (hstorable : storable o = true) (hid : pgText id = true)
    (hkey : pgText keyHash = true) (now : Timestamp) : ∃ set, recordUpdate a now = some set := by
  have hstored := settlement_stored h
  rcases settlement_ok h with ⟨hkeyArgs, hidArgs, _⟩
  have hcode : integer a.envelope.statusCode = true := by
    rcases hstored.code with hcode | hcode | hcode | hcode <;> rw [hcode] <;> decide
  have hbody := jsonb_settled h hstorable hid
  have hheaders := hstored.headers_text
  unfold recordUpdate
  rw [hkeyArgs, hidArgs, hid, hkey, hcode, hbody, hheaders]
  exact ⟨_, rfl⟩

/-- The updated record passes the checks of its table. -/
theorem admitted_recorded {id keyHash : PyStr} {o : PortOutcome} {a : CompleteArgs}
    (h : settlement id keyHash o = .ok a) {now : Timestamp}
    {set : IdempotencyRecord → IdempotencyRecord} (hset : recordUpdate a now = some set)
    {record : IdempotencyRecord} (hrecord : record.admitted = true) :
    (set record).admitted = true := by
  have hstored := settlement_stored h
  rcases recordUpdate_fields hset record with
    ⟨hkey, hfingerprint, _, _, hstatus, hcode, hbody, hheaders⟩
  have hpayload : (set record).payloadIntegrity = true := by
    rcases hstored.body with ⟨members, hmembers⟩
    simp [IdempotencyRecord.payloadIntegrity, hstatus, hcode, hbody, hmembers, noneAsNull]
  have hrange : (set record).storedStatusCodeRange = true := by
    simp [IdempotencyRecord.storedStatusCodeRange, hcode, hstored.code_range]
  have hallow : (set record).storedHeadersAllowlist = true := by
    unfold IdempotencyRecord.storedHeadersAllowlist
    rw [hheaders]
    rcases hstored.headers with ⟨_, hnone⟩ | ⟨_, n, hsome⟩
    · rw [hnone]
      rfl
    · rw [hsome]
      simp [joinedHeaders]
  simp only [IdempotencyRecord.admitted, Bool.and_eq_true] at hrecord ⊢
  -- the key and the fingerprint are those of the record that was there
  rcases hrecord with ⟨⟨⟨⟨⟨htkey, htfingerprint⟩, _⟩, _⟩, _⟩, _⟩
  rw [hkey, hfingerprint, hstatus]
  exact ⟨⟨⟨⟨⟨htkey, htfingerprint⟩, by decide⟩, hpayload⟩, hrange⟩, hallow⟩

theorem fitsTables_settled {id keyHash : PyStr} {o : PortOutcome} {a : CompleteArgs}
    (h : settlement id keyHash o = .ok a) (htrimmed : Trimmed o) (hstorable : storable o = true)
    (hid : pgText id = true) (hkey : pgText keyHash = true) : FitsTables a where
  row_fits := by
    intro now
    have hset := transactionUpdate_settled h htrimmed hid now
    rw [if_pos hstorable] at hset
    exact ⟨_, hset, fun row hrow => admitted_settled h hset hrow⟩
  record_fits := by
    intro now
    rcases recordUpdate_settled h hstorable hid hkey now with ⟨set, hset⟩
    exact ⟨set, hset, fun record hrecord => admitted_recorded h hset hrecord⟩

namespace Requests

variable {requests : Nat → Request}

/-! ## A `complete` without faults -/

/-- The event is neither a fault of the `complete` of `r` nor the death of its process. -/
def Spares (r : Nat) (e : Event) : Prop :=
  (∀ fault, e ≠ .database (.fail (.complete r) fault)) ∧ e ≠ .crash r

/-- The `complete` of `r` has met no error and has `n` statements to go. -/
def OnTrack (s : Requests) (r : Nat) (a : CompleteArgs) (n : Nat) : Prop :=
  ∃ pc, s.calls.call (.complete r) = .complete a pc ∧ pc.remaining = some n

/-- The database runs the next statement of a `complete`. -/
theorem complete_statement {s : Requests} {r : Nat} {a : CompleteArgs} {pc pc' : CompletePc}
    {now : Timestamp} {server : Server Row CallId}
    (hcall : s.calls.call (.complete r) = .complete a pc)
    (hs : completeStep s.calls.server (.complete r) a now pc = some (server, pc')) :
    ∃ s', s.step requests (.database (.step (.complete r) now)) = some s' ∧
      s'.calls.call (.complete r) = .complete a pc' ∧ s'.calls.server = server ∧
      s'.phase = s.phase := by
  let calls : Coordination CallId :=
    { (s.calls.setCall (.complete r) (.complete a pc')) with
      server := server
      log := s.calls.log ++ completeLogged (.complete r) a pc }
  have hcalls : s.calls.step (.step (.complete r) now) = some calls := by
    simp [Coordination.step, Coordination.stepCall, hcall, hs, calls]
  refine ⟨{ s with calls := calls }, ?_, ?_, rfl, rfl⟩
  · simp [step, DatabaseEvent.event, hcalls]
  · simp [calls, Coordination.setCall]

section Run

variable {T : Tables} (hT : SchemaOk T) {acceptsStr : PyStr → Bool} {r : Nat}
  (hadmitted : Admitted acceptsStr (requests r).command) {a : CompleteArgs} (hfits : FitsTables a)

include hT hadmitted hfits in
theorem onTrack_step {s s' : Requests} {e : Event}
    (hreach : Reachable (Requests.step requests) (init T) s)
    (hstep : s.step requests e = some s') (he : Spares r e) (h : ∃ n, OnTrack s r a n) :
    ∃ n, OnTrack s' r a n := by
  rcases h with ⟨n, pc, hcall, hpc⟩
  rcases step_causes hstep with hsame | ⟨ce, hcause, hce⟩
  · exact ⟨n, pc, by rw [hsame]; exact hcall, hpc⟩
  · have hargs : (s'.calls.call (.complete r)).call = some (.complete a) :=
      CallArguments.kept hce (by rw [hcall]; rfl)
    rcases CallArguments.eq_complete hargs with ⟨pc', hcall'⟩
    cases Coordination.completeOrigin_of_step hce hcall' with
    | kept hcall₀ =>
        cases hcall.symm.trans hcall₀
        exact ⟨n, pc, hcall', hpc⟩
    | started hidle =>
        cases hcall.symm.trans hidle
    | statement now pc₀ _ hcall₀ hs =>
        cases hcall.symm.trans hcall₀
        cases n with
        | zero =>
            -- a call that has returned runs no statement
            cases pc with
            | done result =>
                cases hs
            | _ =>
                cases hpc
        | succ n =>
            have hfinds := findsRow hreach hadmitted hT hcall
            rcases completeStep_advances hfits hfinds hpc now with ⟨server, pc'', hs', hpc''⟩
            cases hs.symm.trans hs'
            exact ⟨n, _, hcall', hpc''⟩
    | fault fault pc₀ o hfail =>
        subst hfail
        exact absurd hcause.fail (he.1 fault)
    | killed hkill =>
        subst hkill
        rcases hcause.kill with ⟨r', rfl, hc | hc⟩
        · cases hc
        · cases hc
          exact absurd rfl he.2

include hT hadmitted hfits in
theorem onTrack_run {s s' : Requests} (hreach : Reachable (Requests.step requests) (init T) s)
    {es : List Event} (hes : ∀ e ∈ es, Spares r e)
    (hrun : exec (Requests.step requests) s es = some s') (h : ∃ n, OnTrack s r a n) :
    ∃ n, OnTrack s' r a n := by
  have hboth : Reachable (Requests.step requests) (init T) s' ∧ ∃ n, OnTrack s' r a n := by
    refine exec_invariant_of (I := fun m => Reachable (Requests.step requests) (init T) m ∧
      ∃ n, OnTrack m r a n) (A := Spares r) ?_ ⟨hreach, h⟩ hes hrun
    rintro m e m' ⟨hm, htrack⟩ he hstep
    exact ⟨hm.next hstep, onTrack_step hT hadmitted hfits hm hstep he htrack⟩
  exact hboth.2

include hT hadmitted hfits in
/-- Its own statements take a `complete` that has met no error to the end. -/
theorem onTrack_finishes (now : Timestamp) {n : Nat} {s : Requests}
    (hreach : Reachable (Requests.step requests) (init T) s) (h : OnTrack s r a n) :
    ∃ s', exec (Requests.step requests) s
        (List.replicate n (.database (.step (.complete r) now))) = some s' ∧
      s'.calls.call (.complete r) = .complete a (.done (.ok ())) := by
  -- induction on the statements that are left
  induction n generalizing s with
  | zero =>
      rcases h with ⟨pc, hcall, hpc⟩
      refine ⟨s, rfl, ?_⟩
      cases pc with
      | done result =>
          cases result with
          | ok u =>
              exact hcall
          | error e =>
              cases hpc
      | _ =>
          cases hpc
  | succ n ih =>
      rcases h with ⟨pc, hcall, hpc⟩
      have hfinds := findsRow hreach hadmitted hT hcall
      rcases completeStep_advances hfits hfinds hpc now with ⟨server, pc', hs, hpc'⟩
      rcases complete_statement hcall hs with ⟨s₁, hstep, hcall₁, _⟩
      have htrack : OnTrack s₁ r a n := ⟨pc', hcall₁, hpc'⟩
      rcases ih (hreach.next hstep) htrack with ⟨s', hrun, hdone⟩
      refine ⟨s', ?_, hdone⟩
      rw [List.replicate_succ]
      exact exec_cons_eq_some.mpr ⟨_, hstep, hrun⟩

include hadmitted in
/-- With a value that no column takes, the first update fails; the request ends with the persistence
error of `complete` and its rows stay as they were reserved. -/
theorem refused_raises {s : Requests} (hreach : Reachable (Requests.step requests) (init T) s)
    {keyHash : PyStr} (hawaiting : s.phase r = .awaiting keyHash) {o : PortOutcome}
    (hargs : completion (requests r).command keyHash o = .ok a)
    (hrefused : ∀ now, transactionUpdate a now = none) (now : Timestamp) :
    ∃ s' row record, exec (Requests.step requests) s
        [.respond r o, .database (.step (.complete r) now), .database (.step (.complete r) now),
          .finish r] = some s' ∧
      s'.phase r = .finished (.error completionFailed) ∧
      Untouched s'.tables (requests r).command.transactionId keyHash row record := by
  rcases respond_ok hreach hawaiting hargs with ⟨s₁, hrespond, hphase₁, hcall₁, htables₁⟩
  -- the data error of the update; a version 1 does not come into its message
  have herror : transactionUpdateError a = completionFailed := by
    unfold transactionUpdateError
    rw [(settlement_ok (completion_ok hargs).2).2.2.1]
    exact valueRefused_of_printable printable_one _
  have hupdate : completeStep s₁.calls.server (.complete r) a now .updateTransaction =
      some (s₁.calls.server, .rollback completionFailed) := by
    simp [completeStep, hrefused now, herror]
  rcases complete_statement hcall₁ hupdate with ⟨s₂, hstep₂, hcall₂, hserver₂, hphase₂⟩
  -- the rollback, after which `complete` raises
  have hrollback : completeStep s₂.calls.server (.complete r) a now (.rollback completionFailed) =
      some (s₂.calls.server.rollback (.complete r), .done (.error completionFailed)) := rfl
  rcases complete_statement hcall₂ hrollback with ⟨s₃, hstep₃, hcall₃, hserver₃, hphase₃⟩
  have hfinish : s₃.step requests (.finish r) =
      some (s₃.setPhase r (.finished (.error completionFailed))) := by
    simp [step, finish, hphase₃, hphase₂, hphase₁, hcall₃]
  have htables : s₃.tables = s.tables := by
    rw [← htables₁]
    simp [Requests.tables, Coordination.tables, hserver₃, hserver₂]
  rcases awaiting_untouched hreach hadmitted hawaiting with ⟨row, record, huntouched⟩
  rw [← htables] at huntouched
  refine ⟨s₃.setPhase r (.finished (.error completionFailed)), row, record, ?_,
    setPhase_phase_self _ _ _, huntouched⟩
  exact exec_cons_eq_some.mpr ⟨s₁, hrespond, exec_cons_eq_some.mpr ⟨s₂, hstep₂,
    exec_cons_eq_some.mpr ⟨s₃, hstep₃, exec_singleton.mpr hfinish⟩⟩⟩

/-- A `complete` whose first update is refused never gets past it. -/
theorem refused_step {s s' : Requests} {e : Event} (hstep : s.step requests e = some s')
    (hrefused : ∀ now, transactionUpdate a now = none)
    (h : ∃ pc, s.calls.call (.complete r) = .complete a pc ∧
      (pc.remaining = some 3 ∨ pc.remaining = none)) :
    ∃ pc, s'.calls.call (.complete r) = .complete a pc ∧
      (pc.remaining = some 3 ∨ pc.remaining = none) := by
  rcases h with ⟨pc, hcall, hpc⟩
  rcases step_calls hstep with hsame | ⟨ce, hce⟩
  · exact ⟨pc, by rw [hsame]; exact hcall, hpc⟩
  · have hargs : (s'.calls.call (.complete r)).call = some (.complete a) :=
      CallArguments.kept hce (by rw [hcall]; rfl)
    rcases CallArguments.eq_complete hargs with ⟨pc', hcall'⟩
    refine ⟨pc', hcall', ?_⟩
    -- how the call has come to its new statement
    cases Coordination.completeOrigin_of_step hce hcall' with
    | kept hcall₀ =>
        cases hcall.symm.trans hcall₀
        exact hpc
    | started hidle =>
        cases hcall.symm.trans hidle
    | statement now pc₀ _ hcall₀ hs =>
        cases hcall.symm.trans hcall₀
        right
        generalize s'.calls.server = server at hs
        cases completeStatement_of_step hs with
        | updatedTransaction set row hset _ _ _ _ =>
            cases (hrefused now).symm.trans hset
        | updatedRecord t set record | committed t =>
            simp [CompletePc.remaining] at hpc
        | _ =>
            rfl
    | fault fault pc₀ o _ hcall₀ hfail =>
        right
        cases pc₀ <;> cases hfail <;> rfl
    | killed _ hgone =>
        subst hgone
        exact .inr rfl

end Run

/-! ## Confirmed exchanges -/

theorem remaining_le {pc : CompletePc} {n : Nat} (h : pc.remaining = some n) : n ≤ 3 := by
  cases pc with
  | done result =>
      cases result <;> cases h
      decide
  | rollback e =>
      cases h
  | gone =>
      cases h
  | _ =>
      cases h
      decide

/-- The provider's confirmed result is in both tables. -/
def RecordedIn (x : Exchange) (T : Tables) (id keyHash : PyStr) : Prop :=
  ∃ (row : TransactionRow) (record : IdempotencyRecord), T (.transaction id) = some row ∧
    T (.record keyHash) = some record ∧ record.transactionId = id ∧
    record.processingStatus = py "COMPLETED" ∧
    (∀ n c, x.AuthorizedBy n c → row.status = py "AUTHORIZED" ∧ row.networkReference = some n ∧
      row.authorizationCode = some c) ∧
    (∀ d, x.DeclinedBy d → row.status = py "DECLINED" ∧ row.declineCode = some d)

/-- The adapter accepts the exchange as `AUTHORIZED` or `DECLINED`. -/
def Confirmed (x : Exchange) : Prop :=
  (∃ n c, x.AuthorizedBy n c) ∨ ∃ d, x.DeclinedBy d

/-- The stripped texts the adapter takes from the exchange fit their columns: at most 128 characters,
no NUL and no surrogate. -/
def FitsColumns (x : Exchange) : Prop :=
  (∀ n c, x.AuthorizedBy n c → storesAsIs 128 n = true ∧ storesAsIs 128 c = true) ∧
    ∀ d, x.DeclinedBy d → storesAsIs 128 d = true

theorem storable_authorize_iff (x : Exchange) : storable (authorize x) = true ↔ FitsColumns x := by
  have hmeaning := meaning x
  constructor
  · intro h
    refine ⟨?_, ?_⟩
    · intro n c hby
      rw [(hmeaning.authorized_iff n c).mpr hby] at h
      simpa [storable] using h
    · intro d hby
      rw [(hmeaning.declined_iff d).mpr hby] at h
      exact h
  · rintro ⟨hauthorized, hdeclined⟩
    cases ho : authorize x with
    | authorized n c =>
        simpa [storable] using hauthorized n c ((hmeaning.authorized_iff n c).mp ho)
    | declined d =>
        exact hdeclined d ((hmeaning.declined_iff d).mp ho)
    | _ =>
        rfl

theorem Confirmed.isRegular {x : Exchange} (h : Confirmed x) :
    (authorize x).isRegular = true := by
  rcases h with ⟨n, c, hby⟩ | ⟨d, hby⟩
  · rw [((meaning x).authorized_iff n c).mpr hby]
    rfl
  · rw [((meaning x).declined_iff d).mpr hby]
    rfl

section Confirmed

variable {T : Tables} (hT : SchemaOk T) {s : Requests}
  (hreach : Reachable (Requests.step requests) (init T) s) {acceptsStr : PyStr → Bool} {r : Nat}
  (hadmitted : Admitted acceptsStr (requests r).command)

include hreach hadmitted in
/-- A `complete` that has returned after a confirmed exchange has recorded it. -/
theorem recordedIn_of_done {x : Exchange} (hstorable : FitsColumns x) {keyHash : PyStr}
    {a : CompleteArgs}
    (ha : settlement (requests r).command.transactionId keyHash (authorize x) = .ok a)
    (hdone : s.calls.call (.complete r) = .complete a (.done (.ok ()))) :
    RecordedIn x s.tables (requests r).command.transactionId keyHash := by
  rcases (Coordination.logInv_of_reachable (calls_reachable hreach)).completed _ _ hdone with
    ⟨now, hlogged⟩
  rcases records_of_logged hreach hadmitted hlogged with ⟨reserved, row, record, _, hrecords⟩
  rcases settlement_ok ha with ⟨hkey, hid, _⟩
  -- a text that fits its column is stored unchanged
  have hstores : ∀ {text : PyStr} {column : Option PyStr}, storesAsIs 128 text = true →
      varcharOpt 128 (some text) = some column → column = some text := by
    intro text column hfits hcolumn
    simp only [storesAsIs, Bool.and_eq_true, decide_eq_true_eq] at hfits
    simp only [varcharOpt, varchar, hfits.1, hfits.2, if_true, Option.map_some,
      Option.some.injEq] at hcolumn
    exact hcolumn.symm
  refine ⟨row, record, hid ▸ hrecords.row_eq, hkey ▸ hrecords.record_eq,
    hrecords.linked.trans hid, hrecords.completed, ?_, ?_⟩
  · -- authorized: the reference and the code have been stored as they are
    intro n c hby
    rcases hstorable.1 n c hby with ⟨hn, hc⟩
    rw [((meaning x).authorized_iff n c).mpr hby] at ha
    cases ha
    exact ⟨hrecords.status, hstores hn hrecords.networkReference,
      hstores hc hrecords.authorizationCode⟩
  · intro d hby
    have hd := hstorable.2 d hby
    rw [((meaning x).declined_iff d).mpr hby] at ha
    cases ha
    exact ⟨hrecords.status, hstores hd hrecords.declineCode⟩

include hreach in
/-- The reservation of a request that awaits the port has stored its id and its key. -/
theorem awaiting_texts {keyHash : PyStr} (hawaiting : s.phase r = .awaiting keyHash) :
    pgText (requests r).command.transactionId = true ∧ pgText keyHash = true := by
  have hphase := (callsInv_of_reachable hreach r).phase
  rw [hawaiting] at hphase
  rcases hphase with ⟨hidle, reserved, hacquired, rfl⟩
  rcases hacquired.rows_fresh hreach (unsettled_of_idle hidle) with
    ⟨_, row, record, _, hrow, hrecord, _⟩
  refine ⟨?_, (varchar_cases (recordInsert_fields hrecord).1).1⟩
  rw [← (reserveArgs_ok hacquired.1).2.2.1]
  exact (varchar_cases (transactionInsert_fields hrow).1).1

include hT hreach hadmitted in
/-- A storable outcome starts a `complete` which, without a fault of its own, is three statements
from its end and never waits. -/
theorem storable_completes {keyHash : PyStr} (hawaiting : s.phase r = .awaiting keyHash)
    {o : PortOutcome} (htrimmed : Trimmed o) (hstorable : storable o = true) {a : CompleteArgs}
    (ha : settlement (requests r).command.transactionId keyHash o = .ok a) :
    ∃ s₁, s.step requests (.respond r o) = some s₁ ∧ s₁.phase r = .completing a.envelope ∧
      s₁.calls.call (.complete r) = .complete a .updateTransaction ∧
      ∀ es s₂, exec (Requests.step requests) s₁ es = some s₂ → (∀ e ∈ es, Spares r e) →
        ∀ now, ∃ n s₃, n ≤ 3 ∧
          exec (Requests.step requests) s₂
            (List.replicate n (.database (.step (.complete r) now))) = some s₃ ∧
          s₃.calls.call (.complete r) = .complete a (.done (.ok ())) := by
  have hargs : completion (requests r).command keyHash o = .ok a := by
    rw [completion_eq hadmitted.transactionId_nonblank]
    exact ha
  rcases awaiting_texts hreach hawaiting with ⟨hid, hkey⟩
  have hfits : FitsTables a := fitsTables_settled ha htrimmed hstorable hid hkey
  rcases respond_ok hreach hawaiting hargs with ⟨s₁, hrespond, hphase₁, hcall₁, _⟩
  have hreach₁ := hreach.next hrespond
  refine ⟨s₁, hrespond, hphase₁, hcall₁, ?_⟩
  intro es s₂ hes hspares now
  have hreach₂ : Reachable (Requests.step requests) (init T) s₂ := hreach₁.trans ⟨es, hes⟩
  rcases onTrack_run hT hadmitted hfits hreach₁ hspares hes ⟨3, _, hcall₁, rfl⟩ with ⟨n, htrack⟩
  rcases onTrack_finishes hT hadmitted hfits now hreach₂ htrack with ⟨s₃, hrun, hdone⟩
  have hn : n ≤ 3 := by
    rcases htrack with ⟨pc, _, hpc⟩
    exact remaining_le hpc
  exact ⟨n, s₃, hn, hrun, hdone⟩

include hT hreach hadmitted in
/-- For every exchange the adapter accepts as `AUTHORIZED` or `DECLINED`, in every state in which
the owner of the transaction awaits it: the request calls `complete`, and in every run without a
fault of that call its remaining statements succeed and the result is recorded, exactly when the
stripped texts of the exchange fit their columns. -/
theorem confirmed_recorded_iff {keyHash : PyStr} (hawaiting : s.phase r = .awaiting keyHash)
    {x : Exchange} (hx : Confirmed x) :
    (∃ s₁ a, s.step requests (.respond r (authorize x)) = some s₁ ∧
      s₁.calls.call (.complete r) = .complete a .updateTransaction ∧
      ∀ es s₂, exec (Requests.step requests) s₁ es = some s₂ → (∀ e ∈ es, Spares r e) →
        ∀ now, ∃ n s₃, n ≤ 3 ∧
          exec (Requests.step requests) s₂
            (List.replicate n (.database (.step (.complete r) now))) = some s₃ ∧
          s₃.calls.call (.complete r) = .complete a (.done (.ok ())) ∧
          RecordedIn x s₃.tables (requests r).command.transactionId keyHash) ↔
      FitsColumns x := by
  rcases settlement_regular hx.isRegular (meaning x).waitPrints (requests r).command.transactionId
    keyHash with ⟨a, ha⟩
  have hargs : completion (requests r).command keyHash (authorize x) = .ok a := by
    rw [completion_eq hadmitted.transactionId_nonblank]
    exact ha
  rcases respond_ok hreach hawaiting hargs with ⟨s₁, hrespond, _, hcall₁, _⟩
  -- the reservation has stored the id, so it is a PostgreSQL text
  have hid := (awaiting_texts hreach hawaiting).1
  constructor
  · rintro ⟨s₁', a', hrespond', hcall', hruns⟩
    cases hrespond.symm.trans hrespond'
    cases hcall₁.symm.trans hcall'
    by_contra hunstorable
    have hrefused : ∀ now, transactionUpdate a now = none := by
      intro now
      rw [transactionUpdate_settled ha (trimmed_authorize x) hid now, if_neg]
      exact (storable_authorize_iff x).not.mpr hunstorable
    rcases hruns [] s₁ rfl (by simp) 0 with ⟨n, s₃, _, hrun, hdone, _⟩
    have hnever : ∃ pc, s₃.calls.call (.complete r) = .complete a pc ∧
        (pc.remaining = some 3 ∨ pc.remaining = none) :=
      exec_invariant (I := fun m => ∃ pc, m.calls.call (.complete r) = .complete a pc ∧
        (pc.remaining = some 3 ∨ pc.remaining = none))
        (fun m e m' hm hstep => refused_step hstep hrefused hm) ⟨_, hcall₁, .inl rfl⟩ hrun
    rcases hnever with ⟨pc, hcall₃, hpc⟩
    cases hdone.symm.trans hcall₃
    simp [CompletePc.remaining] at hpc
  · intro hstorable
    rcases storable_completes hT hreach hadmitted hawaiting (trimmed_authorize x)
      ((storable_authorize_iff x).mpr hstorable) ha with ⟨s₁', hrespond', _, hcall', hruns⟩
    refine ⟨s₁', a, hrespond', hcall', ?_⟩
    intro es s₂ hes hspares now
    rcases hruns es s₂ hes hspares now with ⟨n, s₃, hn, hrun, hdone⟩
    have hreach₃ : Reachable (Requests.step requests) (init T) s₃ :=
      ((hreach.next hrespond').trans ⟨es, hes⟩).trans ⟨_, hrun⟩
    exact ⟨n, s₃, hn, hrun, hdone, recordedIn_of_done hreach₃ hadmitted hstorable ha hdone⟩

end Confirmed

/-- The sample request is authorized with texts that fit. -/
theorem confirmed_recorded_sample :
    let x : Exchange := .response
      { statusCode := 200
        headers := []
        json := .ok (.obj [(py "outcome", .str (py "AUTHORIZED")),
          (py "network_reference", .str (py " net-1 ")), (py "authorization_code", .str (py "A1"))]) }
    ∃ s s₃ : Requests, ∃ keyHash, s.phase 0 = .awaiting keyHash ∧
      Reachable (Requests.step fun _ => sampleRequest) s s₃ ∧
      RecordedIn x s₃.tables (py "txn_1") keyHash := by
  intro x
  rcases sampleRun_awaiting with ⟨s, keyHash, hrun, hawaiting⟩
  have hmeaning := meaning x
  have hauthorized : authorize x = .authorized (py "net-1") (py "A1") := by decide
  have hconfirmed : Confirmed x :=
    .inl ⟨_, _, (hmeaning.authorized_iff (py "net-1") (py "A1")).mp hauthorized⟩
  have hstorable : FitsColumns x := by
    apply (storable_authorize_iff x).mp
    rw [hauthorized]
    decide
  rcases (confirmed_recorded_iff schemaOk_empty ⟨_, hrun⟩ sample_admitted hawaiting
    hconfirmed).mpr hstorable with ⟨s₁, a, hrespond, _, hruns⟩
  rcases hruns [] s₁ rfl (by simp) 9 with ⟨n, s₃, _, hown, _, hrecorded⟩
  exact ⟨s, s₃, keyHash, hawaiting, ⟨_, exec_cons_eq_some.mpr ⟨s₁, hrespond, hown⟩⟩, hrecorded⟩

/-- A network reference of 129 characters: the adapter accepts it, `complete` raises, and the
transaction stays `CREATED` with its record `IN_PROGRESS`. -/
theorem longReference_strands :
    let reference : PyStr := List.replicate 129 0x4E
    let x : Exchange := .response
      { statusCode := 200
        headers := []
        json := .ok (.obj [(py "outcome", .str (py "AUTHORIZED")),
          (py "network_reference", .str reference), (py "authorization_code", .str (py "A1"))]) }
    x.AuthorizedBy reference (py "A1") ∧
      ∃ s s' : Requests, ∃ keyHash row record,
        exec (Requests.step fun _ => sampleRequest) (init emptyTables) sampleRun = some s ∧
        s.phase 0 = .awaiting keyHash ∧
        exec (Requests.step fun _ => sampleRequest) s
          [.respond 0 (authorize x), .database (.step (.complete 0) 9),
            .database (.step (.complete 0) 9), .finish 0] = some s' ∧
        s'.phase 0 = .finished (.error completionFailed) ∧
        Untouched s'.tables (py "txn_1") keyHash row record := by
  intro reference x
  have hauthorized : authorize x = .authorized reference (py "A1") := by decide +kernel
  rcases sampleRun_awaiting with ⟨s, keyHash, hrun, hawaiting⟩
  refine ⟨((meaning x).authorized_iff reference (py "A1")).mp hauthorized, ?_⟩
  have hargs : completion sampleRequest.command keyHash (authorize x) = .ok (settled (py "txn_1")
      keyHash .authorized none (authorizedEnvelope (py "txn_1") reference (py "A1"))
      (some reference) (some (py "A1")) none) := by
    rw [hauthorized]
    exact completion_eq sample_admitted.transactionId_nonblank keyHash _
  have hrefused : varcharOpt 128 (some reference) = none := by decide +kernel
  rcases refused_raises sample_admitted ⟨_, hrun⟩ hawaiting hargs
    (fun now => by simp [transactionUpdate, settled, hrefused]) 9 with
    ⟨s', row, record, hsteps, hphase, huntouched⟩
  exact ⟨s, s', keyHash, row, record, hrun, hawaiting, hsteps, hphase, huntouched⟩

end Requests

end System
end TransactionPlatform
