import TransactionPlatform.Application.IdempotentOrchestrator

/-!
# Outcomes — what a port outcome becomes

The service, the entity's state machine and the envelope mapping together are one table from port
outcomes to the arguments of `complete`.  `settlement` is that table; `completion_eq` says that the
composed code computes it for every command whose transaction id the entity accepts.
-/

namespace TransactionPlatform
namespace Application

open Text Domain Ports

/-! ## The table -/

/-- The arguments of `complete` for an outcome: the transaction has left `CREATED` by one step. -/
def settled (id keyHash : PyStr) (status : TransactionStatus) (pending : Option PendingOperation)
    (envelope : ResponseEnvelope) (networkReference authorizationCode declineCode : Option PyStr) :
    CompleteArgs :=
  { keyHash := keyHash
    transaction := ⟨id, status, 1, pending⟩
    expectedVersion := 0
    envelope := envelope
    networkReference := networkReference
    authorizationCode := authorizationCode
    declineCode := declineCode }

def authorizedEnvelope (id networkReference authorizationCode : PyStr) : ResponseEnvelope :=
  jsonEnvelope 201 (.obj
    [(py "transaction_id", .str id), (py "status", .str (py "AUTHORIZED")), (py "version", .int 1),
      (py "network_reference", .str networkReference),
      (py "authorization_code", .str authorizationCode)])

def declinedEnvelope (id declineCode : PyStr) : ResponseEnvelope :=
  jsonEnvelope 201 (.obj
    [(py "transaction_id", .str id), (py "status", .str (py "DECLINED")), (py "version", .int 1),
      (py "decline_code", .str declineCode)])

def pendingEnvelope (id : PyStr) : ResponseEnvelope :=
  jsonEnvelope 202 (.obj
    [(py "transaction_id", .str id), (py "status", .str (py "PENDING_RECONCILIATION")),
      (py "version", .int 1), (py "pending_operation", .str (py "AUTHORIZATION"))])

def ambiguousArgs (id keyHash : PyStr) : CompleteArgs :=
  settled id keyHash .pendingReconciliation (some .authorization) (pendingEnvelope id) none none none

/-- What `complete` is called with; an exception that escaped the port escapes the request, and so does
the `ValueError` of a waiting time with too many digits. -/
def settlement (id keyHash : PyStr) : PortOutcome → Except Exc CompleteArgs
  | .authorized n c =>
      .ok (settled id keyHash .authorized none (authorizedEnvelope id n c) (some n) (some c) none)
  | .declined d =>
      .ok (settled id keyHash .declined none (declinedEnvelope id d) none none (some d))
  | .raised (.rateLimit n) =>
      if printable n then .ok (settled id keyHash .failed none (rateLimitedProblem n) none none none)
      else .error (.foreign (py "ValueError"))
  | .raised (.rejected _) => .ok (settled id keyHash .failed none rejectedEnvelope none none none)
  | .raised (.timeout _) => .ok (ambiguousArgs id keyHash)
  | .raised (.invalidResponse _) => .ok (ambiguousArgs id keyHash)
  | .raised (.unavailable _) => .ok (ambiguousArgs id keyHash)
  | .unrecognized => .ok (ambiguousArgs id keyHash)
  | .escaped e => .error e

/-! ## The texts of the envelopes -/

theorem isUnicode_authorized {id n c : PyStr} (hid : id.all isScalar = true)
    (hn : n.all isScalar = true) (hc : c.all isScalar = true) :
    (authorizedEnvelope id n c).body.isUnicode = true := by
  simp only [authorizedEnvelope, jsonEnvelope, Json.isUnicode, Json.isUnicodeMembers,
    all_isScalar_py, hid, hn, hc, Dict.get_cons, py_inj]
  rfl

theorem isUnicode_declined {id d : PyStr} (hid : id.all isScalar = true)
    (hd : d.all isScalar = true) : (declinedEnvelope id d).body.isUnicode = true := by
  simp only [declinedEnvelope, jsonEnvelope, Json.isUnicode, Json.isUnicodeMembers,
    all_isScalar_py, hid, hd, Dict.get_cons, py_inj]
  rfl

theorem isUnicode_pending {id : PyStr} (hid : id.all isScalar = true) :
    (pendingEnvelope id).body.isUnicode = true := by
  simp only [pendingEnvelope, jsonEnvelope, Json.isUnicode, Json.isUnicodeMembers,
    all_isScalar_py, hid, Dict.get_cons, py_inj]
  rfl

theorem isUnicode_problem (problemType title : String) (status : Int) (detail : String) :
    (problemBody (py problemType) (py title) status (py detail)).isUnicode = true := by
  simp only [problemBody, Json.isUnicode, Json.isUnicodeMembers, all_isScalar_py, Dict.get_cons,
    py_inj]
  rfl

/-! ## The code computes the table -/

theorem new_eq {id : PyStr} (h : strip id ≠ []) : Transaction.new id = .ok ⟨id, .created, 0, none⟩ := by
  simp [Transaction.new, Transaction.init, h, Transaction.validatePending]

theorem new_ok {id : PyStr} {t : Transaction} (h : Transaction.new id = .ok t) : strip id ≠ [] := by
  intro hblank
  simp [Transaction.new, Transaction.init, hblank] at h

theorem completion_eq {command : AuthorizeTransactionCommand} (h : strip command.transactionId ≠ [])
    (keyHash : PyStr) (outcome : PortOutcome) :
    completion command keyHash outcome = settlement command.transactionId keyHash outcome := by
  cases outcome with
  | authorized n c =>
      simp only [completion, execute, new_eq h]
      rfl
  | declined d =>
      simp only [completion, execute, new_eq h]
      rfl
  | unrecognized =>
      simp only [completion, execute, new_eq h]
      rfl
  | raised e =>
      cases e with
      | rateLimit n =>
          simp only [completion, execute, new_eq h, settlement]
          -- the envelope is made last, once the entity has changed
          change (rateLimitedEnvelope n >>= fun envelope =>
            pure (settled command.transactionId keyHash .failed none envelope none none none)) = _
          unfold rateLimitedEnvelope
          split <;> rfl
      | _ =>
          simp only [completion, execute, new_eq h]
          rfl
  | escaped e =>
      simp only [completion, execute, new_eq h]
      rfl

/-- `complete` is only called for a transaction id the entity accepts. -/
theorem completion_ok {command : AuthorizeTransactionCommand} {keyHash : PyStr}
    {outcome : PortOutcome} {a : CompleteArgs} (h : completion command keyHash outcome = .ok a) :
    strip command.transactionId ≠ [] ∧
      settlement command.transactionId keyHash outcome = .ok a := by
  have hid : strip command.transactionId ≠ [] := by
    unfold completion execute at h
    cases hnew : Transaction.new command.transactionId with
    | ok t =>
        exact new_ok hnew
    | error e =>
        rw [hnew] at h
        cases h
  rw [completion_eq hid] at h
  exact ⟨hid, h⟩

theorem settlement_rateLimit {id keyHash : PyStr} {n : Int} {a : CompleteArgs}
    (h : settlement id keyHash (.raised (.rateLimit n)) = .ok a) :
    printable n = true ∧
      a = settled id keyHash .failed none (rateLimitedProblem n) none none none := by
  simp only [settlement] at h
  split at h
  · rename_i hprints
    cases h
    exact ⟨hprints, rfl⟩
  · cases h

/-- A property of the arguments holds whatever the outcome, if it holds in each row of the table. -/
theorem settlement_induction {id keyHash : PyStr} {P : CompleteArgs → Prop}
    (hauthorized : ∀ n c, P (settled id keyHash .authorized none (authorizedEnvelope id n c) (some n)
      (some c) none))
    (hdeclined : ∀ d, P (settled id keyHash .declined none (declinedEnvelope id d) none none (some d)))
    (hlimited : ∀ n, printable n = true →
      P (settled id keyHash .failed none (rateLimitedProblem n) none none none))
    (hrejected : P (settled id keyHash .failed none rejectedEnvelope none none none))
    (hambiguous : P (ambiguousArgs id keyHash)) {outcome : PortOutcome} {a : CompleteArgs}
    (h : settlement id keyHash outcome = .ok a) : P a := by
  cases outcome with
  | authorized n c =>
      cases h
      exact hauthorized n c
  | declined d =>
      cases h
      exact hdeclined d
  | unrecognized =>
      cases h
      exact hambiguous
  | raised e =>
      cases e with
      | rateLimit n =>
          rcases settlement_rateLimit h with ⟨hprints, rfl⟩
          exact hlimited n hprints
      | rejected message =>
          cases h
          exact hrejected
      | _ =>
          cases h
          exact hambiguous
  | escaped e =>
      cases h

/-- Whatever the outcome, `complete` gets the request's key and transaction, one version on. -/
theorem settlement_ok {id keyHash : PyStr} {outcome : PortOutcome} {a : CompleteArgs}
    (h : settlement id keyHash outcome = .ok a) :
    a.keyHash = keyHash ∧ a.transaction.transactionId = id ∧ a.transaction.version = 1 ∧
      a.expectedVersion = 0 :=
  settlement_induction (P := fun a => a.keyHash = keyHash ∧ a.transaction.transactionId = id ∧
      a.transaction.version = 1 ∧ a.expectedVersion = 0)
    (fun _ _ => ⟨rfl, rfl, rfl, rfl⟩) (fun _ => ⟨rfl, rfl, rfl, rfl⟩)
    (fun _ _ => ⟨rfl, rfl, rfl, rfl⟩) ⟨rfl, rfl, rfl, rfl⟩ ⟨rfl, rfl, rfl, rfl⟩ h

/-- What `complete` is called with is a first answer, no replay. -/
theorem settlement_isReplay {id keyHash : PyStr} {outcome : PortOutcome} {a : CompleteArgs}
    (h : settlement id keyHash outcome = .ok a) : a.envelope.isReplay = false :=
  settlement_induction (P := fun a => a.envelope.isReplay = false) (fun _ _ => rfl) (fun _ => rfl)
    (fun _ _ => rfl) rfl rfl h

/-- Every outcome within the port's protocol leads to `complete`, if its waiting time prints. -/
theorem settlement_regular {outcome : PortOutcome} (h : outcome.isRegular = true)
    (hprints : outcome.waitPrints = true) (id keyHash : PyStr) :
    ∃ a, settlement id keyHash outcome = .ok a := by
  cases outcome with
  | raised e =>
      cases e with
      | rateLimit n =>
          exact ⟨_, if_pos hprints⟩
      | _ =>
          exact ⟨_, rfl⟩
  | escaped e =>
      cases h
  | _ =>
      exact ⟨_, rfl⟩

/-- What goes wrong after a regular outcome is the text of its waiting time. -/
theorem settlement_error {outcome : PortOutcome} (h : outcome.isRegular = true) {id keyHash : PyStr}
    {e : Exc} (herror : settlement id keyHash outcome = .error e) :
    outcome.waitPrints = false ∧ e = .foreign (py "ValueError") := by
  cases hprints : outcome.waitPrints with
  | true =>
      rcases settlement_regular h hprints id keyHash with ⟨a, ha⟩
      cases ha.symm.trans herror
  | false =>
      -- only a rate limit has a waiting time
      cases outcome with
      | raised e' =>
          cases e' with
          | rateLimit n =>
              have hnot : ¬ printable n = true := Bool.eq_false_iff.mp hprints
              rw [settlement, if_neg hnot] at herror
              cases herror
              exact ⟨rfl, rfl⟩
          | _ =>
              cases hprints
      | _ =>
          cases hprints

end Application
end TransactionPlatform
