import TransactionPlatform.Domain.Entity
import TransactionPlatform.Lib.Ledger
import TransactionPlatform.System.Exchanges
import TransactionPlatform.System.Replay
import TransactionPlatform.System.StoreInvariant

/-!
# Refinement — the tables keep a ledger of domain entities

What the two tables are for, without statements, sessions and columns: a ledger whose keys are the
hashes of the idempotency keys, whose subjects are transactions, each a `Transaction` entity moved by
its own mutators, and whose answers are envelopes.  Along every run the tables are such a ledger, and
the log of commits is its history.
-/

namespace TransactionPlatform
namespace System

open Text Domain Ports Common Application Adapters Api Infrastructure ReadCommitted Transition

/-! ## The entities -/

def statusOf (text : PyStr) : Option TransactionStatus :=
  [.created, .authorized, .declined, .captured, .refunded, .pendingReconciliation, .failed].find?
    fun status => status.value = text

def pendingOf : Option PyStr → Option (Option PendingOperation)
  | none => some none
  | some text =>
      ([.authorization, .capture, .refund].find? fun operation => operation.value = text).map some

/-- The entity a row stands for: what the constructor makes of its columns. -/
def entity (row : TransactionRow) : Option Transaction :=
  match statusOf row.status, pendingOf row.pendingOperation with
  | some status, some operation =>
      (Transaction.init (.inst row.transactionId) (.inst status) (.inst row.version)
        (operation.map .inst)).toOption
  | _, _ => none

theorem statusOf_value (status : TransactionStatus) : statusOf status.value = some status := by
  cases status <;> decide

theorem pendingOf_value (operation : Option PendingOperation) :
    pendingOf (operation.map PendingOperation.value) = some operation := by
  cases operation with
  | none =>
      rfl
  | some operation =>
      cases operation <;> decide

theorem entity_eq {row : TransactionRow} {t : Transaction} (hid : row.transactionId = t.transactionId)
    (hstatus : row.status = t.status.value) (hversion : row.version = t.version)
    (hpending : row.pendingOperation = t.pendingOperation.map PendingOperation.value)
    (h : t.WellFormed) : entity row = some t := by
  simp only [entity, hid, hstatus, hversion, hpending, statusOf_value, pendingOf_value, h.init_eq]
  rfl

/-- A transaction on its first day. -/
def newEntity (id : PyStr) : Transaction :=
  ⟨id, .created, 0, none⟩

/-- A call of a mutator that returns. -/
def mutate (t : Transaction) (c : Transaction.Call) : Option Transaction :=
  match t.call c with
  | (.ok (), t') => some t'
  | (.error _, _) => none

/-- The call the service has made of a new entity that it has settled. -/
def settlingCall (t : Transaction) : Transaction.Call :=
  match t.pendingOperation with
  | some operation => .markPendingReconciliation (.inst operation)
  | none => .transitionTo (.inst t.status)

theorem newEntity_wellFormed {id : PyStr} (h : strip id ≠ []) : (newEntity id).WellFormed where
  id_nonblank := h
  version_nonneg := le_refl _
  pending_iff := by simp [newEntity]

/-- What `complete` is called with is a new entity after one call that has returned. -/
theorem mutate_settlement {id keyHash : PyStr} {o : PortOutcome} {a : CompleteArgs}
    (h : settlement id keyHash o = .ok a) :
    mutate (newEntity id) (settlingCall a.transaction) = some a.transaction :=
  settlement_induction
    (P := fun a => mutate (newEntity id) (settlingCall a.transaction) = some a.transaction)
    (fun _ _ => rfl) (fun _ => rfl) (fun _ _ => rfl) rfl rfl h

theorem mutate_wellFormed {t t' : Transaction} {c : Transaction.Call} (h : t.WellFormed)
    (hmutate : mutate t c = some t') : t'.WellFormed := by
  have hcall := h.call c
  unfold mutate at hmutate
  split at hmutate
  · rename_i t₁ heq
    rw [heq] at hcall
    cases hmutate
    exact hcall
  · cases hmutate

/-! ## The ledger in the tables -/

/-- An answer is kept as it is replayed. -/
abbrev PaymentBooks := Ledger.Books PyStr PyStr PyStr ResponseEnvelope Transaction

def entryOf (record : IdempotencyRecord) : Ledger.Entry PyStr PyStr ResponseEnvelope :=
  { subject := record.transactionId
    fingerprint := record.requestFingerprint
    answer := if record.processingStatus = py "COMPLETED" then some record.envelope else none }

def booksOf (T : Tables) : PaymentBooks :=
  { entries := fun keyHash => (T (.record keyHash)).map entryOf
    subjects := fun id => (T (.transaction id)).bind entity }

/-- What a commit does in the ledger. -/
def actionOf (commit : Commit CallId) :
    Ledger.Action PyStr PyStr PyStr ResponseEnvelope Transaction.Call :=
  match commit.call with
  | .reserve a => .opens a.keyHash a.transactionId a.requestFingerprint
  | .complete a =>
      .closes a.keyHash (settlingCall a.transaction) { a.envelope with isReplay := true }

def ledgerStep : PaymentBooks →
    Ledger.Action PyStr PyStr PyStr ResponseEnvelope Transaction.Call → Option PaymentBooks :=
  Ledger.step newEntity mutate

/-- Both rows of a reservation are one entry of the ledger. -/
theorem booksOf_bothRows {T : Tables} {id keyHash : PyStr} {row : TransactionRow}
    {record : IdempotencyRecord} {t : Transaction} (hrow : entity row = some t)
    (hlinked : record.transactionId = id) :
    booksOf (overlay (bothRows id row keyHash record) T) =
      Ledger.enter (booksOf T) keyHash (entryOf record) t := by
  apply Ledger.Books.ext
  · funext k
    rw [Ledger.enter_entries]
    simp only [booksOf, overlay_bothRows_record]
    by_cases hk : k = keyHash <;> simp [hk]
  · funext i
    rw [Ledger.enter_subjects]
    have hsubject : (entryOf record).subject = id := hlinked
    simp only [booksOf, overlay_bothRows_transaction, hsubject]
    by_cases hi : i = id <;> simp [hi, hrow]

namespace Requests

variable {requests : Nat → Request} {acceptsStr : PyStr → Bool}
  (hadmitted : ∀ r, Admitted acceptsStr (requests r).command)

section Commit

variable {T : Tables} (hT : SchemaOk T) {s s' : Requests}
  (hreach : Reachable (Requests.step requests) (init T) s)
  (hreach' : Reachable (Requests.step requests) (init T) s') {now : Timestamp}

include hadmitted in
/-- The commit of a reservation opens an entry for a new entity. -/
theorem books_reserve {r : Nat} {a : ReserveArgs} (hargs : (requests r).reserveArgs = .ok a)
    (happlies : Applies (.reserve a) now s.tables s'.tables) :
    ledgerStep (booksOf s.tables) (actionOf ⟨.reserve r, .reserve a, now⟩) =
      some (booksOf s'.tables) := by
  rcases Coordination.Applies.inserts (c := CallId.reserve r) happlies with
    ⟨row, record, ⟨a', hcall, hrow, hrecord⟩, hnoRow, hnoRecord, htables⟩
  cases hcall
  have hidArgs : a.transactionId = (requests r).command.transactionId := (reserveArgs_ok hargs).2.2.1
  have hid : row.transactionId = a.transactionId :=
    (transactionInsert_id (hadmitted r) hargs hrow).trans hidArgs.symm
  have hlinked : record.transactionId = a.transactionId :=
    (recordInsert_transactionId hrow hrecord).trans hid
  have hkey := recordInsert_keyHash hargs hrecord
  have hnonblank : strip a.transactionId ≠ [] := by
    rw [hidArgs]
    exact (hadmitted r).transactionId_nonblank
  rcases transactionInsert_fields hrow with
    ⟨_, _, _, _, hstatus, hpending, hversion, _, _, _⟩
  have hentity : entity row = some (newEntity a.transactionId) :=
    entity_eq hid hstatus hversion hpending (newEntity_wellFormed hnonblank)
  have hentry : entryOf record = ⟨a.transactionId, a.requestFingerprint, none⟩ := by
    have hprogress := (recordInsert_fields hrecord).2.2.2.1
    simp [entryOf, hlinked, recordInsert_fingerprint hargs hrecord, hprogress]
  rw [hid] at htables hnoRow
  rw [hkey] at htables hnoRecord
  rw [htables, booksOf_bothRows hentity hlinked, hentry]
  refine Ledger.step_opens _ ?_ ?_
  · simp [booksOf, hnoRecord]
  · simp [booksOf, hnoRow]

include hadmitted hT hreach hreach' in
/-- The commit of a completion closes the entry of its reservation, after one call of the entity. -/
theorem books_complete {r : Nat} {a : CompleteArgs}
    (hcompleting : Completing requests s r a) (hunsettled : ¬ s.calls.Settled (.complete r))
    (hlogged : ⟨.complete r, .complete a, now⟩ ∈ s'.calls.log)
    (happlies : Applies (.complete a) now s.tables s'.tables) :
    ledgerStep (booksOf s.tables) (actionOf ⟨.complete r, .complete a, now⟩) =
      some (booksOf s'.tables) := by
  -- the rows before the commit, as the reservation has left them
  rcases hcompleting.untouched hreach (hadmitted r) hunsettled with
    ⟨reserved, time, row, record, hargs, hrow, hrecord, huntouched⟩
  have hid : a.transaction.transactionId = (requests r).command.transactionId := hcompleting.args.1
  have hrowId : row.transactionId = a.transaction.transactionId :=
    (transactionInsert_id (hadmitted r) hargs hrow).trans hid.symm
  have hnonblank : strip a.transaction.transactionId ≠ [] := by
    rw [hid]
    exact (hadmitted r).transactionId_nonblank
  rcases transactionInsert_fields hrow with
    ⟨_, _, _, _, hstatus, hpending, hversion, _, _, _⟩
  have hentity : entity row = some (newEntity a.transaction.transactionId) :=
    entity_eq hrowId hstatus hversion hpending (newEntity_wellFormed hnonblank)
  have hopen : entryOf record = ⟨a.transaction.transactionId, reserved.requestFingerprint, none⟩ := by
    simp [entryOf, huntouched.linked, huntouched.in_progress,
      recordInsert_fingerprint hargs hrecord]
  -- and after it
  rcases records_of_logged hreach' (hadmitted r) hlogged with
    ⟨reserved', row', record', hacquired, hrecords⟩
  cases hargs.symm.trans hacquired.1
  rcases hcompleting with ⟨_, outcome, _, hcompletion, _⟩
  have hsettled := (completion_ok hcompletion).2
  rw [← hid] at hsettled
  have hmutate := mutate_settlement hsettled
  have hschema := Coordination.schemaOk_of_reachable hT (calls_reachable hreach')
  have hrowId' : row'.transactionId = a.transaction.transactionId :=
    (hschema.transaction_ok _ _ hrecords.row_eq).1
  have hentity' : entity row' = some a.transaction :=
    entity_eq hrowId' hrecords.status hrecords.version hrecords.pendingOperation
      (mutate_wellFormed (newEntity_wellFormed hnonblank) hmutate)
  have hclosed : entryOf record' = ⟨a.transaction.transactionId, reserved.requestFingerprint,
      some { a.envelope with isReplay := true }⟩ := by
    simp [entryOf, hrecords.linked, hrecords.fingerprint, hrecords.completed,
      (hrecords.replayed hsettled).2]
  rcases Coordination.Applies.updates happlies with ⟨setRow, row₀, setRecord, record₀, _, _, htables⟩
  have hrowT := hrecords.row_eq
  rw [htables, overlay_bothRows_transaction, if_pos rfl] at hrowT
  have hrecordT := hrecords.record_eq
  rw [htables, overlay_bothRows_record, if_pos rfl] at hrecordT
  cases hrowT
  cases hrecordT
  rw [htables, booksOf_bothRows hentity' hrecords.linked, hclosed]
  refine Ledger.step_closes _ ?_ ?_ hmutate
  · simp [booksOf, huntouched.record_eq, hopen]
  · simp [booksOf, huntouched.row_eq, hentity]

include hadmitted hT hreach in
/-- A step of the requests is no step of the ledger, or the one its commit stands for. -/
theorem step_books {e : Event} (hstep : s.step requests e = some s') :
    ∃ commits, s'.calls.log = s.calls.log ++ commits ∧
      exec ledgerStep (booksOf s.tables) (commits.map actionOf) = some (booksOf s'.tables) := by
  have hquiet : s'.tables = s.tables → s'.calls.log = s.calls.log →
      ∃ commits, s'.calls.log = s.calls.log ++ commits ∧
        exec ledgerStep (booksOf s.tables) (commits.map actionOf) = some (booksOf s'.tables) := by
    intro htables hlog
    exact ⟨[], by simp [hlog], by rw [htables]; rfl⟩
  rcases step_causes hstep with hsame | ⟨ce, _, hce⟩
  · exact hquiet (by rw [tables, hsame]; rfl) (by rw [hsame])
  · have hreach' := hreach.next hstep
    cases Coordination.step_effect (Coordination.inv_of_reachable (calls_reachable hreach)) hce with
    | quiet htables hlog =>
        exact hquiet htables hlog
    | commits c call now hcall hsettled hlog happlies =>
        have hmem : ⟨c, call, now⟩ ∈ s'.calls.log := by
          rw [hlog]
          exact List.mem_append_right _ (List.mem_singleton_self _)
        refine ⟨[⟨c, call, now⟩], hlog, exec_singleton.mpr ?_⟩
        rcases log_cases hreach' hmem with ⟨r, a, hid, hkind, hargs⟩ | ⟨r, a, hid, hkind, _⟩
        · cases hid
          cases hkind
          exact books_reserve hadmitted hargs happlies
        · cases hid
          cases hkind
          exact books_complete hadmitted hT hreach hreach' (completing_of_call hreach hcall.1)
            hsettled.1 hmem happlies

include hadmitted hT hreach in
theorem run_books {es : List Event} (hrun : exec (Requests.step requests) s es = some s') :
    ∃ commits, s'.calls.log = s.calls.log ++ commits ∧
      exec ledgerStep (booksOf s.tables) (commits.map actionOf) = some (booksOf s'.tables) := by
  have hboth : Reachable (Requests.step requests) (init T) s' ∧
      ∃ commits, s'.calls.log = s.calls.log ++ commits ∧
        exec ledgerStep (booksOf s.tables) (commits.map actionOf) = some (booksOf s'.tables) := by
    refine exec_invariant (I := fun m => Reachable (Requests.step requests) (init T) m ∧
      ∃ commits, m.calls.log = s.calls.log ++ commits ∧
        exec ledgerStep (booksOf s.tables) (commits.map actionOf) = some (booksOf m.tables)) ?_
      ⟨hreach, [], by simp, rfl⟩ hrun
    rintro m e m' ⟨hm, commits, hlog, hbooks⟩ hstep
    rcases step_books hadmitted hT hm hstep with ⟨more, hmore, hnext⟩
    refine ⟨hm.next hstep, commits ++ more, ?_, ?_⟩
    · rw [hmore, hlog, List.append_assoc]
    · rw [List.map_append]
      exact exec_append_eq_some.mpr ⟨_, hbooks, hnext⟩
  exact hboth.2

end Commit

section Empty

variable {s : Requests} (hreach : Reachable (Requests.step requests) (init emptyTables) s)

include hadmitted hreach in
/-- The history of the ledger is the log. -/
theorem books_of_reachable :
    exec ledgerStep Ledger.empty (s.calls.log.map actionOf) = some (booksOf s.tables) := by
  rcases hreach with ⟨es, hrun⟩
  rcases run_books hadmitted schemaOk_empty (.refl _) hrun with ⟨commits, hlog, hbooks⟩
  have hcommits : s.calls.log = commits := hlog
  rw [hcommits]
  exact hbooks

include hadmitted hreach in
/-- Every row stands for an entity. -/
theorem entity_of_row {id : PyStr} {row : TransactionRow}
    (hrow : s.tables (.transaction id) = some row) : ∃ t, entity row = some t := by
  have hbalanced := Ledger.balanced_of_run (books_of_reachable hadmitted hreach)
  rcases owner_of_transaction hreach hadmitted hrow with ⟨r, a, now, hargs, rfl, hlogged⟩
  have hfrom : CompletedFrom requests (fun _ _ => True) s := by
    intro r a hcall
    rcases completing_of_call hreach hcall with ⟨reserved, o, _, hargs, _⟩
    exact ⟨_, o, True.intro, hargs⟩
  -- the row belongs to an entry, whose subject the ledger knows
  rcases standing_of_logged hreach hadmitted hfrom hargs hlogged with ⟨row', record, hpair, _⟩
  have hentry : (booksOf s.tables).entries a.keyHash = some (entryOf record) := by
    simp [booksOf, hpair.record_eq]
  rcases hbalanced.opened _ _ hentry with ⟨t, hsubject, _⟩
  have hid : (entryOf record).subject = (requests r).command.transactionId := hpair.linked
  rw [hid] at hsubject
  simp only [booksOf, hrow, Option.bind_some] at hsubject
  exact ⟨t, hsubject⟩

end Empty

/-- The code refines the ledger.  In every run from empty tables, with crashes and faults at any step,
the history of commits is a history of the ledger that ends in the books the tables hold; every row
stands for an entity, new or after one call of a mutator that has returned, exactly as its entry is
open or answered; every envelope returned to a client is a conflict or the answer in the books; and
whatever happens afterwards, entries stay and answers are final. -/
theorem tables_refine_ledger (hadmitted : ∀ r, Admitted acceptsStr (requests r).command)
    (es : List Event) {s : Requests}
    (hrun : exec (Requests.step requests) (init emptyTables) es = some s) :
    exec ledgerStep Ledger.empty (s.calls.log.map actionOf) = some (booksOf s.tables) ∧
    Ledger.Balanced newEntity mutate (booksOf s.tables) ∧
    (∀ id (row : TransactionRow), s.tables (.transaction id) = some row →
      ∃ t, entity row = some t) ∧
    (∀ r envelope, s.phase r = .finished (.ok envelope) → Conflict envelope ∨
      ∃ a e, (requests r).reserveArgs = .ok a ∧ (booksOf s.tables).entries a.keyHash = some e ∧
        e.fingerprint = a.requestFingerprint ∧
        e.answer = some { envelope with isReplay := true }) ∧
    ∀ later s', exec (Requests.step requests) s later = some s' → ∀ keyHash e,
      (booksOf s.tables).entries keyHash = some e →
        ∃ e', (booksOf s'.tables).entries keyHash = some e' ∧ Ledger.Continues e e' := by
  have hreach : Reachable (Requests.step requests) (init emptyTables) s := ⟨es, hrun⟩
  have hbooks := books_of_reachable hadmitted hreach
  refine ⟨hbooks, Ledger.balanced_of_run hbooks, ?_, ?_, ?_⟩
  · intro id row hrow
    exact entity_of_row hadmitted hreach hrow
  · intro r envelope hfinished
    rcases answer_of_finished schemaOk_empty hreach (hadmitted r) hfinished with
      ⟨a, hargs, hconflict | ⟨record, hfinal⟩⟩
    · exact .inl hconflict
    · refine .inr ⟨a, entryOf record, hargs, ?_, hfinal.fingerprint, ?_⟩
      · simp [booksOf, hfinal.record_eq]
      · simp [entryOf, hfinal.completed, hfinal.replay]
  · intro later s' hlater keyHash e he
    rcases run_books hadmitted schemaOk_empty hreach hlater with ⟨commits, _, hcommits⟩
    exact Ledger.run_continues hcommits he

/-- A timeout: the ledger has opened an entry, and closed it with a call of
`mark_pending_reconciliation`. -/
theorem tables_refine_ledger_timeout :
    let run : List Event := sampleRun ++
      [.respond 0 (.raised (.timeout (py "late"))), .database (.step (.complete 0) 2),
        .database (.step (.complete 0) 2), .database (.step (.complete 0) 2), .finish 0]
    ∃ (s : Requests) (books : PaymentBooks),
      exec (Requests.step fun _ => sampleRequest) (init emptyTables) run = some s ∧
      exec ledgerStep Ledger.empty (s.calls.log.map actionOf) = some books ∧
      books.subjects (py "txn_1") =
        some ⟨py "txn_1", .pendingReconciliation, 1, some .authorization⟩ ∧
      Ledger.Balanced newEntity mutate books := by
  intro run
  have hany : (exec (Requests.step fun _ => sampleRequest) (init emptyTables) run).any
      (fun s => (booksOf s.tables).subjects (py "txn_1") =
        some ⟨py "txn_1", .pendingReconciliation, 1, some .authorization⟩) = true := by
    decide +kernel
  rcases (Option.any_eq_true _ _).mp hany with ⟨s, hrun, hs⟩
  have hrefines := tables_refine_ledger (fun _ => sample_admitted) run hrun
  exact ⟨s, booksOf s.tables, hrun, hrefines.1, of_decide_eq_true hs, hrefines.2.1⟩

end Requests

end System
end TransactionPlatform
