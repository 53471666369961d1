import TransactionPlatform.Application.Outcomes
import TransactionPlatform.Infrastructure.Renaming
import TransactionPlatform.System.Phases

/-!
# Ownership — the rows belong to the request that reserved them

The log of committed calls determines the tables: a reservation's two rows are exactly as it
inserted them until the `complete` of the same request commits, and exactly as that `complete` wrote
them afterwards; every other row is as it was at the start (`Contents`).  No request can touch
another's rows, because the arguments of a `complete` come from a reservation of the same request
and reservations exclude each other.
-/

namespace TransactionPlatform
namespace System

open Text Domain Ports Common Application Infrastructure ReadCommitted Transition

/-! ## The values a request hands to the coordinator -/

theorem reserveArgs_ok {request : Request} {a : ReserveArgs} (h : request.reserveArgs = .ok a) :
    computeKeyHash request.idempotencyKey = .ok a.keyHash ∧
      computeRequestFingerprint request.payload = .ok a.requestFingerprint ∧
      a.transactionId = request.command.transactionId ∧
      a.merchantId = request.command.merchantId ∧ a.amount = request.command.amount ∧
      a.currency = request.command.currency := by
  unfold Request.reserveArgs at h
  split at h
  · cases h
  · rename_i keyHash hkey
    split at h
    · cases h
    · rename_i fingerprint hfingerprint
      cases h
      exact ⟨hkey, hfingerprint, rfl, rfl, rfl, rfl⟩

theorem reserveArgs_defined {request : Request} {keyHash : PyStr}
    (hkey : computeKeyHash request.idempotencyKey = .ok keyHash)
    (hpayload : (canonicalJson request.payload).isSome = true) :
    ∃ a, request.reserveArgs = .ok a := by
  rcases computeRequestFingerprint_defined hpayload with ⟨digest, hdigest⟩
  simp [Request.reserveArgs, hkey, hdigest]

/-- What SHA-256 gives has the format the tables check. -/
theorem isDigest_sha256Text {text digest : PyStr} (h : sha256Text text = .ok digest) :
    IsDigest digest := by
  have hlength := sha256Text_length h
  have hclass : digest.all lowerHex = true := by
    apply List.all_eq_true.mpr
    intro c hc
    have hrange := mem_sha256Text h hc
    simp only [lowerHex, Bool.or_eq_true, Bool.and_eq_true, decide_eq_true_eq]
    exact hrange
  simp [IsDigest, matchesClass, hlength, hclass]

theorem isDigest_fingerprint {p : Payload} {digest : PyStr}
    (h : computeRequestFingerprint p = .ok digest) : IsDigest digest := by
  rcases computeRequestFingerprint_ok h with ⟨text, _, hdigest⟩
  exact isDigest_sha256Text hdigest

/-- A key hash is stored as it is. -/
theorem recordInsert_keyHash {request : Request} {a : ReserveArgs}
    (hargs : request.reserveArgs = .ok a) {now : Timestamp} {record : IdempotencyRecord}
    (h : recordInsert a now = some record) : record.idempotencyKeyHash = a.keyHash := by
  have hfits := (isDigest_sha256Text (reserveArgs_ok hargs).1).fits
  exact Option.some.inj ((recordInsert_fields h).1.symm.trans hfits)

theorem recordInsert_fingerprint {request : Request} {a : ReserveArgs}
    (hargs : request.reserveArgs = .ok a) {now : Timestamp} {record : IdempotencyRecord}
    (h : recordInsert a now = some record) : record.requestFingerprint = a.requestFingerprint := by
  have hfits := (isDigest_fingerprint (reserveArgs_ok hargs).2.1).fits
  exact Option.some.inj ((recordInsert_fields h).2.1.symm.trans hfits)

/-! ## The log of the requests -/

namespace Requests

variable {requests : Nat → Request}

/-- Every committed call is a `reserve` of a request, or its `complete` after an `ACQUIRED`. -/
theorem log_cases {T : Tables} {s : Requests}
    (hreach : Reachable (Requests.step requests) (init T) s) {e : Commit CallId}
    (he : e ∈ s.calls.log) :
    (∃ r a, e.id = .reserve r ∧ e.call = .reserve a ∧ (requests r).reserveArgs = .ok a) ∨
      (∃ r a, e.id = .complete r ∧ e.call = .complete a ∧ Completing requests s r a) := by
  have hlog := Coordination.logInv_of_reachable (calls_reachable hreach)
  have hcall := (hlog.entry e he).1
  cases hid : e.id with
  | reserve r =>
      left
      rw [hid] at hcall
      rcases (callsInv_of_reachable hreach r).reserve_of_call hcall with ⟨a, heq, hargs⟩
      exact ⟨r, a, rfl, heq, hargs⟩
  | complete r =>
      right
      rw [hid] at hcall
      rcases (callsInv_of_reachable hreach r).complete_of_call hcall with ⟨a, heq, hcompleting⟩
      exact ⟨r, a, rfl, heq, hcompleting⟩

/-- An acquired request has committed its reservation. -/
theorem Acquired.logged {T : Tables} {s : Requests}
    (hreach : Reachable (Requests.step requests) (init T) s) {r : Nat} {a : ReserveArgs}
    (h : Acquired requests s r a) : ∃ now, ⟨.reserve r, .reserve a, now⟩ ∈ s.calls.log := by
  rcases h with ⟨_, reservation, hcall, hstatus⟩
  exact (Coordination.logInv_of_reachable (calls_reachable hreach)).acquired _ _ _ hcall hstatus

/-- Entries of one call are equal. -/
theorem log_unique {T : Tables} {s : Requests}
    (hreach : Reachable (Requests.step requests) (init T) s) {e e' : Commit CallId}
    (he : e ∈ s.calls.log) (he' : e' ∈ s.calls.log) (hid : e.id = e'.id) : e = e' :=
  List.inj_on_of_nodup_map (Coordination.logInv_of_reachable (calls_reachable hreach)).ids_nodup
    he he' hid

/-- Two different reservations in the log share no primary key. -/
theorem log_exclusive {T : Tables} {s : Requests}
    (hreach : Reachable (Requests.step requests) (init T) s) {e e' : Commit CallId}
    (he : e ∈ s.calls.log) (he' : e' ∈ s.calls.log) (hid : e.id ≠ e'.id) :
    Coordination.Exclusive e e' :=
  (Coordination.reservationsInv_of_reachable (calls_reachable hreach)).exclusive he he'
    (fun heq => hid (by rw [heq]))

/-! ## Contents of the tables -/

/-- The two rows of request `r`'s reservation as the tables hold them: as inserted, or as its
`complete` has left them. -/
inductive Owned (log : List (Commit CallId)) (T : Tables) (r : Nat) (row : TransactionRow)
    (record : IdempotencyRecord) : Prop
  | fresh (hopen : ∀ e ∈ log, e.id ≠ .complete r)
      (hrow : T (.transaction row.transactionId) = some row)
      (hrecord : T (.record record.idempotencyKeyHash) = some record)
  | completed (a : CompleteArgs) (now : Timestamp) (setRow : TransactionRow → TransactionRow)
      (setRecord : IdempotencyRecord → IdempotencyRecord)
      (hlogged : ⟨.complete r, .complete a, now⟩ ∈ log)
      (hsetRow : transactionUpdate a now = some setRow)
      (hsetRecord : recordUpdate a now = some setRecord)
      (hrow : T (.transaction row.transactionId) = some (setRow row))
      (hrecord : T (.record record.idempotencyKeyHash) = some (setRecord record))

/-- What the log says about the tables, which were `T₀` at the start. -/
structure Contents (T₀ : Tables) (log : List (Commit CallId)) (T : Tables) : Prop where
  owned : ∀ r a now row record, ⟨.reserve r, .reserve a, now⟩ ∈ log →
    transactionInsert a now = some row → recordInsert a now = some record →
    Owned log T r row record
  other_transactions : ∀ id, (∀ e ∈ log, ∀ row record, Coordination.Inserts e row record →
    row.transactionId ≠ id) → T (.transaction id) = T₀ (.transaction id)
  other_records : ∀ keyHash, (∀ e ∈ log, ∀ row record, Coordination.Inserts e row record →
    record.idempotencyKeyHash ≠ keyHash) → T (.record keyHash) = T₀ (.record keyHash)

/-- Rows that no commit touches keep their owner. -/
theorem Owned.mono {log : List (Commit CallId)} {e : Commit CallId} {T T' : Tables} {r : Nat}
    {row : TransactionRow} {record : IdempotencyRecord} (h : Owned log T r row record)
    (hid : e.id ≠ .complete r)
    (hrow : T' (.transaction row.transactionId) = T (.transaction row.transactionId))
    (hrecord : T' (.record record.idempotencyKeyHash) = T (.record record.idempotencyKeyHash)) :
    Owned (log ++ [e]) T' r row record := by
  cases h with
  | fresh hopen hrow₀ hrecord₀ =>
      refine .fresh ?_ (hrow.trans hrow₀) (hrecord.trans hrecord₀)
      intro e' he'
      rw [List.mem_append, List.mem_singleton] at he'
      rcases he' with hold | rfl
      · exact hopen e' hold
      · exact hid
  | completed a now setRow setRecord hlogged hsetRow hsetRecord hrow₀ hrecord₀ =>
      exact .completed a now setRow setRecord (by simp [hlogged]) hsetRow hsetRecord
        (hrow.trans hrow₀) (hrecord.trans hrecord₀)

/-- A completion updates the two rows of its reservation, if they still are as they were inserted. -/
theorem updates_reserved {a : CompleteArgs} {reserved : ReserveArgs} {now time : Timestamp}
    {row : TransactionRow} {record : IdempotencyRecord} {T T' : Tables}
    (happlies : Applies (.complete a) now T T')
    (hrow : transactionInsert reserved time = some row)
    (hrecord : recordInsert reserved time = some record)
    (hkey : record.idempotencyKeyHash = a.keyHash)
    (hrowT : T (.transaction row.transactionId) = some row)
    (hrecordT : T (.record record.idempotencyKeyHash) = some record) :
    ∃ setRow setRecord, transactionUpdate a now = some setRow ∧ recordUpdate a now = some setRecord ∧
      T' = overlay (bothRows row.transactionId (setRow row) record.idempotencyKeyHash
        (setRecord record)) T := by
  rcases Coordination.Applies.updates happlies with
    ⟨setRow, row₁, setRecord, record₁, hsetRow, hsetRecord, htables⟩
  have hrecord₁ : record₁ = record := by
    have hboth := hsetRecord.record_eq
    rw [← hkey, hrecordT] at hboth
    exact (Option.some.inj hboth).symm
  subst hrecord₁
  -- the guard of the second update ties the two rows together
  have hid : row.transactionId = a.transaction.transactionId := by
    have hguard := hsetRecord.guard_ok
    simp only [recordGuard, Bool.and_eq_true, decide_eq_true_eq] at hguard
    rw [← recordInsert_transactionId hrow hrecord]
    exact hguard.1
  have hrow₁ : row₁ = row := by
    have hboth := hsetRow.row_eq
    rw [← hid, hrowT] at hboth
    exact (Option.some.inj hboth).symm
  subst hrow₁
  rw [← hid, ← hkey] at htables
  exact ⟨setRow, setRecord, hsetRow.update_row, hsetRecord.update_record, htables⟩

section Commit

variable {T₀ : Tables} {s s' : Requests}
  (hreach : Reachable (Requests.step requests) (init T₀) s)
  (hreach' : Reachable (Requests.step requests) (init T₀) s')

include hreach in
/-- A call that is not settled is not in the log. -/
theorem ne_of_unsettled {c : CallId} (h : ¬ s.calls.Settled c) {e : Commit CallId}
    (he : e ∈ s.calls.log) : e.id ≠ c := by
  intro heq
  have hsettled :=
    ((Coordination.logInv_of_reachable (calls_reachable hreach)).entry e he).2
  exact h (heq ▸ hsettled)

include hreach in
/-- A `complete` of a request is only in the log after its reservation. -/
theorem reserve_logged {r : Nat} {e : Commit CallId} (he : e ∈ s.calls.log)
    (hid : e.id = .complete r) : ∃ e' ∈ s.calls.log, e'.id = .reserve r := by
  rcases log_cases hreach he with ⟨r', a, hid', _⟩ | ⟨r', a, hid', _, hcompleting⟩
  · rw [hid] at hid'
    cases hid'
  · rw [hid] at hid'
    cases hid'
    rcases hcompleting with ⟨reserved, _, hacquired, _⟩
    rcases hacquired.logged hreach with ⟨now, hmem⟩
    exact ⟨_, hmem, rfl⟩

include hreach hreach' in
/-- A reservation that commits becomes the owner of its rows. -/
theorem contents_reserve {r : Nat} {a : ReserveArgs} {now : Timestamp}
    (hunsettled : ¬ s.calls.Settled (.reserve r))
    (hlog : s'.calls.log = s.calls.log ++ [⟨.reserve r, .reserve a, now⟩])
    (happlies : Applies (.reserve a) now s.tables s'.tables)
    (h : Contents T₀ s.calls.log s.tables) : Contents T₀ s'.calls.log s'.tables := by
  rcases Coordination.Applies.inserts (c := CallId.reserve r) happlies with
    ⟨row₀, record₀, hinserts₀, _, _, htables⟩
  have hnew : (⟨.reserve r, .reserve a, now⟩ : Commit CallId) ∈ s'.calls.log := by
    simp [hlog]
  refine ⟨?_, ?_, ?_⟩
  · intro r' a' now' row record hmem hrow hrecord
    have hinserts : Coordination.Inserts (⟨.reserve r', .reserve a', now'⟩ : Commit CallId) row
        record := ⟨a', rfl, hrow, hrecord⟩
    have hmem' := hmem
    rw [hlog, List.mem_append, List.mem_singleton] at hmem
    -- an earlier reservation has other keys, so the new rows leave its rows alone
    rcases hmem with hold | heq
    · have hne := ne_of_unsettled hreach hunsettled hold
      rcases log_exclusive hreach' hmem' hnew hne row record row₀ record₀ hinserts hinserts₀ with
        ⟨hid, hkey⟩
      rw [hlog]
      refine (h.owned r' a' now' row record hold hrow hrecord).mono (by simp) ?_ ?_
      · rw [htables, overlay_bothRows_transaction]
        simp [hid]
      · rw [htables, overlay_bothRows_record]
        simp [hkey]
    · -- the new reservation: its request has not called `complete`
      rw [heq] at hinserts
      cases heq
      rcases hinserts.unique hinserts₀ with ⟨rfl, rfl⟩
      refine .fresh ?_ ?_ ?_
      · intro e he hid
        rw [hlog, List.mem_append, List.mem_singleton] at he
        rcases he with hold | rfl
        · rcases reserve_logged hreach hold hid with ⟨e', he', hid'⟩
          exact ne_of_unsettled hreach hunsettled he' hid'
        · cases hid
      · rw [htables, overlay_bothRows_transaction]
        simp
      · rw [htables, overlay_bothRows_record]
        simp
  · intro id hother
    -- no reservation has this id, the new one neither
    have hid : id ≠ row₀.transactionId :=
      fun heq => hother _ hnew row₀ record₀ hinserts₀ heq.symm
    rw [htables, overlay_bothRows_transaction, if_neg hid]
    exact h.other_transactions id (fun e he => hother e (by simp [hlog, he]))
  · intro keyHash hother
    have hkey : keyHash ≠ record₀.idempotencyKeyHash :=
      fun heq => hother _ hnew row₀ record₀ hinserts₀ heq.symm
    rw [htables, overlay_bothRows_record, if_neg hkey]
    exact h.other_records keyHash (fun e he => hother e (by simp [hlog, he]))

include hreach hreach' in
/-- A completion that commits changes the rows its own request has reserved, and no others. -/
theorem contents_complete {r : Nat} {a : CompleteArgs} {now : Timestamp}
    (hunsettled : ¬ s.calls.Settled (.complete r))
    (hlog : s'.calls.log = s.calls.log ++ [⟨.complete r, .complete a, now⟩])
    (happlies : Applies (.complete a) now s.tables s'.tables)
    (hcompleting : Completing requests s' r a)
    (h : Contents T₀ s.calls.log s.tables) : Contents T₀ s'.calls.log s'.tables := by
  rcases hcompleting with ⟨reserved, outcome, hacquired, hargs, _⟩
  have hkeyArgs : a.keyHash = reserved.keyHash := (settlement_ok (completion_ok hargs).2).1
  -- the reservation of the same request is in the log, and still as it was inserted
  rcases hacquired.logged hreach' with ⟨time, hmem⟩
  have hold : (⟨.reserve r, .reserve reserved, time⟩ : Commit CallId) ∈ s.calls.log := by
    rw [hlog, List.mem_append, List.mem_singleton] at hmem
    rcases hmem with hold | heq
    · exact hold
    · cases heq
  rcases (Coordination.reservationsInv_of_reachable (calls_reachable hreach)).rows _ hold reserved
    rfl with ⟨row, record, hinserts⟩
  have hinserts' := hinserts
  rcases hinserts' with ⟨_, heq, hrow, hrecord⟩
  cases heq
  have hkey : record.idempotencyKeyHash = a.keyHash := by
    rw [hkeyArgs]
    exact recordInsert_keyHash hacquired.1 hrecord
  cases h.owned r reserved time row record hold hrow hrecord with
  | completed a' now' _ _ hlogged =>
      exact absurd rfl (ne_of_unsettled hreach hunsettled hlogged)
  | fresh hopen hrowT hrecordT =>
      rcases updates_reserved happlies hrow hrecord hkey hrowT hrecordT with
        ⟨setRow, setRecord, hsetRow, hsetRecord, htables⟩
      have hmemOf : ∀ {e : Commit CallId}, e ∈ s.calls.log → e ∈ s'.calls.log := by
        intro e he
        simp [hlog, he]
      refine ⟨?_, ?_, ?_⟩
      · intro r' a' now' row' record' hmem' hrow' hrecord'
        have hold' : (⟨.reserve r', .reserve a', now'⟩ : Commit CallId) ∈ s.calls.log := by
          rw [hlog, List.mem_append, List.mem_singleton] at hmem'
          rcases hmem' with hold' | heq
          · exact hold'
          · cases heq
        by_cases hr : r' = r
        · subst hr
          cases log_unique hreach hold' hold rfl
          cases hrow'.symm.trans hrow
          cases hrecord'.symm.trans hrecord
          refine .completed a now setRow setRecord (by simp [hlog]) hsetRow hsetRecord ?_ ?_
          · rw [htables, overlay_bothRows_transaction]
            simp
          · rw [htables, overlay_bothRows_record]
            simp
        · rcases log_exclusive hreach hold' hold (by simpa using hr) row' record' _ _
            ⟨a', rfl, hrow', hrecord'⟩ hinserts with ⟨hneId, hneKey⟩
          rw [hlog]
          refine (h.owned r' a' now' row' record' hold' hrow' hrecord').mono ?_ ?_ ?_
          · simpa using fun heq => hr heq.symm
          · rw [htables, overlay_bothRows_transaction, if_neg hneId]
          · rw [htables, overlay_bothRows_record, if_neg hneKey]
      · intro id hother
        have hne : id ≠ _ := fun heq => hother _ (hmemOf hold) _ _ hinserts heq.symm
        rw [htables, overlay_bothRows_transaction, if_neg hne]
        exact h.other_transactions id (fun e he => hother e (hmemOf he))
      · intro keyHash hother
        have hne : keyHash ≠ _ := fun heq => hother _ (hmemOf hold) _ _ hinserts heq.symm
        rw [htables, overlay_bothRows_record, if_neg hne]
        exact h.other_records keyHash (fun e he => hother e (hmemOf he))

end Commit

theorem step_contents {T₀ : Tables} {s s' : Requests} {e : Event}
    (hreach : Reachable (Requests.step requests) (init T₀) s)
    (hstep : s.step requests e = some s') (h : Contents T₀ s.calls.log s.tables) :
    Contents T₀ s'.calls.log s'.tables := by
  have hreach' := hreach.next hstep
  rcases step_calls hstep with hsame | ⟨ce, hce⟩
  · rw [tables, hsame]
    exact h
  · have hinv := Coordination.inv_of_reachable (calls_reachable hreach)
    cases Coordination.step_effect hinv hce with
    | quiet htables hlog =>
        rw [tables, htables, hlog]
        exact h
    | commits c call now hcall hsettled hlog happlies =>
        have hnew : (⟨c, call, now⟩ : Commit CallId) ∈ s'.calls.log := by
          simp [hlog]
        rcases log_cases hreach' hnew with ⟨r, a, rfl, rfl, _⟩ | ⟨r, a, rfl, rfl, hcompleting⟩
        · exact contents_reserve hreach hreach' hsettled.1 hlog happlies h
        · exact contents_complete hreach hreach' hsettled.1 hlog happlies hcompleting h

theorem contents_of_reachable {T₀ : Tables} {s : Requests}
    (hreach : Reachable (Requests.step requests) (init T₀) s) :
    Contents T₀ s.calls.log s.tables := by
  have hboth : Reachable (Requests.step requests) (init T₀) s ∧
      Contents T₀ s.calls.log s.tables := by
    refine hreach.invariant (I := fun m => Reachable (Requests.step requests) (init T₀) m ∧
      Contents T₀ m.calls.log m.tables) ?_ ⟨Reachable.refl _, ?_⟩
    · rintro m e m' ⟨hm, hcontents⟩ hstep
      exact ⟨hm.next hstep, step_contents hm hstep hcontents⟩
    · exact ⟨by simp [init, Coordination.init], fun _ _ => rfl, fun _ _ => rfl⟩
  exact hboth.2

end Requests

end System
end TransactionPlatform
