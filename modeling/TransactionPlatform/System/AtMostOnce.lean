import TransactionPlatform.System.Ownership

/-!
# AtMostOnce — the payment network is called at most once

Whatever the schedule, the faults and the crashes, `payment_network.authorize` is called at most
once for a key hash and at most once for a transaction id, and only by the request whose own
reservation is committed and untouched at that moment.
-/

namespace TransactionPlatform
namespace System

open Text Domain Ports Common Application Infrastructure ReadCommitted Transition

/-- A phase before the port call. -/
def Phase.before : Phase → Bool
  | .idle | .reserving | .acquired _ => true
  | _ => false

namespace Requests

variable {requests : Nat → Request}

/-! ## The calls of the port -/

/-- Every call of the port belongs to an acquired request, which has passed its port call and makes
no other one. -/
structure SentInv (requests : Nat → Request) (s : Requests) : Prop where
  acquired : ∀ p ∈ s.sent, p.2 = portRequest (requests p.1).command ∧
    ∃ a, Acquired requests s p.1 a
  passed : ∀ p ∈ s.sent, (s.phase p.1).before = false
  nodup : (s.sent.map Prod.fst).Nodup

/-- A request that has passed its port call does not come back to it. -/
theorem before_of_step {s s' : Requests} {e : Event} (h : s.step requests e = some s') {r : Nat}
    (hr : (s.phase r).before = false) : (s'.phase r).before = false := by
  -- only the request itself leaves the phases before its call
  by_cases hreq : e.request = some r
  · cases transition_of_step h with
    | arrive r₀ a calls hphase =>
        cases hreq
        simp [hphase, Phase.before] at hr
    | refused r₀ e hphase =>
        cases hreq
        simp [hphase, Phase.before] at hr
    | database e calls hcalls =>
        exact hr
    | acquired r₀ a reservation hphase =>
        cases hreq
        simp [hphase, Phase.before] at hr
    | crash r₀ calls =>
        cases hreq
        simp [Phase.before]
    | _ =>
        cases hreq
        simp [Phase.before]
  · rw [(step_frame h hreq).1]
    exact hr

/-- A request that is acquired stays acquired. -/
theorem Acquired.step {s s' : Requests} {e : Event} (h : s.step requests e = some s') {r : Nat}
    {a : ReserveArgs} (ha : Acquired requests s r a) : Acquired requests s' r a := by
  rcases ha with ⟨hargs, reservation, hcall, hstatus⟩
  refine ⟨hargs, reservation, ?_, hstatus⟩
  rcases step_calls h with hsame | ⟨ce, hce⟩
  · rw [hsame, hcall]
  · rw [Coordination.over_call_eq hce (by rw [hcall]; rfl), hcall]

/-- Only `invoke` calls the port. -/
theorem sent_of_step {s s' : Requests} {e : Event} (h : s.step requests e = some s') :
    s'.sent = s.sent ∨
      ∃ r keyHash, e = .invoke r ∧ s.phase r = .acquired keyHash ∧
        s'.phase r = .awaiting keyHash ∧
        s'.sent = s.sent ++ [(r, portRequest (requests r).command)] := by
  cases transition_of_step h with
  | invoke r keyHash t hphase hnew =>
      exact .inr ⟨r, keyHash, rfl, hphase, by simp, rfl⟩
  | _ =>
      exact .inl rfl

theorem step_sentInv {s s' : Requests} {e : Event} (hcalls : ∀ r, CallsInv requests s r)
    (h : SentInv requests s) (hstep : s.step requests e = some s') : SentInv requests s' := by
  have hacquired : ∀ p ∈ s.sent, p.2 = portRequest (requests p.1).command ∧
      ∃ a, Acquired requests s' p.1 a := by
    intro p hp
    rcases h.acquired p hp with ⟨hport, a, ha⟩
    exact ⟨hport, a, ha.step hstep⟩
  have hpassed : ∀ p ∈ s.sent, (s'.phase p.1).before = false :=
    fun p hp => before_of_step hstep (h.passed p hp)
  rcases sent_of_step hstep with hsame | ⟨r, keyHash, rfl, hphase, hphase', hsent⟩
  · exact ⟨hsame ▸ hacquired, hsame ▸ hpassed, hsame ▸ h.nodup⟩
  · refine ⟨?_, ?_, ?_⟩
    · intro p hp
      rw [hsent, List.mem_append, List.mem_singleton] at hp
      rcases hp with hold | rfl
      · exact hacquired p hold
      · have hinv := (hcalls r).phase
        rw [hphase] at hinv
        rcases hinv with ⟨_, a, ha, _⟩
        exact ⟨rfl, a, ha.step hstep⟩
    · intro p hp
      rw [hsent, List.mem_append, List.mem_singleton] at hp
      rcases hp with hold | rfl
      · exact hpassed p hold
      · simp [hphase', Phase.before]
    · rw [hsent, List.map_append, List.nodup_append]
      refine ⟨h.nodup, by simp, ?_⟩
      intro r₁ hr₁ r₂ hr₂
      simp only [List.map_cons, List.map_nil, List.mem_singleton] at hr₂
      subst hr₂
      rcases List.mem_map.mp hr₁ with ⟨p, hp, rfl⟩
      -- the request is before its port call, and the earlier callers are not
      intro heq
      have hbefore := h.passed p hp
      rw [heq, hphase] at hbefore
      cases hbefore

theorem sentInv_of_reachable {T : Tables} {s : Requests}
    (hreach : Reachable (Requests.step requests) (init T) s) : SentInv requests s := by
  have hboth : (∀ r, CallsInv requests s r) ∧ SentInv requests s := by
    refine hreach.invariant
      (I := fun m => (∀ r, CallsInv requests m r) ∧ SentInv requests m) ?_ ⟨callsInv_init T, ?_⟩
    · rintro m e m' ⟨hm, hsent⟩ hstep
      exact ⟨step_callsInv hm hstep, step_sentInv hm hsent hstep⟩
    · exact ⟨by simp [init], by simp [init], by simp [init]⟩
  exact hboth.2

/-! ## Two acquired requests have nothing in common -/

/-- Two requests whose reservations are committed share neither their key nor their transaction. -/
theorem logged_distinct {T : Tables} {s : Requests}
    (hreach : Reachable (Requests.step requests) (init T) s) {r r' : Nat} {a a' : ReserveArgs}
    {now now' : Timestamp} (hargs : (requests r).reserveArgs = .ok a)
    (hargs' : (requests r').reserveArgs = .ok a')
    (hmem : ⟨.reserve r, .reserve a, now⟩ ∈ s.calls.log)
    (hmem' : ⟨.reserve r', .reserve a', now'⟩ ∈ s.calls.log) (hne : r ≠ r') :
    a.keyHash ≠ a'.keyHash ∧ a.transactionId ≠ a'.transactionId := by
  have hrows := (Coordination.reservationsInv_of_reachable (calls_reachable hreach)).rows
  rcases hrows _ hmem a rfl with ⟨row, record, hinserts⟩
  rcases hrows _ hmem' a' rfl with ⟨row', record', hinserts'⟩
  have hexclusive := log_exclusive hreach hmem hmem' (by simpa using hne) row record row' record'
    hinserts hinserts'
  rcases hinserts with ⟨_, heq, hrow, hrecord⟩
  cases heq
  rcases hinserts' with ⟨_, heq', hrow', hrecord'⟩
  cases heq'
  -- equal arguments would have given equal primary keys
  constructor
  · intro heq
    apply hexclusive.2
    rw [recordInsert_keyHash hargs hrecord, recordInsert_keyHash hargs' hrecord', heq]
  · intro heq
    apply hexclusive.1
    have hid := (transactionInsert_fields hrow).1
    have hid' := (transactionInsert_fields hrow').1
    rw [heq] at hid
    exact Option.some.inj (hid.symm.trans hid')

theorem acquired_distinct {T : Tables} {s : Requests}
    (hreach : Reachable (Requests.step requests) (init T) s) {r r' : Nat} {a a' : ReserveArgs}
    (h : Acquired requests s r a) (h' : Acquired requests s r' a') (hne : r ≠ r') :
    a.keyHash ≠ a'.keyHash ∧ a.transactionId ≠ a'.transactionId := by
  rcases h.logged hreach with ⟨now, hmem⟩
  rcases h'.logged hreach with ⟨now', hmem'⟩
  exact logged_distinct hreach h.1 h'.1 hmem hmem' hne

theorem unsettled_of_idle {s : Requests} {c : CallId} (h : s.calls.call c = .idle) :
    ¬ s.calls.Settled c := by
  intro hsettled
  rw [Coordination.Settled, h] at hsettled
  cases hsettled.1

/-- Until its `complete` is settled, an acquired request's rows are as it inserted them. -/
theorem Acquired.rows_fresh {T : Tables} {s : Requests}
    (hreach : Reachable (Requests.step requests) (init T) s) {r : Nat} {a : ReserveArgs}
    (h : Acquired requests s r a) (hunsettled : ¬ s.calls.Settled (.complete r)) :
    ∃ now row record, ⟨.reserve r, .reserve a, now⟩ ∈ s.calls.log ∧
      transactionInsert a now = some row ∧ recordInsert a now = some record ∧
      s.tables (.transaction row.transactionId) = some row ∧
      s.tables (.record a.keyHash) = some record := by
  rcases h.logged hreach with ⟨now, hmem⟩
  rcases (Coordination.reservationsInv_of_reachable (calls_reachable hreach)).rows _ hmem a rfl with
    ⟨row, record, _, heq, hrow, hrecord⟩
  cases heq
  cases (contents_of_reachable hreach).owned r a now row record hmem hrow hrecord with
  | fresh hopen hrowT hrecordT =>
      rw [recordInsert_keyHash h.1 hrecord] at hrecordT
      exact ⟨now, row, record, hmem, hrow, hrecord, hrowT, hrecordT⟩
  | completed a' now' _ _ hlogged =>
      exact absurd rfl (ne_of_unsettled hreach hunsettled hlogged)

/-- In every run, with every fault: no two calls of the port share a key hash or a transaction id,
and each is made by a request whose reservation, committed by that same request, is in the tables as
it was inserted: an `IN_PROGRESS` record under the request's key and, linked to it, a `CREATED`
transaction at version 0. -/
theorem authorize_at_most_once {T : Tables} (es : List Event) {s : Requests}
    (hrun : exec (Requests.step requests) (init T) es = some s) :
    (s.sent.Pairwise fun p q =>
      computeKeyHash (requests p.1).idempotencyKey ≠ computeKeyHash (requests q.1).idempotencyKey ∧
        p.2.transactionId ≠ q.2.transactionId) ∧
    (∀ m e m', (m, e, m') ∈ transitions (Requests.step requests) (init T) es →
      m'.sent ≠ m.sent →
      ∃ r a now row record, e = .invoke r ∧
        m'.sent = m.sent ++ [(r, portRequest (requests r).command)] ∧
        (requests r).reserveArgs = .ok a ∧
        ⟨.reserve r, .reserve a, now⟩ ∈ m.calls.log ∧
        transactionInsert a now = some row ∧ recordInsert a now = some record ∧
        m.tables (.record a.keyHash) = some record ∧
        record.processingStatus = py "IN_PROGRESS" ∧
        record.transactionId = row.transactionId ∧
        m.tables (.transaction row.transactionId) = some row ∧
        row.status = py "CREATED" ∧ row.version = 0) := by
  have hreach : Reachable (Requests.step requests) (init T) s := ⟨es, hrun⟩
  have hsent := sentInv_of_reachable hreach
  constructor
  · have hfst : s.sent.Pairwise fun p q => p.1 ≠ q.1 := List.pairwise_map.mp hsent.nodup
    refine List.Pairwise.imp_of_mem ?_ hfst
    intro p q hp hq hne
    rcases hsent.acquired p hp with ⟨hport, a, ha⟩
    rcases hsent.acquired q hq with ⟨hport', a', ha'⟩
    -- both requests have acquired, so neither the keys nor the ids agree
    rcases acquired_distinct hreach ha ha' hne with ⟨hkey, hid⟩
    constructor
    · rw [(reserveArgs_ok ha.1).1, (reserveArgs_ok ha'.1).1]
      simpa using hkey
    · rw [hport, hport']
      simpa [portRequest, (reserveArgs_ok ha.1).2.2.1, (reserveArgs_ok ha'.1).2.2.1] using hid
  · intro m e m' hmem hchanged
    rcases mem_transitions hmem with ⟨hm, hstep⟩
    rcases sent_of_step hstep with hsame | ⟨r, keyHash, rfl, hphase, _, hnew⟩
    · exact absurd hsame hchanged
    · have hinv := (callsInv_of_reachable hm r).phase
      rw [hphase] at hinv
      rcases hinv with ⟨hidle, a, ha, _⟩
      -- its `complete` has not begun, so both rows are still as they were inserted
      rcases ha.rows_fresh hm (unsettled_of_idle hidle) with
        ⟨now, row, record, hlogged, hrow, hrecord, hrowT, hrecordT⟩
      have hrowFields := transactionInsert_fields hrow
      have hrecordFields := recordInsert_fields hrecord
      exact ⟨r, a, now, row, record, rfl, hnew, ha.1, hlogged, hrow, hrecord, hrecordT,
        hrecordFields.2.2.2.1, recordInsert_transactionId hrow hrecord, hrowT,
        hrowFields.2.2.2.2.1, hrowFields.2.2.2.2.2.2.1⟩

/-- Two requests with one key race: one is acquired and calls the port, the other loses the insert
and is answered. -/
theorem authorize_at_most_once_race :
    let run : List Event :=
      [.arrive 0, .arrive 1, .database (.step (.reserve 0) 1), .database (.step (.reserve 1) 1),
        .database (.step (.reserve 0) 2), .database (.step (.reserve 0) 2),
        .database (.step (.reserve 0) 2), .resume 0, .invoke 0,
        .database (.step (.reserve 1) 3), .database (.step (.reserve 1) 3),
        .database (.step (.reserve 1) 3), .database (.step (.reserve 1) 3), .resume 1]
    ∃ s, exec (Requests.step fun _ => sampleRequest) (init emptyTables) run = some s ∧
      s.sent = [(0, portRequest sampleRequest.command)] ∧
      s.sent.Pairwise fun p q => p.2.transactionId ≠ q.2.transactionId := by
  intro run
  have hsent : (exec (Requests.step fun _ => sampleRequest) (init emptyTables) run).any
      (fun s => s.sent = [(0, portRequest sampleRequest.command)]) = true := by
    decide +kernel
  rcases (Option.any_eq_true _ _).mp hsent with ⟨s, hrun, hs⟩
  exact ⟨s, hrun, by simpa using hs,
    (authorize_at_most_once run hrun).1.imp fun hpair => hpair.2⟩

end Requests

end System
end TransactionPlatform
