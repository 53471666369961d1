import TransactionPlatform.Infrastructure.Serializability
import TransactionPlatform.Lib.LockOrder

/-!
# Deadlock — nobody waits in a circle

Both calls lock a transaction row first and a record afterwards, and hold nothing else in between.
That order is enough: however keys and ids overlap, the waits-for relation has no cycle, and some
call can always go on, or waits for a transaction without a client, which the server ends.
-/

namespace TransactionPlatform
namespace Infrastructure

open Text Domain Ports ReadCommitted Transition

variable {ι : Type}

namespace Coordination

/-! ## Who waits for whom -/

/-- The next statement of call `c` takes the lock of the key: an `INSERT` of a row the checks admit,
or an `UPDATE` whose `WHERE` clause matches a visible row. -/
inductive Wants (s : Coordination ι) (c : ι) : Pk → Prop
  | insertTransaction (a : ReserveArgs) (now : Timestamp) (row : TransactionRow)
      (hcall : s.call c = .reserve a (.insertTransaction now))
      (hrow : transactionInsert a now = some row) (hok : row.admitted = true) :
      Wants s c (.transaction row.transactionId)
  | insertRecord (a : ReserveArgs) (now : Timestamp) (record : IdempotencyRecord)
      (hcall : s.call c = .reserve a (.insertRecord now))
      (hrecord : recordInsert a now = some record) (hok : record.admitted = true) :
      Wants s c (.record record.idempotencyKeyHash)
  | updateTransaction (a : CompleteArgs) (now : Timestamp)
      (set : TransactionRow → TransactionRow) (row : TransactionRow)
      (hcall : s.call c = .complete a .updateTransaction)
      (hset : transactionUpdate a now = some set)
      (hrow : s.server.view c (.transaction a.transaction.transactionId) = some row)
      (hversion : row.version = a.expectedVersion) :
      Wants s c (.transaction a.transaction.transactionId)
  | updateRecord (a : CompleteArgs) (now : Timestamp)
      (set : IdempotencyRecord → IdempotencyRecord) (record : IdempotencyRecord)
      (hcall : s.call c = .complete a (.updateRecord now))
      (hset : recordUpdate a now = some set)
      (hrecord : s.server.view c (.record a.keyHash) = some record)
      (hguard : recordGuard a record = true) : Wants s c (.record a.keyHash)

def Holds (s : Coordination ι) (c : ι) (k : Pk) : Prop :=
  s.server.holder k = some c

/-- The open transaction of `c` waits for the one of `c'`. -/
def WaitsFor (s : Coordination ι) : ι → ι → Prop :=
  LockOrder.WaitsFor s.Wants s.Holds

/-- The call has begun and has not returned, raised or died. -/
def Unfinished (s : Coordination ι) (c : ι) : Prop :=
  s.call c ≠ .idle ∧ (s.call c).over = false

/-- Whoever holds a lock is an unfinished call, or has left its transaction without a client. -/
theorem unfinished_of_holds {s : Coordination ι} (h : Inv s) {c : ι} {k : Pk} (hholds : s.Holds c k) :
    s.Unfinished c ∨ s.orphan c ≠ .none := by
  have hsome : (s.server.pending c k).isSome := (h.consistent c k).mp hholds
  by_cases horphan : s.orphan c = .none
  · left
    have hsession := h.session c
    rw [horphan] at hsession
    have hnot : s.server.pending c ≠ noRows := by
      intro hnone
      rw [hnone] at hsome
      cases hsome
    -- without an orphan a call that has not begun or is over has nothing pending
    cases hcall : s.call c with
    | idle =>
        rw [hcall] at hsession
        exact absurd hsession.2 hnot
    | reserve a pc =>
        rw [hcall] at hsession
        refine ⟨by rw [hcall]; simp, ?_⟩
        rw [hcall]
        cases pc with
        | done r | gone =>
            exact absurd hsession hnot
        | _ =>
            rfl
    | complete a pc =>
        rw [hcall] at hsession
        refine ⟨by rw [hcall]; simp, ?_⟩
        rw [hcall]
        cases pc with
        | done r | gone =>
            exact absurd hsession hnot
        | _ =>
            rfl
  · exact .inr horphan

section Waiting

variable [DecidableEq ι]

theorem blocked_holder {s : Server Row ι} {c : ι} {k : Pk} (h : s.blocked c k = true) :
    ∃ c', c' ≠ c ∧ s.holder k = some c' := by
  unfold Server.blocked at h
  split at h
  · rename_i c' hholder
    exact ⟨c', by simpa using h, hholder⟩
  · cases h

theorem reserve_waits {s : Coordination ι} {c : ι} {a : ReserveArgs} {pc : ReservePc}
    {now : Timestamp} (hcall : s.call c = .reserve a pc)
    (hrunning : (CallState.reserve a pc).over = false)
    (hstuck : reserveStep s.server c a now pc = none) : ∃ c', s.WaitsFor c c' := by
  cases pc with
  | insertTransaction t =>
      simp only [reserveStep] at hstuck
      split at hstuck
      · cases hstuck
      · rename_i row hrow
        split at hstuck
        · rename_i hok
          split at hstuck
          · rename_i hblocked
            rcases blocked_holder hblocked with ⟨c', hne, hholder⟩
            exact ⟨c', hne, _, .insertTransaction a t row hcall hrow hok, hholder⟩
          · split at hstuck <;> cases hstuck
        · cases hstuck
  | insertRecord t =>
      simp only [reserveStep] at hstuck
      split at hstuck
      · cases hstuck
      · rename_i record hrecord
        split at hstuck
        · rename_i hok
          split at hstuck
          · rename_i hblocked
            rcases blocked_holder hblocked with ⟨c', hne, hholder⟩
            exact ⟨c', hne, _, .insertRecord a t record hcall hrecord hok, hholder⟩
          · split at hstuck <;> cases hstuck
        · cases hstuck
  | done r | gone =>
      cases hrunning
  | _ =>
      -- every other statement runs at once
      simp only [reserveStep] at hstuck
      repeat' split at hstuck
      all_goals cases hstuck

theorem complete_waits {s : Coordination ι} {c : ι} {a : CompleteArgs} {pc : CompletePc}
    {now : Timestamp} (hcall : s.call c = .complete a pc)
    (hrunning : (CallState.complete a pc).over = false)
    (hstuck : completeStep s.server c a now pc = none) : ∃ c', s.WaitsFor c c' := by
  -- only the two updates can wait
  cases pc with
  | updateTransaction =>
      simp only [completeStep] at hstuck
      split at hstuck
      · cases hstuck
      · rename_i set hset
        split at hstuck
        · cases hstuck
        · rename_i row hrow
          split at hstuck
          · rename_i hversion
            split at hstuck
            · rename_i hblocked
              rcases blocked_holder hblocked with ⟨c', hne, hholder⟩
              exact ⟨c', hne, _, .updateTransaction a now set row hcall hset hrow hversion, hholder⟩
            · split at hstuck <;> cases hstuck
          · cases hstuck
  | updateRecord t =>
      simp only [completeStep] at hstuck
      split at hstuck
      · cases hstuck
      · rename_i set hset
        split at hstuck
        · cases hstuck
        · rename_i record hrecord
          split at hstuck
          · rename_i hguard
            split at hstuck
            · rename_i hblocked
              rcases blocked_holder hblocked with ⟨c', hne, hholder⟩
              exact ⟨c', hne, _, .updateRecord a t set record hcall hset hrecord hguard, hholder⟩
            · split at hstuck <;> cases hstuck
          · cases hstuck
  | done r | gone =>
      cases hrunning
  | _ =>
      cases hstuck

/-- An unfinished call whose next statement cannot run waits for somebody. -/
theorem Unfinished.waits {s : Coordination ι} {c : ι} (h : s.Unfinished c) {now : Timestamp}
    (hstuck : s.step (.step c now) = none) : ∃ c', s.WaitsFor c c' := by
  rcases h with ⟨hbegun, hrunning⟩
  simp only [step, stepCall] at hstuck
  split at hstuck
  · rename_i hidle
    exact absurd hidle hbegun
  · rename_i a pc hcall
    rw [hcall] at hrunning
    split at hstuck
    · cases hstuck
    · rename_i hnone
      exact reserve_waits hcall hrunning hnone
  · rename_i a pc hcall
    rw [hcall] at hrunning
    split at hstuck
    · cases hstuck
    · rename_i hnone
      exact complete_waits hcall hrunning hnone

end Waiting

/-! ## The lock order -/

def lockLevel : Pk → Nat
  | .transaction _ => 0
  | .record _ => 1

/-- A call that wants a transaction row holds nothing; one that wants a record holds at most a
transaction row. -/
theorem ordered_of_inv {s : Coordination ι} (h : Inv s) :
    LockOrder.Ordered s.Wants s.Holds lockLevel := by
  intro c k k' hholds hwants
  have hsome : (s.server.pending c k).isSome := (h.consistent c k).mp hholds
  have hnot : s.server.pending c ≠ noRows := by
    intro hnone
    rw [hnone] at hsome
    cases hsome
  have hone : ∀ id row, s.server.pending c = oneRow id row → lockLevel k = 0 := by
    intro id row hp
    cases k with
    | transaction id' =>
        rfl
    | record keyHash =>
        rw [hp, oneRow_record] at hsome
        cases hsome
  -- the first write of either call is its transaction row
  cases hwants with
  | insertTransaction a now row hcall _ _ =>
      exact absurd (h.reserve_session hcall).2 hnot
  | insertRecord a now record hcall _ _ =>
      rcases (h.reserve_session hcall).2 with ⟨row, _, _, _, hp⟩
      rw [hone _ _ hp]
      exact Nat.one_pos
  | updateTransaction a now set row hcall _ _ _ =>
      exact absurd (h.complete_session hcall).2.1 hnot
  | updateRecord a now set record hcall _ _ _ =>
      rcases (h.complete_session hcall).2 with ⟨set', row, _, hp⟩
      rw [hone _ _ hp]
      exact Nat.one_pos

variable [DecidableEq ι]

/-- From an unfinished call the waits lead to a call that can take its next step, or to a transaction
without a client. -/
theorem waits_end {s : Coordination ι} (h : Inv s) {c : ι} (hunfinished : s.Unfinished c) :
    ∃ c', Relation.ReflTransGen s.WaitsFor c c' ∧
      ((s.Unfinished c' ∧ ∀ now, (s.step (.step c' now)).isSome = true) ∨
        s.orphan c' ≠ .none) := by
  have hlevel : ∀ k, lockLevel k ≤ 1 := by
    intro k
    cases k with
    | transaction id =>
        exact Nat.zero_le 1
    | record keyHash =>
        exact Nat.le_refl 1
  -- locks are taken in the order of the levels, so the chain of waits has an end
  rcases LockOrder.exists_not_waiting (ordered_of_inv h) hlevel c with ⟨c', hchain, hlast⟩
  refine ⟨c', hchain, ?_⟩
  have hholder : s.Unfinished c' ∨ s.orphan c' ≠ .none := by
    rcases Relation.ReflTransGen.cases_tail hchain with rfl | ⟨_, _, _, k, _, hholds⟩
    · exact .inl hunfinished
    · exact unfinished_of_holds h hholds
  rcases hholder with hunfinished' | horphan
  · left
    refine ⟨hunfinished', fun now => ?_⟩
    -- a call that cannot move waits, but the last one waits for nobody
    by_contra hstuck
    rcases hunfinished'.waits (by simpa using hstuck) with ⟨c'', hwait⟩
    exact hlast c'' hwait
  · exact .inr horphan

/-! ## Runs without faults -/

/-- Without faults and crashes no transaction loses its client. -/
theorem orphan_none_of_run {T : Tables} {es : List (CoordinatorEvent ι)} {s : Coordination ι}
    (hrun : exec Coordination.step (init T) es = some s) (hfail : ∀ c fault, .fail c fault ∉ es)
    (hkill : ∀ c, .kill c ∉ es) (c : ι) : s.orphan c = .none := by
  have hall : ∀ c, s.orphan c = .none := by
    refine exec_invariant_of (I := fun m => ∀ c, m.orphan c = .none) (A := fun e => e ∈ es) ?_
      (fun _ => rfl) (fun _ he => he) hrun
    intro m e m' hm he hstep c
    -- a fault or a kill leaves an orphan, and there is none in this run
    cases transition_of_step hstep with
    | reserveFail c fault =>
        exact absurd he (hfail c fault)
    | completeFail c fault =>
        exact absurd he (hfail c fault)
    | reserveKill c =>
        exact absurd he (hkill c)
    | completeKill c =>
        exact absurd he (hkill c)
    | land c' now call ho =>
        exact absurd (hm c') (by rw [ho]; simp)
    | reap c' ho =>
        exact absurd (hm c') ho
    | _ =>
        exact hm c
  exact hall c

/-! ## No deadlock -/

/-- Any number of `reserve` and `complete` calls with any keys and ids: in every reachable state no
transaction waits for itself through others; from every unfinished call the waits lead to a call
that can take its next step, or to a transaction without a client, which the server can end; and
in runs without faults and crashes to a call that can take its next step. -/
theorem no_deadlock {T : Tables} (es : List (CoordinatorEvent ι)) {s : Coordination ι}
    (hrun : exec Coordination.step (init T) es = some s) :
    (∀ c, ¬ Relation.TransGen s.WaitsFor c c) ∧
    (∀ c, s.Unfinished c → ∃ c', Relation.ReflTransGen s.WaitsFor c c' ∧
      ((s.Unfinished c' ∧ ∀ now, (s.step (.step c' now)).isSome = true) ∨
        (s.step (.reap c')).isSome = true)) ∧
    ((∀ c fault, .fail c fault ∉ es) → (∀ c, .kill c ∉ es) → ∀ c, s.Unfinished c →
      ∃ c', s.Unfinished c' ∧ ∀ now, (s.step (.step c' now)).isSome = true) := by
  have hinv : Inv s := inv_of_reachable ⟨es, hrun⟩
  refine ⟨LockOrder.acyclic (ordered_of_inv hinv), ?_, ?_⟩
  · intro c hunfinished
    rcases waits_end hinv hunfinished with ⟨c', hchain, hmoves | horphan⟩
    · exact ⟨c', hchain, .inl hmoves⟩
    · refine ⟨c', hchain, .inr ?_⟩
      cases ho : s.orphan c' with
      | none =>
          exact absurd ho horphan
      | abandoned | inFlight t =>
          simp [step, reap, ho]
  · intro hfail hkill c hunfinished
    rcases waits_end hinv hunfinished with ⟨c', _, hmoves | horphan⟩
    · exact ⟨c', hmoves⟩
    · exact absurd (orphan_none_of_run hrun hfail hkill c') horphan

/-- One call has inserted its transaction and another one with the same id waits for it: the first
can go on. -/
theorem no_deadlock_same_id :
    let first : ReserveArgs :=
      { keyHash := List.replicate 64 0x61
        requestFingerprint := List.replicate 64 0x62
        transactionId := py "txn_1"
        merchantId := py "m_1"
        amount := 100
        currency := py "USD" }
    let second : ReserveArgs := { first with keyHash := List.replicate 64 0x63 }
    let run : List (CoordinatorEvent Nat) :=
      [.start 0 (.reserve first), .start 1 (.reserve second), .step 0 1, .step 1 1, .step 0 1]
    ∃ s : Coordination Nat, exec Coordination.step (init emptyTables) run = some s ∧
      s.step (.step 1 2) = none ∧
      ∃ c', s.Unfinished c' ∧ ∀ now, (s.step (.step c' now)).isSome = true := by
  intro first second run
  have hrun : (exec Coordination.step (init emptyTables) run).any
      (fun s => (s.step (.step 1 2)).isNone && !(s.call 1).over && (s.call 1).call.isSome) = true := by
    decide +kernel
  rcases (Option.any_eq_true _ _).mp hrun with ⟨s, hs, hstate⟩
  simp only [Bool.and_eq_true, Bool.not_eq_true', Option.isNone_iff_eq_none] at hstate
  rcases hstate with ⟨⟨hstuck, hrunning⟩, hbegun⟩
  have hunfinished : s.Unfinished 1 := by
    refine ⟨?_, hrunning⟩
    intro hidle
    rw [hidle] at hbegun
    cases hbegun
  exact ⟨s, hs, hstuck, (no_deadlock run hs).2.2 (by simp [run]) (by simp [run]) 1 hunfinished⟩

end Coordination

end Infrastructure
end TransactionPlatform
