import TransactionPlatform.Domain.Lifecycle

/-!
# Entity — what holds in every run of the entity

The constructor is the only place where the invariants of the entity are checked; the mutators rely
on them.  `WellFormed` says what the constructor lets through, and every call keeps it, whatever
state the entity was rehydrated in.
-/

namespace TransactionPlatform
namespace Domain
namespace Transaction

open Text

/-! ## The invariant of the constructor -/

structure WellFormed (t : Transaction) : Prop where
  id_nonblank : strip t.transactionId ≠ []
  version_nonneg : 0 ≤ t.version
  pending_iff : t.pendingOperation.isSome = true ↔ t.status = .pendingReconciliation

theorem validatePending_ok {status : TransactionStatus} {pending : Option (Arg PendingOperation)}
    {op : Option PendingOperation} (h : validatePending status pending = .ok op) :
    pending = op.map .inst ∧ (op.isSome = true ↔ status = .pendingReconciliation) := by
  unfold validatePending at h
  split at h
  · rename_i hstatus
    split at h
    · cases h
    · cases h
    · cases h
      exact ⟨rfl, by simp [hstatus]⟩
  · rename_i hstatus
    split at h
    · cases h
      exact ⟨rfl, by simp [hstatus]⟩
    · cases h

/-- An accepted entity has the values it was given, and they are well formed. -/
theorem init_ok {id : Arg PyStr} {status : Arg TransactionStatus} {version : Arg Int}
    {pending : Option (Arg PendingOperation)} {t : Transaction}
    (h : init id status version pending = .ok t) : t.WellFormed ∧ version = .inst t.version := by
  -- the checks of the constructor, in its order
  cases id with
  | foreign typeName reprText =>
      cases h
  | inst id =>
      simp only [init] at h
      split at h
      · cases h
      · rename_i hblank
        cases version with
        | foreign typeName reprText =>
            cases h
        | inst v =>
            simp only at h
            split at h
            · cases h
            · rename_i hneg
              cases status with
              | foreign typeName reprText =>
                  cases h
              | inst st =>
                  simp only at h
                  split at h
                  · cases h
                  · rename_i op hop
                    cases h
                    exact ⟨⟨hblank, Int.not_lt.mp hneg, (validatePending_ok hop).2⟩, rfl⟩

/-- Conversely the constructor accepts every well-formed entity. -/
theorem WellFormed.init_eq {t : Transaction} (h : t.WellFormed) :
    init (.inst t.transactionId) (.inst t.status) (.inst t.version)
      (t.pendingOperation.map .inst) = .ok t := by
  obtain ⟨id, status, version, pending⟩ := t
  have hpending : validatePending status (pending.map .inst) = .ok pending := by
    cases pending with
    | none =>
        have hne : status ≠ .pendingReconciliation := fun heq => by
          simpa using h.pending_iff.mpr heq
        simp [validatePending, hne]
    | some op =>
        have heq : status = .pendingReconciliation := h.pending_iff.mp rfl
        simp [validatePending, heq]
  have hversion : ¬ version < 0 := Int.not_lt.mpr h.version_nonneg
  simp [init, h.id_nonblank, hversion, hpending]

/-! ## One call -/

/-- A call that raises leaves the entity as it was. -/
theorem call_error {t : Transaction} {c : Call} {e : TransactionError}
    (h : (t.call c).1 = .error e) : (t.call c).2 = t := by
  rcases call_cases t c with ⟨_, hcall⟩ | ⟨_, _, _, _, _, hcall⟩ | ⟨_, _, _, _, hcall⟩ |
      ⟨_, _, _, _, _, _, hcall⟩
  · simp [hcall]
  all_goals
    rw [hcall] at h
    cases h

/-- A call that returns has moved the version by one. -/
theorem call_ok {t : Transaction} {c : Call} (h : (t.call c).1 = .ok ()) :
    (t.call c).2.version = t.version + 1 := by
  rcases call_cases t c with ⟨_, hcall⟩ | ⟨_, _, _, _, _, hcall⟩ | ⟨_, _, _, _, hcall⟩ |
      ⟨_, _, _, _, _, _, hcall⟩
  · rw [hcall] at h
    cases h
  all_goals simp [hcall]

theorem WellFormed.call {t : Transaction} (h : t.WellFormed) (c : Call) :
    (t.call c).2.WellFormed := by
  have hnext : 0 ≤ t.version + 1 := Int.add_nonneg h.version_nonneg (by decide)
  rcases call_cases t c with ⟨_, hcall⟩ | ⟨target, _, _, hp, ht, hcall⟩ | ⟨op, _, _, _, hcall⟩ |
      ⟨op, target, hmem, _, _, _, hcall⟩
  · rw [hcall]
    exact h
  · -- an ordinary edge stays outside reconciliation, where nothing is pending
    have hnone : ¬ t.pendingOperation.isSome = true := fun hsome => hp (h.pending_iff.mp hsome)
    rw [hcall]
    exact ⟨h.id_nonblank, hnext, by simp [hnone, ht]⟩
  · rw [hcall]
    exact ⟨h.id_nonblank, hnext, by simp⟩
  · rw [hcall]
    exact ⟨h.id_nonblank, hnext, by simp [resolution_stable hmem]⟩

/-- A well-formed entity is never found corrupted: no call raises the exception of the constructor. -/
theorem WellFormed.not_corrupted {t : Transaction} (h : t.WellFormed) (c : Call)
    (message : PyStr) : (t.call c).1 ≠ .error (.invalidTransactionInvariant message) := by
  intro herror
  cases c with
  | transitionTo target =>
      simp only [Transaction.call, transitionTo] at herror
      repeat' split at herror
      all_goals cases herror
  | markPendingReconciliation operation =>
      simp only [Transaction.call, markPendingReconciliation] at herror
      repeat' split at herror
      all_goals cases herror
  | resolveReconciliation target =>
      simp only [Transaction.call, resolveReconciliation] at herror
      split at herror
      · cases herror
      · split at herror
        · cases herror
        · rename_i hstatus
          split at herror
          · -- the corrupted branch
            rename_i hnone
            have hsome := h.pending_iff.mpr (not_not.mp hstatus)
            rw [hnone] at hsome
            cases hsome
          · split at herror
            all_goals cases herror

/-- The terminal statuses are those without a way out: no ordinary edge, no reconciliation. -/
theorem isTerminal_iff {t : Transaction} (h : t.WellFormed) :
    t.isTerminal = true ↔ ∀ c, ∃ e, (t.call c).1 = .error e := by
  constructor
  · intro hterminal c
    rcases call_cases t c with ⟨e, hcall⟩ | ⟨target, hmem, _⟩ | ⟨op, hentry, _⟩ |
        ⟨_, _, _, _, hp, _⟩
    · exact ⟨e, by rw [hcall]⟩
    all_goals
      obtain ⟨id, status, version, pending⟩ := t
      cases status <;> simp_all [isTerminal, terminalStates, ordinaryTransitions,
        reconciliationEntries]
  · intro hall
    by_contra hterminal
    -- each other status has a call that succeeds
    obtain ⟨id, status, version, pending⟩ := t
    cases status with
    | created =>
        rcases hall (.transitionTo (.inst .failed)) with ⟨e, he⟩
        cases he
    | authorized =>
        rcases hall (.transitionTo (.inst .captured)) with ⟨e, he⟩
        cases he
    | captured =>
        rcases hall (.transitionTo (.inst .refunded)) with ⟨e, he⟩
        cases he
    | pendingReconciliation =>
        rcases Option.isSome_iff_exists.mp (h.pending_iff.mpr rfl) with ⟨op, hop⟩
        simp only at hop
        subst hop
        cases op with
        | authorization =>
            rcases hall (.resolveReconciliation (.inst .failed)) with ⟨e, he⟩
            cases he
        | capture =>
            rcases hall (.resolveReconciliation (.inst .captured)) with ⟨e, he⟩
            cases he
        | refund =>
            rcases hall (.resolveReconciliation (.inst .refunded)) with ⟨e, he⟩
            cases he
    | declined | failed | refunded =>
        exact hterminal rfl

/-! ## Whole runs -/

/-- How many calls of a run returned normally. -/
def returns : Transaction → List Call → Nat
  | _, [] => 0
  | t, c :: cs =>
      match (t.call c).1 with
      | .ok () => returns (t.call c).2 cs + 1
      | .error _ => returns (t.call c).2 cs

theorem WellFormed.run {t : Transaction} (h : t.WellFormed) (cs : List Call) :
    (t.run cs).WellFormed := by
  induction cs generalizing t with
  | nil =>
      exact h
  | cons c cs ih =>
      exact ih (h.call c)

theorem version_run (t : Transaction) (cs : List Call) :
    (t.run cs).version = t.version + t.returns cs := by
  induction cs generalizing t with
  | nil =>
      simp [Transaction.run, returns]
  | cons c cs ih =>
      cases hresult : (t.call c).1 with
      | ok u =>
          calc (t.run (c :: cs)).version
              = (t.call c).2.version + (t.call c).2.returns cs := ih (t.call c).2
            _ = t.version + 1 + (t.call c).2.returns cs := by rw [call_ok hresult]
            _ = t.version + t.returns (c :: cs) := by
                  simp only [returns, hresult]
                  omega
      | error e =>
          calc (t.run (c :: cs)).version
              = (t.call c).2.version + (t.call c).2.returns cs := ih (t.call c).2
            _ = t.version + (t.call c).2.returns cs := by rw [call_error hresult]
            _ = t.version + t.returns (c :: cs) := by simp only [returns, hresult]

/-- An entity whose every call raises never changes. -/
theorem run_of_stuck {t : Transaction} (h : ∀ c, ∃ e, (t.call c).1 = .error e) (cs : List Call) :
    t.run cs = t := by
  induction cs with
  | nil =>
      rfl
  | cons c cs ih =>
      rcases h c with ⟨e, he⟩
      rw [Transaction.run, call_error he]
      exact ih

/-- The entity in every run from every state the constructor accepts: the version counts the calls
that returned, a call that raises changes nothing, an operation is pending exactly in
`PENDING_RECONCILIATION`, so that the entity is never found corrupted and could be constructed again
as it is, and the terminal statuses are exactly those in which nothing can happen any more. -/
theorem entity_run_invariant {id : Arg PyStr} {status : Arg TransactionStatus} {version : Arg Int}
    {pending : Option (Arg PendingOperation)} {t : Transaction}
    (h : Transaction.init id status version pending = .ok t) (cs : List Call) :
    (∃ v, version = .inst v ∧ (t.run cs).version = v + t.returns cs) ∧
    (∀ c e, ((t.run cs).call c).1 = .error e → ((t.run cs).call c).2 = t.run cs) ∧
    ((t.run cs).pendingOperation ≠ none ↔ (t.run cs).status = .pendingReconciliation) ∧
    (∀ c message, ((t.run cs).call c).1 ≠ .error (.invalidTransactionInvariant message)) ∧
    Transaction.init (.inst (t.run cs).transactionId) (.inst (t.run cs).status)
      (.inst (t.run cs).version) ((t.run cs).pendingOperation.map .inst) = .ok (t.run cs) ∧
    ((t.run cs).isTerminal = true ↔ ∀ c, ∃ e, ((t.run cs).call c).1 = .error e) ∧
    ((t.run cs).isTerminal = true → ∀ later, (t.run cs).run later = t.run cs) := by
  rcases init_ok h with ⟨hwf, hversion⟩
  have hrun : (t.run cs).WellFormed := hwf.run cs
  refine ⟨⟨t.version, hversion, version_run t cs⟩, fun _ _ herror => call_error herror, ?_,
    hrun.not_corrupted, hrun.init_eq, isTerminal_iff hrun, ?_⟩
  · rw [← hrun.pending_iff, Option.isSome_iff_ne_none]
  · intro hterminal later
    exact run_of_stuck ((isTerminal_iff hrun).mp hterminal) later

/-- A rehydrated capture of unknown outcome: a foreign argument, a refused resolution and a good
one, so that the version moves once. -/
theorem entity_run_invariant_rehydrated :
    (run ⟨py "txn_1", .pendingReconciliation, 7, some .capture⟩
      [.transitionTo (.foreign (py "str") (py "'FAILED'")), .resolveReconciliation (.inst .declined),
        .resolveReconciliation (.inst .captured)]).version = 8 := by
  rcases (entity_run_invariant
    (show Transaction.init (.inst (py "txn_1")) (.inst .pendingReconciliation) (.inst 7)
      (some (.inst .capture)) = .ok ⟨py "txn_1", .pendingReconciliation, 7, some .capture⟩ from rfl)
    [.transitionTo (.foreign (py "str") (py "'FAILED'")), .resolveReconciliation (.inst .declined),
      .resolveReconciliation (.inst .captured)]).1 with ⟨v, hv, hversion⟩
  cases hv
  exact hversion

end Transaction
end Domain
end TransactionPlatform
