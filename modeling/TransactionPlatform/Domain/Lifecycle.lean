import Mathlib.Data.List.Chain
import TransactionPlatform.Domain.Transaction

/-!
# Lifecycle — runs of the entity against the plain lifecycle

A run is any list of mutator calls, failing calls included.  Its *stops* are the status the entity
starts with and the status after each call that returned normally; a stop remembers the pending
operation its call resolved.  Erasing the stops in `PENDING_RECONCILIATION` leaves a walk in the
plain lifecycle (`ordinaryTransitions`), up to the repetitions that come from resolving a capture
or a refund as "did not happen".
-/

namespace TransactionPlatform
namespace Domain
namespace Transaction

open Text

/-! ## Runs and stops -/

structure Stop where
  status : TransactionStatus
  resolved : Option PendingOperation
  deriving DecidableEq, Repr

/-- The entity after a list of calls. -/
def run : Transaction → List Call → Transaction
  | t, [] => t
  | t, c :: cs => run (t.call c).2 cs

def stopOf (t : Transaction) (c : Call) : Stop :=
  { status := (t.call c).2.status
    resolved :=
      match c with
      | .resolveReconciliation _ => t.pendingOperation
      | _ => none }

/-- One stop for each call that returned normally. -/
def laterStops : Transaction → List Call → List Stop
  | _, [] => []
  | t, c :: cs =>
      match (t.call c).1 with
      | .ok () => stopOf t c :: laterStops (t.call c).2 cs
      | .error _ => laterStops (t.call c).2 cs

def startStop (t : Transaction) : Stop :=
  { status := t.status
    resolved := none }

def stops (t : Transaction) (cs : List Call) : List Stop :=
  startStop t :: laterStops t cs

/-- The statuses a run visits, the one it starts from included. -/
def visited (t : Transaction) (cs : List Call) : List TransactionStatus :=
  (stops t cs).map Stop.status

def Stop.isStable (s : Stop) : Bool :=
  s.status ≠ .pendingReconciliation

/-- The stops with `PENDING_RECONCILIATION` erased. -/
def stableStops (t : Transaction) (cs : List Call) : List Stop :=
  (stops t cs).filter Stop.isStable

/-! ## The plain lifecycle -/

/-- `b` may stand right after `a`: an edge of the plain lifecycle, or a capture or refund that was
resolved as "did not happen". -/
def Follows (a b : Stop) : Prop :=
  b.status ∈ ordinaryTransitions a.status ∨
    (b.status = a.status ∧
      ((b.resolved = some .capture ∧ b.status = .authorized) ∨
        (b.resolved = some .refund ∧ b.status = .captured)))

/-- `last` is the last stable status of an entity: its own status, or the one reconciliation was
entered from. -/
structure Settled (last : TransactionStatus) (t : Transaction) : Prop where
  stable : last ≠ .pendingReconciliation
  status_eq : t.status ≠ .pendingReconciliation → t.status = last
  pending_eq : t.status = .pendingReconciliation → t.pendingOperation = reconciliationEntries last
  pending_isSome : t.status = .pendingReconciliation → t.pendingOperation.isSome

theorem settled_of_status {t : Transaction} (h : t.status ≠ .pendingReconciliation) :
    Settled t.status t where
  stable := h
  status_eq := fun _ => rfl
  pending_eq := fun hp => absurd hp h
  pending_isSome := fun hp => absurd hp h

/-- The three tables fit together: a resolution of the operation that belongs to `last` is an
ordinary edge out of `last` or goes back to `last`. -/
theorem resolution_follows {last target : TransactionStatus} {op : PendingOperation}
    (hentry : reconciliationEntries last = some op)
    (htarget : target ∈ reconciliationResolutions op) :
    target ∈ ordinaryTransitions last ∨
      (target = last ∧
        ((op = .capture ∧ target = .authorized) ∨ (op = .refund ∧ target = .captured))) := by
  cases last <;> simp only [reconciliationEntries, Option.some.injEq, reduceCtorEq] at hentry <;>
    subst hentry <;> revert htarget <;> revert target <;> decide

theorem resolution_stable {target : TransactionStatus} {op : PendingOperation}
    (htarget : target ∈ reconciliationResolutions op) : target ≠ .pendingReconciliation := by
  cases op <;> revert htarget <;> revert target <;> decide

/-! ## One call -/

/-- What one call does to the last stable stop: nothing (the call raised, or entered
reconciliation), or a new stable stop that follows it. -/
theorem call_step {last : Stop} {t : Transaction} (h : Settled last.status t) (c : Call) :
    ((∃ e, (t.call c).1 = .error e) ∧ Settled last.status (t.call c).2) ∨
    ((t.call c).1 = .ok () ∧ (stopOf t c).isStable = false ∧
      Settled last.status (t.call c).2) ∨
    ((t.call c).1 = .ok () ∧ (stopOf t c).isStable = true ∧ Follows last (stopOf t c) ∧
      Settled (stopOf t c).status (t.call c).2) := by
  rcases call_cases t c with ⟨e, hcall⟩ | ⟨target, hmem, rfl, hp, ht, hcall⟩ |
      ⟨op, hop, rfl, hp, hcall⟩ | ⟨op, target, hmem, rfl, hp, hop, hcall⟩
  · -- a refused call leaves the transaction as it is
    left
    simpa [hcall] using h
  · -- an ordinary transition is an edge of the plain lifecycle
    right; right
    have hlast : t.status = last.status := h.status_eq hp
    have hfollows : Follows last (stopOf t (.transitionTo (.inst target))) := by
      left
      simpa [stopOf, hcall, ← hlast] using hmem
    refine ⟨by simp [hcall], by simp [stopOf, Stop.isStable, hcall, ht], hfollows, ?_⟩
    simpa [stopOf, hcall] using
      settled_of_status (t := { t with status := target, version := t.version + 1 }) ht
  · -- entering the reconciliation is no stable stop; the last one stays
    right; left
    have hlast : t.status = last.status := h.status_eq hp
    refine ⟨by simp [hcall], by simp [stopOf, Stop.isStable, hcall], ?_⟩
    exact
      { stable := h.stable
        status_eq := fun hne => absurd (by simp [hcall]) hne
        pending_eq := fun _ => by simpa [hcall, hlast] using hop.symm
        pending_isSome := fun _ => by simp [hcall] }
  · -- the operation was entered from the last stable stop, so it resolves from there
    right; right
    have hentry : reconciliationEntries last.status = some op := by
      rw [← h.pending_eq hp, hop]
    have hstable : target ≠ .pendingReconciliation := resolution_stable hmem
    have hfollows : Follows last (stopOf t (.resolveReconciliation (.inst target))) := by
      rcases resolution_follows hentry hmem with hedge | ⟨hback, hcase⟩
      · left
        simpa [stopOf, hcall] using hedge
      · right
        refine ⟨by simpa [stopOf, hcall] using hback, ?_⟩
        simpa [stopOf, hcall, hop] using hcase
    refine ⟨by simp [hcall], by simp [stopOf, Stop.isStable, hcall, hstable], hfollows, ?_⟩
    simpa [stopOf, hcall] using
      settled_of_status
        (t := { t with status := target, pendingOperation := none, version := t.version + 1 })
        hstable

/-! ## Whole runs -/

theorem laterStops_cons_ok {t : Transaction} {c : Call} (h : (t.call c).1 = .ok ())
    (cs : List Call) : laterStops t (c :: cs) = stopOf t c :: laterStops (t.call c).2 cs := by
  simp [laterStops, h]

theorem laterStops_cons_error {t : Transaction} {c : Call} {e : TransactionError}
    (h : (t.call c).1 = .error e) (cs : List Call) :
    laterStops t (c :: cs) = laterStops (t.call c).2 cs := by
  simp [laterStops, h]

/-- Along a run the stable stops form a walk, and the last of them settles the entity. -/
theorem run_walk :
    ∀ (cs : List Call) (t : Transaction) (last : Stop), Settled last.status t →
      (last :: (laterStops t cs).filter Stop.isStable).IsChain Follows ∧
      ∃ s, (last :: (laterStops t cs).filter Stop.isStable).getLast? = some s ∧
        Settled s.status (run t cs) := by
  intro cs
  induction cs with
  | nil =>
      intro t last h
      exact ⟨List.isChain_singleton last, last, rfl, h⟩
  | cons c cs ih =>
      intro t last h
      rcases call_step h c with ⟨⟨e, herr⟩, hset⟩ | ⟨hok, hpending, hset⟩ |
          ⟨hok, hstable, hfollows, hset⟩
      · rw [laterStops_cons_error herr]
        exact ih (t.call c).2 last hset
      · rw [laterStops_cons_ok hok, List.filter_cons_of_neg (by simp [hpending])]
        exact ih (t.call c).2 last hset
      · rw [laterStops_cons_ok hok, List.filter_cons_of_pos hstable]
        obtain ⟨hchain, s, hlast, hs⟩ := ih (t.call c).2 (stopOf t c) hset
        exact ⟨List.isChain_cons_cons.mpr ⟨hfollows, hchain⟩, s, by simpa using hlast, hs⟩

/-! ## Order of visits -/

/-- `b` can be visited after `a` in the plain lifecycle with repetitions. -/
def Later (a b : TransactionStatus) : Bool :=
  match a, b with
  | .created, .authorized => true
  | .created, .declined => true
  | .created, .failed => true
  | .created, .captured => true
  | .created, .refunded => true
  | .authorized, .authorized => true
  | .authorized, .captured => true
  | .authorized, .refunded => true
  | .captured, .captured => true
  | .captured, .refunded => true
  | _, _ => false

theorem later_trans {a b c : TransactionStatus} (hab : Later a b = true)
    (hbc : Later b c = true) : Later a c = true := by
  cases a <;> cases b <;> cases c <;> first | rfl | simp [Later] at hab hbc

theorem later_of_follows {a b : Stop} (h : Follows a b) : Later a.status b.status = true := by
  obtain ⟨a, ra⟩ := a
  obtain ⟨b, rb⟩ := b
  rcases h with hedge | ⟨heq, ⟨_, hb⟩ | ⟨_, hb⟩⟩
  · simp only at hedge ⊢
    cases a <;> revert hedge <;> revert b <;> decide
  · simp only at heq hb ⊢
    subst heq hb
    rfl
  · simp only at heq hb ⊢
    subst heq hb
    rfl

/-- Only `CAPTURED` stands right before `REFUNDED`. -/
theorem captured_of_follows_refunded {a b : Stop} (h : Follows a b) (hb : b.status = .refunded) :
    a.status = .captured := by
  obtain ⟨a, ra⟩ := a
  obtain ⟨b, rb⟩ := b
  simp only at hb
  subst hb
  rcases h with hedge | ⟨_, ⟨_, hb⟩ | ⟨_, hb⟩⟩
  · simp only at hedge ⊢
    cases a <;> simp [ordinaryTransitions] at hedge ⊢
  · simp at hb
  · simp at hb

/-- Two statuses of a run stand in the order of the lifecycle, one way or the other. -/
theorem later_or_later {l : List TransactionStatus}
    (h : l.Pairwise fun a b => Later a b = true) {a b : TransactionStatus} (ha : a ∈ l) (hb : b ∈ l)
    (hne : a ≠ b) : Later a b = true ∨ Later b a = true := by
  induction h with
  | nil =>
      simp at ha
  | cons hhead _ ih =>
      rcases List.mem_cons.mp ha with rfl | ha'
      · rcases List.mem_cons.mp hb with rfl | hb'
        · exact absurd rfl hne
        · exact .inl (hhead _ hb')
      · rcases List.mem_cons.mp hb with rfl | hb'
        · exact .inr (hhead _ ha')
        · exact ih ha' hb'

section Fresh

variable {t : Transaction} (h : t.status ≠ .pendingReconciliation) (cs : List Call)

include h

theorem stableStops_eq :
    stableStops t cs = startStop t :: (laterStops t cs).filter Stop.isStable := by
  have hstart : (startStop t).isStable = true := by
    simp [startStop, Stop.isStable, h]
  exact List.filter_cons_of_pos hstart

theorem stableStops_chain : (stableStops t cs).IsChain Follows := by
  rw [stableStops_eq h cs]
  exact (run_walk cs t (startStop t) (settled_of_status h)).1

theorem stable_pairwise :
    ((stableStops t cs).map Stop.status).Pairwise fun a b => Later a b = true := by
  have hlater : (stableStops t cs).IsChain fun a b => Later a.status b.status = true :=
    (stableStops_chain h cs).imp fun _ _ hf => later_of_follows hf
  have : Trans (fun a b : Stop => Later a.status b.status = true)
      (fun a b : Stop => Later a.status b.status = true)
      (fun a b : Stop => Later a.status b.status = true) :=
    ⟨fun hab hbc => later_trans hab hbc⟩
  exact List.pairwise_map.mpr hlater.pairwise

end Fresh

/-- Erasing `PENDING_RECONCILIATION` from the visited statuses gives the stable ones. -/
theorem visited_filter (t : Transaction) (cs : List Call) :
    (visited t cs).filter (fun s => s ≠ .pendingReconciliation) =
      (stableStops t cs).map Stop.status := by
  simp only [visited, stableStops, List.filter_map]
  rfl

theorem mem_stable_of_visited {t : Transaction} {cs : List Call} {s : TransactionStatus}
    (hs : s ∈ visited t cs) (hne : s ≠ .pendingReconciliation) :
    s ∈ (stableStops t cs).map Stop.status := by
  rw [← visited_filter]
  simpa [hne] using hs

/-- The stable statuses around a visit of `s`. -/
theorem stable_split {t : Transaction} {cs : List Call} {s : TransactionStatus}
    {before after : List TransactionStatus} (hsplit : visited t cs = before ++ s :: after)
    (hne : s ≠ .pendingReconciliation) :
    (stableStops t cs).map Stop.status =
      before.filter (fun x => x ≠ .pendingReconciliation) ++
        s :: after.filter (fun x => x ≠ .pendingReconciliation) := by
  rw [← visited_filter, hsplit, List.filter_append, List.filter_cons_of_pos (by simpa using hne)]

section Visited

variable {t : Transaction} (h : t.status ≠ .pendingReconciliation) {cs : List Call}

include h

/-- Of two stable statuses that do not follow each other a run visits one at most. -/
theorem not_visited_of_visited {a b : TransactionStatus} (ha : a ≠ .pendingReconciliation)
    (hb : b ≠ .pendingReconciliation) (hne : a ≠ b) (hab : Later a b = false)
    (hba : Later b a = false) (hva : a ∈ visited t cs) : b ∉ visited t cs := by
  intro hvb
  rcases later_or_later (stable_pairwise h cs) (mem_stable_of_visited hva ha)
    (mem_stable_of_visited hvb hb) hne with hl | hl
  · simp [hab] at hl
  · simp [hba] at hl

/-- A stable status is not visited again after one that it does not follow. -/
theorem not_visited_after {a b : TransactionStatus} (ha : a ≠ .pendingReconciliation)
    (hb : b ≠ .pendingReconciliation) (hab : Later a b = false)
    {before after : List TransactionStatus} (hsplit : visited t cs = before ++ a :: after) :
    b ∉ after := by
  intro hmem
  have hpairs := stable_pairwise h cs
  rw [stable_split hsplit ha] at hpairs
  have hafter := (List.pairwise_cons.mp (List.pairwise_append.mp hpairs).2.1).1
  have hstable : b ∈ after.filter (fun x => x ≠ .pendingReconciliation) := by
    simpa [hb] using hmem
  simpa [hab] using hafter b hstable

/-- A stable status that does not follow itself is visited once at most. -/
theorem count_visited_le_one {a : TransactionStatus} (ha : a ≠ .pendingReconciliation)
    (haa : Later a a = false) : (visited t cs).count a ≤ 1 := by
  by_contra hcount
  -- two visits would have to follow each other
  have hcount' : 2 ≤ ((stableStops t cs).map Stop.status).count a := by
    rw [← visited_filter, List.count_filter (by simpa using ha)]
    omega
  have hsub : (List.replicate 2 a).Sublist ((stableStops t cs).map Stop.status) :=
    List.replicate_sublist_iff.mpr hcount'
  have hpair := (stable_pairwise h cs).sublist hsub
  simp [List.replicate, haa] at hpair

/-- A run ends in `PENDING_RECONCILIATION` with the operation of its last stable status. -/
theorem pending_of_last (hpending : (run t cs).status = .pendingReconciliation) :
    ∃ last op, (stableStops t cs).getLast? = some last ∧
      reconciliationEntries last.status = some op ∧ (run t cs).pendingOperation = some op := by
  obtain ⟨last, hlast, hset⟩ := (run_walk cs t (startStop t) (settled_of_status h)).2
  obtain ⟨op, hop⟩ := Option.isSome_iff_exists.mp (hset.pending_isSome hpending)
  refine ⟨last, op, ?_, ?_, hop⟩
  · rw [stableStops_eq h cs]
    exact hlast
  · rw [← hset.pending_eq hpending, hop]

end Visited

/-- Right before a stable `REFUNDED` stands `CAPTURED`, whatever list of stops it ends. -/
theorem captured_before_refunded :
    ∀ {l : List Stop} {before after : List TransactionStatus}, l.IsChain Follows →
      (∀ s ∈ l.head?, s.status ≠ .refunded) →
      l.map Stop.status = before ++ .refunded :: after → .captured ∈ before := by
  intro l
  induction l with
  | nil =>
      intro before after _ _ hsplit
      simp at hsplit
  | cons a l ih =>
      intro before after hchain hhead hsplit
      cases before with
      | nil =>
          -- the list would start with `REFUNDED`
          have : a.status = .refunded := by
            simpa using congrArg List.head? hsplit
          exact absurd this (hhead a (by simp))
      | cons b before =>
          obtain ⟨rfl, hrest⟩ : a.status = b ∧ l.map Stop.status = before ++ .refunded :: after := by
            simpa using hsplit
          cases l with
          | nil =>
              simp at hrest
          | cons a' l =>
              obtain ⟨hfollows, hchain'⟩ := List.isChain_cons_cons.mp hchain
              by_cases hr : a'.status = .refunded
              · simp [captured_of_follows_refunded hfollows hr]
              · have : .captured ∈ before :=
                  ih hchain' (by simpa using hr) hrest
                exact List.mem_cons_of_mem _ this

/-! ## The lifecycle with ambiguity refines the plain lifecycle -/

theorem new_status {id : PyStr} {t : Transaction} (h : Transaction.new id = .ok t) :
    t = ⟨id, .created, 0, none⟩ := by
  by_cases hblank : strip id = []
  · simp [Transaction.new, Transaction.init, hblank] at h
  · simpa [Transaction.new, Transaction.init, hblank, validatePending] using h.symm

/-- Every run of a freshly created transaction: the stable stops walk the plain lifecycle with the
two allowed repetitions; a pending operation is the one of the last stable status; a transaction
that was authorized is never declined or failed, never goes back from captured to authorized, and
is refunded at most once, after having been captured. -/
theorem lifecycle_refines_plain {id : PyStr} {t : Transaction} (h : Transaction.new id = .ok t)
    (cs : List Call) :
    (stableStops t cs).IsChain Follows ∧
    ((run t cs).status = .pendingReconciliation →
      ∃ last op, (stableStops t cs).getLast? = some last ∧
        reconciliationEntries last.status = some op ∧ (run t cs).pendingOperation = some op) ∧
    (.authorized ∈ visited t cs → .declined ∉ visited t cs ∧ .failed ∉ visited t cs) ∧
    (∀ before after, visited t cs = before ++ .captured :: after → .authorized ∉ after) ∧
    (visited t cs).count .refunded ≤ 1 ∧
    (∀ before after, visited t cs = before ++ .refunded :: after → .captured ∈ before) := by
  have hcreated : t.status ≠ .pendingReconciliation := by
    simp [new_status h]
  refine ⟨stableStops_chain hcreated cs, pending_of_last hcreated, ?_, ?_,
    count_visited_le_one hcreated (by decide) rfl, ?_⟩
  · intro hauth
    have hdeclined := not_visited_of_visited (b := .declined) hcreated (by decide) (by decide)
      (by decide) rfl rfl hauth
    have hfailed := not_visited_of_visited (b := .failed) hcreated (by decide) (by decide)
      (by decide) rfl rfl hauth
    exact ⟨hdeclined, hfailed⟩
  · intro before after hsplit
    exact not_visited_after hcreated (by decide) (by decide) rfl hsplit
  · -- the refund comes from a capture, and the run does not start refunded
    intro before after hsplit
    have hmem := captured_before_refunded (stableStops_chain hcreated cs)
      (by
        rw [stableStops_eq hcreated cs]
        simp [startStop, new_status h])
      (stable_split hsplit (by decide))
    exact List.mem_of_mem_filter hmem

/-- A capture whose outcome was unknown and turned out not to have happened, then a capture and a
refund whose outcome is unknown; at last the refund is confirmed, and asked for once more. -/
theorem lifecycle_refines_plain_capture_retry :
    let t : Transaction := ⟨py "txn_1", .created, 0, none⟩
    let asked : List Call :=
      [.transitionTo (.inst .authorized), .markPendingReconciliation (.inst .capture),
        .resolveReconciliation (.inst .authorized), .transitionTo (.inst .failed),
        .transitionTo (.inst .captured), .markPendingReconciliation (.inst .refund)]
    let refunded : List Call :=
      asked ++ [.resolveReconciliation (.inst .refunded), .transitionTo (.inst .refunded)]
    (stableStops t refunded).IsChain Follows ∧
      (∃ last op, (stableStops t asked).getLast? = some last ∧
        reconciliationEntries last.status = some op ∧ (run t asked).pendingOperation = some op) ∧
      (.declined ∉ visited t refunded ∧ .failed ∉ visited t refunded) ∧
      (visited t refunded).count .refunded ≤ 1 ∧
      ∃ before after, visited t refunded = before ++ .refunded :: after ∧ .captured ∈ before := by
  intro t asked refunded
  have hasked := @lifecycle_refines_plain (py "txn_1") t rfl asked
  have hrefunded := @lifecycle_refines_plain (py "txn_1") t rfl refunded
  rcases hrefunded with ⟨hchain, _, hauthorized, _, hcount, hcaptured⟩
  have hmem : .refunded ∈ visited t refunded := by decide
  rcases List.append_of_mem hmem with ⟨before, after, hsplit⟩
  exact ⟨hchain, hasked.2.1 (by decide), hauthorized (by decide), hcount, before, after, hsplit,
    hcaptured before after hsplit⟩

end Transaction
end Domain
end TransactionPlatform
