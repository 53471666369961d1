import Mathlib.Logic.Function.Basic

/-!
# ReadCommitted — a row store with READ COMMITTED transactions

The database holds the committed version of every row.  Each session `c` has at most one open
transaction, whose uncommitted row versions are `pending c`; writing a row takes the lock of its
primary key, and the locks are given back when the transaction ends.  A statement sees its own
session's pending versions over the committed ones, as of the moment it runs.

Rows of different tables live in one store: `Key` ranges over the primary keys of all tables and
`Row k` is the row type of the table `k` belongs to.
-/

namespace TransactionPlatform
namespace ReadCommitted

abbrev Store {Key : Type} (Row : Key → Type) := (k : Key) → Option (Row k)

structure Server {Key : Type} (Row : Key → Type) (ι : Type) where
  committed : Store Row
  pending : ι → Store Row
  holder : Key → Option ι

variable {Key : Type} {Row : Key → Type} {ι : Type}

/-- The store with the rows of `top` laid over those of `base`. -/
def overlay (top base : Store Row) : Store Row :=
  fun k => (top k).or (base k)

namespace Server

def fresh (tables : Store Row) : Server Row ι :=
  { committed := tables
    pending := fun _ _ => none
    holder := fun _ => none }

/-- What a statement of session `c` sees at key `k`. -/
def view (s : Server Row ι) (c : ι) (k : Key) : Option (Row k) :=
  (s.pending c k).or (s.committed k)

/-- A key is held by the session that has a pending version of its row. -/
def Consistent (s : Server Row ι) : Prop :=
  ∀ c k, s.holder k = some c ↔ (s.pending c k).isSome

/-- A session without pending versions sees the committed rows. -/
theorem view_of_pending_eq_none {s : Server Row ι} {c : ι} {k : Key} (h : s.pending c k = none) :
    s.view c k = s.committed k := by
  simp [view, h]

theorem consistent_fresh (tables : Store Row) :
    (fresh tables : Server Row ι).Consistent := by
  intro c k
  simp [fresh]

/-- Two sessions never have pending versions of one row. -/
theorem Consistent.pending_eq_none {s : Server Row ι} (h : s.Consistent) {c c' : ι} {k : Key}
    (hne : c' ≠ c) (hsome : (s.pending c k).isSome) : s.pending c' k = none := by
  by_contra hcon
  have hsome' : (s.pending c' k).isSome := Option.isSome_iff_ne_none.mpr hcon
  have hboth : some c = some c' := ((h c k).mpr hsome).symm.trans ((h c' k).mpr hsome')
  exact hne (Option.some.inj hboth).symm

/-! ## The end of a transaction -/

section Sessions

variable [DecidableEq ι]

/-- A write of session `c` at `k` has to wait for another open transaction. -/
def blocked (s : Server Row ι) (c : ι) (k : Key) : Bool :=
  match s.holder k with
  | some h => h ≠ c
  | none => false

/-- End the transaction of `c`: forget its pending versions and give its locks back. -/
def rollback (s : Server Row ι) (c : ι) : Server Row ι :=
  { s with
    pending := Function.update s.pending c (fun _ => none)
    holder := fun k => if s.holder k = some c then none else s.holder k }

def commit (s : Server Row ι) (c : ι) : Server Row ι :=
  { s.rollback c with committed := overlay (s.pending c) s.committed }

section Fields

variable (s : Server Row ι) (c c' : ι)

@[simp] theorem rollback_committed : (s.rollback c).committed = s.committed := rfl

@[simp] theorem commit_committed :
    (s.commit c).committed = overlay (s.pending c) s.committed := rfl

@[simp] theorem rollback_pending_self : (s.rollback c).pending c = fun _ => none := by
  simp [rollback]

@[simp] theorem commit_pending_self : (s.commit c).pending c = fun _ => none := by
  simp [commit]

variable {c c'}

theorem rollback_pending_of_ne (h : c' ≠ c) : (s.rollback c).pending c' = s.pending c' := by
  simp [rollback, h]

theorem commit_pending_of_ne (h : c' ≠ c) : (s.commit c).pending c' = s.pending c' := by
  simp [commit, rollback, h]

end Fields

theorem Consistent.rollback {s : Server Row ι} (h : s.Consistent) (c : ι) :
    (s.rollback c).Consistent := by
  intro c' k
  by_cases hc : c' = c
  · subst hc
    by_cases hhold : s.holder k = some c'
    · simp [Server.rollback, hhold]
    · simp [Server.rollback, hhold]
  · have hk := h c' k
    by_cases hhold : s.holder k = some c
    · have hne : ¬ (s.pending c' k).isSome := by
        intro hsome
        have : some c = some c' := hhold.symm.trans (hk.mpr hsome)
        exact hc (Option.some.inj this).symm
      simpa [Server.rollback, hhold, hc] using hne
    · simpa [Server.rollback, hhold, hc] using hk

theorem Consistent.commit {s : Server Row ι} (h : s.Consistent) (c : ι) :
    (s.commit c).Consistent := by
  intro c' k
  exact h.rollback c c' k

/-- The committed version of a row stays as it is while a session holds its lock. -/
theorem Consistent.commit_committed_eq {s : Server Row ι} (h : s.Consistent) {c c' : ι} {k : Key}
    (hne : c' ≠ c) (hsome : (s.pending c k).isSome) :
    (s.commit c').committed k = s.committed k := by
  simp [overlay, h.pending_eq_none hne hsome]

/-- Committing never removes a row. -/
theorem commit_committed_isSome {s : Server Row ι} (c : ι) {k : Key}
    (hsome : (s.committed k).isSome) : ((s.commit c).committed k).isSome := by
  simp only [commit_committed, overlay]
  cases hp : s.pending c k with
  | none =>
      simpa using hsome
  | some row =>
      simp

/-! ## Writes -/

section Write

variable [DecidableEq Key]

def write (s : Server Row ι) (c : ι) (k : Key) (row : Row k) : Server Row ι :=
  { s with
    pending := Function.update s.pending c (Function.update (s.pending c) k (some row))
    holder := Function.update s.holder k (some c) }

section Fields

variable (s : Server Row ι) (c c' : ι) (k : Key) (row : Row k)

@[simp] theorem write_committed : (s.write c k row).committed = s.committed := rfl

@[simp] theorem write_pending_self :
    (s.write c k row).pending c = Function.update (s.pending c) k (some row) := by
  simp [write]

variable {c c'}

theorem write_pending_of_ne (h : c' ≠ c) : (s.write c k row).pending c' = s.pending c' := by
  simp [write, h]

end Fields

theorem Consistent.write {s : Server Row ι} (h : s.Consistent) {c : ι} {k : Key}
    (hfree : s.blocked c k = false) (row : Row k) : (s.write c k row).Consistent := by
  intro c' k'
  by_cases hk : k' = k
  · subst hk
    by_cases hc : c' = c
    · subst hc
      simp [Server.write]
    · -- nobody else had a version of this row, or the write would have waited
      have hnone : ¬ (s.pending c' k').isSome := by
        intro hsome
        have hhold : s.holder k' = some c' := (h c' k').mpr hsome
        simp [blocked, hhold, hc] at hfree
      simp only [write_pending_of_ne s k' row hc]
      constructor
      · intro hhold
        have : some c = some c' := by simpa [Server.write] using hhold
        exact absurd (Option.some.inj this).symm hc
      · intro hsome
        exact absurd hsome hnone
  · by_cases hc : c' = c
    · subst hc
      simpa [Server.write, hk] using h c' k'
    · simpa [Server.write, hk, hc] using h c' k'

end Write

end Sessions

end Server

end ReadCommitted
end TransactionPlatform
