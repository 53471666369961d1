import Mathlib.Logic.Relator
import TransactionPlatform.Lib.ReadCommitted

/-!
# Likeness — servers that no statement can tell apart

A likeness pairs primary keys with primary keys and rows with rows, and says which sessions are in
view.  Two servers are alike when paired keys have paired rows and the same lock holder; keys and
sessions outside of the likeness may differ in any way.  Every operation of a session in view, done
on both servers at paired keys with paired rows, leaves them alike, and an operation of any other
session leaves them alike as long as it stays away from the keys of the likeness.
-/

namespace TransactionPlatform
namespace ReadCommitted

variable {Key : Type} {Row : Key → Type} {ι : Type}

/-! ## Options -/

theorem rel_cases {α β : Type} {R : α → β → Prop} {x : Option α} {y : Option β}
    (h : Option.Rel R x y) :
    (x = none ∧ y = none) ∨ ∃ a b, x = some a ∧ y = some b ∧ R a b := by
  cases h with
  | none =>
      exact .inl ⟨rfl, rfl⟩
  | some hab =>
      exact .inr ⟨_, _, rfl, rfl, hab⟩

theorem rel_some {α β : Type} {R : α → β → Prop} {x : Option α} {y : Option β} {a : α}
    (h : Option.Rel R x y) (hx : x = some a) : ∃ b, y = some b ∧ R a b := by
  subst hx
  cases h with
  | some hab =>
      exact ⟨_, rfl, hab⟩

theorem rel_isSome {α β : Type} {R : α → β → Prop} {x : Option α} {y : Option β}
    (h : Option.Rel R x y) : x.isSome = y.isSome := by
  cases h <;> rfl

theorem rel_isNone {α β : Type} {R : α → β → Prop} {x : Option α} {y : Option β}
    (h : Option.Rel R x y) : x.isNone = y.isNone := by
  cases h <;> rfl

theorem rel_or {α β : Type} {R : α → β → Prop} {x x' : Option α} {y y' : Option β}
    (h : Option.Rel R x y) (h' : Option.Rel R x' y') : Option.Rel R (x.or x') (y.or y') := by
  cases h with
  | none =>
      exact h'
  | some hab =>
      exact .some hab

/-! ## Likenesses -/

structure Likeness (Row : Key → Type) (ι : Type) where
  keys : Key → Key → Prop
  rows : ∀ k k', Row k → Row k' → Prop
  sessions : ι → Prop
  keys_unique : Relator.BiUnique keys

namespace Likeness

variable {L : Likeness Row ι}

/-- Paired keys have paired rows. -/
def Stores (L : Likeness Row ι) (S S' : Store Row) : Prop :=
  ∀ k k', L.keys k k' → Option.Rel (L.rows k k') (S k) (S' k')

structure Servers (L : Likeness Row ι) (s s' : Server Row ι) : Prop where
  committed : L.Stores s.committed s'.committed
  pending : ∀ c, L.sessions c → L.Stores (s.pending c) (s'.pending c)
  holder : ∀ k k', L.keys k k' → s.holder k = s'.holder k'

theorem keys_iff {k₁ k₁' k₂ k₂' : Key} (h₁ : L.keys k₁ k₁') (h₂ : L.keys k₂ k₂') :
    k₁ = k₂ ↔ k₁' = k₂' := by
  constructor
  · rintro rfl
    exact L.keys_unique.2 h₁ h₂
  · rintro rfl
    exact L.keys_unique.1 h₁ h₂

/-! ## Stores -/

theorem stores_none : L.Stores (fun _ => none) (fun _ => none) :=
  fun _ _ _ => .none

theorem Stores.overlay {S S' T T' : Store Row} (h : L.Stores S S') (hT : L.Stores T T') :
    L.Stores (overlay S T) (overlay S' T') :=
  fun k k' hk => rel_or (h k k' hk) (hT k k' hk)

theorem Stores.update [DecidableEq Key] {S S' : Store Row} (h : L.Stores S S') {k k' : Key} (hk : L.keys k k')
    {row : Row k} {row' : Row k'} (hrow : L.rows k k' row row') :
    L.Stores (Function.update S k (some row)) (Function.update S' k' (some row')) := by
  intro k₁ k₁' hk₁
  by_cases heq : k₁ = k
  · subst heq
    obtain rfl := (keys_iff hk₁ hk).mp rfl
    simpa using hrow
  · have hne : k₁' ≠ k' := fun heq' => heq ((keys_iff hk₁ hk).mpr heq')
    simpa [heq, hne] using h k₁ k₁' hk₁

/-! ## Statements of a session in view -/

namespace Servers

variable {s s' : Server Row ι} {c : ι} {k k' : Key}

theorem fresh {T T' : Store Row} (h : L.Stores T T') :
    L.Servers (Server.fresh T) (Server.fresh T') where
  committed := h
  pending := fun _ _ => stores_none
  holder := fun _ _ _ => rfl

theorem view (h : L.Servers s s') (hc : L.sessions c) (hk : L.keys k k') :
    Option.Rel (L.rows k k') (s.view c k) (s'.view c k') :=
  rel_or (h.pending c hc k k' hk) (h.committed k k' hk)

variable [DecidableEq ι]

theorem blocked (h : L.Servers s s') (hk : L.keys k k') :
    s.blocked c k = s'.blocked c k' := by
  unfold Server.blocked
  rw [h.holder k k' hk]

theorem write [DecidableEq Key] (h : L.Servers s s') (hc : L.sessions c) (hk : L.keys k k')
    {row : Row k} {row' : Row k'} (hrow : L.rows k k' row row') :
    L.Servers (s.write c k row) (s'.write c k' row') where
  committed := h.committed
  pending := by
    intro c₁ hc₁
    by_cases heq : c₁ = c
    · subst heq
      rw [Server.write_pending_self, Server.write_pending_self]
      exact (h.pending c₁ hc).update hk hrow
    · rw [Server.write_pending_of_ne _ _ _ heq, Server.write_pending_of_ne _ _ _ heq]
      exact h.pending c₁ hc₁
  holder := by
    intro k₁ k₁' hk₁
    by_cases heq : k₁ = k
    · have heq' : k₁' = k' := (keys_iff hk₁ hk).mp heq
      simp [Server.write, heq, heq']
    · have hne : k₁' ≠ k' := fun heq' => heq ((keys_iff hk₁ hk).mpr heq')
      simpa [Server.write, heq, hne] using h.holder k₁ k₁' hk₁

theorem rollback (h : L.Servers s s') (c : ι) : L.Servers (s.rollback c) (s'.rollback c) where
  committed := h.committed
  pending := by
    intro c₁ hc₁
    by_cases heq : c₁ = c
    · subst heq
      rw [Server.rollback_pending_self, Server.rollback_pending_self]
      exact stores_none
    · rw [Server.rollback_pending_of_ne _ heq, Server.rollback_pending_of_ne _ heq]
      exact h.pending c₁ hc₁
  holder := by
    intro k₁ k₁' hk₁
    simp only [Server.rollback, h.holder k₁ k₁' hk₁]

theorem commit (h : L.Servers s s') (hc : L.sessions c) :
    L.Servers (s.commit c) (s'.commit c) where
  committed := (h.pending c hc).overlay h.committed
  pending := (h.rollback c).pending
  holder := (h.rollback c).holder

/-! ## Statements of other sessions -/

/-- A session out of view that has no row of the likeness pending, before and after, leaves the
servers alike. -/
theorem frame {t : Server Row ι} (h : L.Servers s s') (hs : s.Consistent) (ht : t.Consistent)
    (hc : ¬ L.sessions c) (hothers : ∀ c', c' ≠ c → t.pending c' = s.pending c')
    (hcommitted : t.committed = s.committed ∨ t.committed =
      overlay (s.pending c) s.committed)
    (hbefore : ∀ k k', L.keys k k' → s.pending c k = none)
    (hafter : ∀ k k', L.keys k k' → t.pending c k = none) : L.Servers t s' where
  committed := by
    intro k k' hk
    have hsame : t.committed k = s.committed k := by
      rcases hcommitted with heq | heq
      · rw [heq]
      · simp [heq, overlay, hbefore k k' hk]
    rw [hsame]
    exact h.committed k k' hk
  pending := by
    intro c' hc'
    have hne : c' ≠ c := by
      rintro rfl
      exact hc hc'
    rw [hothers c' hne]
    exact h.pending c' hc'
  holder := by
    intro k k' hk
    rw [← h.holder k k' hk]
    -- the lock of `k` is never with `c`, so the same session has it before and after
    have hiff : ∀ c', t.holder k = some c' ↔ s.holder k = some c' := by
      intro c'
      rw [ht c' k, hs c' k]
      by_cases heq : c' = c
      · rw [heq, hbefore k k' hk, hafter k k' hk]
      · rw [hothers c' heq]
    exact Option.ext hiff

end Servers

end Likeness

end ReadCommitted
end TransactionPlatform
