import TransactionPlatform.Lib.ReadCommitted

/-!
# Layout — one row store kept inside another

A layout places the keys of a store with typed rows among the keys of a store with rows of one type.
Every operation of the server commutes with it.
-/

namespace TransactionPlatform
namespace ReadCommitted

/-- Where a row is placed and how it is encoded.  `find` undoes `place`. -/
structure Layout {Key : Type} (Row : Key → Type) (Key' V : Type) where
  place : Key → Key'
  find : Key' → Option Key
  find_eq_some : ∀ {k' k}, find k' = some k ↔ place k = k'
  encode : (k : Key) → Row k → V

namespace Layout

variable {Key Key' V ι : Type} {Row : Key → Type} (L : Layout Row Key' V)

def store (T : Store Row) : Store (fun _ : Key' => V) :=
  fun k' =>
    match L.find k' with
    | some k => (T k).map (L.encode k)
    | none => none

def server (s : Server Row ι) : Server (fun _ : Key' => V) ι :=
  { committed := L.store s.committed
    pending := fun c => L.store (s.pending c)
    holder := fun k' => (L.find k').bind s.holder }

@[simp] theorem find_place (k : Key) : L.find (L.place k) = some k :=
  L.find_eq_some.mpr rfl

@[simp] theorem store_place (T : Store Row) (k : Key) :
    L.store T (L.place k) = (T k).map (L.encode k) := by
  simp [store]

/-- A row of the outer store is a placed row of the inner one. -/
theorem store_eq_some {T : Store Row} {k' : Key'} {v : V} (h : L.store T k' = some v) :
    ∃ k row, k' = L.place k ∧ T k = some row ∧ v = L.encode k row := by
  unfold store at h
  cases hfind : L.find k' with
  | none =>
      rw [hfind] at h
      cases h
  | some k =>
      rw [hfind] at h
      rcases Option.map_eq_some_iff.mp h with ⟨row, hrow, rfl⟩
      exact ⟨k, row, (L.find_eq_some.mp hfind).symm, hrow, rfl⟩

theorem store_empty : L.store (fun _ => none) = fun _ => none := by
  funext k'
  unfold store
  cases L.find k' <;> rfl

theorem store_overlay (top base : Store Row) :
    L.store (overlay top base) = overlay (L.store top) (L.store base) := by
  funext k'
  simp only [store, overlay]
  cases L.find k' with
  | none =>
      rfl
  | some k =>
      cases h : top k <;> simp [h]

theorem store_update [DecidableEq Key] [DecidableEq Key'] (T : Store Row) (k : Key) (row : Row k) :
    L.store (Function.update T k (some row)) =
      Function.update (L.store T) (L.place k) (some (L.encode k row)) := by
  funext k'
  by_cases hk : k' = L.place k
  · subst hk
    simp
  · rw [Function.update_of_ne hk]
    unfold store
    cases hfind : L.find k' with
    | none =>
        rfl
    | some k₁ =>
        have hne : k₁ ≠ k := by
          intro heq
          exact hk (by rw [← L.find_eq_some.mp hfind, heq])
        simp [hne]

/-! ## The operations of the server -/

@[simp] theorem server_fresh (T : Store Row) :
    L.server (Server.fresh T : Server Row ι) = Server.fresh (L.store T) := by
  simp [server, Server.fresh, store_empty]

theorem server_view (s : Server Row ι) (c : ι) (k' : Key') :
    (L.server s).view c k' = L.store (s.view c) k' := by
  have hoverlay := congrFun (L.store_overlay (s.pending c) s.committed) k'
  exact hoverlay.symm

@[simp] theorem server_view_place (s : Server Row ι) (c : ι) (k : Key) :
    (L.server s).view c (L.place k) = (s.view c k).map (L.encode k) := by
  rw [server_view, store_place]

variable [DecidableEq ι]

@[simp] theorem server_blocked_place (s : Server Row ι) (c : ι) (k : Key) :
    (L.server s).blocked c (L.place k) = s.blocked c k := by
  simp [Server.blocked, server]

theorem server_write [DecidableEq Key] [DecidableEq Key'] (s : Server Row ι) (c : ι) (k : Key)
    (row : Row k) :
    L.server (s.write c k row) = (L.server s).write c (L.place k) (L.encode k row) := by
  have hpending : (fun c' => L.store ((s.write c k row).pending c')) =
      ((L.server s).write c (L.place k) (L.encode k row)).pending := by
    funext c'
    by_cases hc : c' = c
    · subst hc
      simp [server, store_update]
    · rw [Server.write_pending_of_ne _ _ _ hc, Server.write_pending_of_ne _ _ _ hc]
      rfl
  have hholder : (fun k' => (L.find k').bind (s.write c k row).holder) =
      ((L.server s).write c (L.place k) (L.encode k row)).holder := by
    funext k'
    by_cases hk : k' = L.place k
    · subst hk
      simp [Server.write]
    · cases hfind : L.find k' with
      | none =>
          simp [Server.write, server, hk, hfind]
      | some k₁ =>
          have hne : k₁ ≠ k := by
            intro heq
            exact hk (by rw [← L.find_eq_some.mp hfind, heq])
          simp [Server.write, server, hk, hfind, hne]
  simp only [server, hpending, hholder]
  rfl

theorem server_rollback (s : Server Row ι) (c : ι) :
    L.server (s.rollback c) = (L.server s).rollback c := by
  have hpending : (fun c' => L.store ((s.rollback c).pending c')) =
      ((L.server s).rollback c).pending := by
    funext c'
    by_cases hc : c' = c
    · subst hc
      simp [store_empty]
    · rw [Server.rollback_pending_of_ne _ hc, Server.rollback_pending_of_ne _ hc]
      rfl
  have hholder : (fun k' => (L.find k').bind (s.rollback c).holder) =
      ((L.server s).rollback c).holder := by
    funext k'
    cases hfind : L.find k' <;> simp [Server.rollback, server, hfind]
  simp only [server, hpending, hholder]
  rfl

theorem server_commit (s : Server Row ι) (c : ι) :
    L.server (s.commit c) = (L.server s).commit c := by
  calc
    L.server (s.commit c)
        = { L.server (s.rollback c) with committed := L.store (overlay (s.pending c) s.committed) } :=
          rfl
    _ = (L.server s).commit c := by
          rw [L.store_overlay, L.server_rollback]
          rfl

end Layout

end ReadCommitted
end TransactionPlatform
