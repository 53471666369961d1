import TransactionPlatform.Lib.Relational

/-!
# Integrity — every stored row keeps to its table's definition

Rows are judged by what a session sees: a committed row by the committed rows, an uncommitted one by
the view of the session that wrote it.  Nothing a statement does removes a row from a view but the
end of that session's own transaction, so foreign keys hold across all interleavings.
-/

namespace TransactionPlatform
namespace Relational

open Text Sql ReadCommitted Transition

variable {Ty : Type} {types : TypeSystem Ty}

/-! ## Loops that may fail -/

theorem mapM_ok {α β ε : Type} {f : α → Except ε β} {l : List α} {bs : List β}
    (h : l.mapM f = .ok bs) : List.Forall₂ (fun a b => f a = .ok b) l bs := by
  induction l generalizing bs with
  | nil =>
      cases h
      exact .nil
  | cons a l ih =>
      rw [List.mapM_cons] at h
      cases ha : f a with
      | error e =>
          rw [ha] at h
          cases h
      | ok b =>
          cases hl : l.mapM f with
          | error e =>
              rw [ha, hl] at h
              cases h
          | ok rest =>
              rw [ha, hl] at h
              cases h
              exact .cons ha (ih hl)

theorem mem_of_mapM_ok {α β ε : Type} {f : α → Except ε β} {l : List α} {bs : List β}
    (h : l.mapM f = .ok bs) {b : β} (hb : b ∈ bs) : ∃ a ∈ l, f a = .ok b := by
  have hall := mapM_ok h
  clear h
  induction hall with
  | nil =>
      cases hb
  | cons hfirst _ ih =>
      rcases List.mem_cons.mp hb with rfl | hrest
      · exact ⟨_, List.mem_cons_self, hfirst⟩
      · rcases ih hrest with ⟨a, ha, hfa⟩
        exact ⟨a, List.mem_cons_of_mem _ ha, hfa⟩

/-! ## Rows by column names -/

theorem get_zip_map {names : List PyStr} {row : SqlRow} {f : PyStr → Value → Value} {name : PyStr} :
    Dict.get (names.zip ((names.zip row).map fun (n, v) => f n v)) name =
      (Dict.get (names.zip row) name).map (f name) := by
  induction names generalizing row with
  | nil =>
      rfl
  | cons n names ih =>
      cases row with
      | nil =>
          rfl
      | cons v row =>
          simp only [List.zip_cons_cons, List.map_cons, Dict.get_cons]
          by_cases h : name = n
          · simp [h]
          · simp [h, ih]

theorem get_eq_none {α : Type} {d : Dict α} {key : PyStr} (h : ∀ e ∈ d, e.1 ≠ key) :
    Dict.get d key = none := by
  induction d with
  | nil =>
      rfl
  | cons e d ih =>
      rcases e with ⟨k, v⟩
      have hne : key ≠ k := fun heq => h (k, v) (by simp) heq.symm
      rw [Dict.get_cons, if_neg hne]
      exact ih fun e he => h e (List.mem_cons_of_mem _ he)

theorem mem_of_get {α : Type} {d : Dict α} {key : PyStr} {v : α} (h : Dict.get d key = some v) :
    (key, v) ∈ d := by
  induction d with
  | nil =>
      cases h
  | cons e d ih =>
      rcases e with ⟨k, w⟩
      rw [Dict.get_cons] at h
      split at h
      · rename_i hk
        cases h
        rw [hk]
        exact List.mem_cons_self
      · exact List.mem_cons_of_mem _ (ih h)

namespace Table

/-- A column keeps its value when it is not assigned. -/
theorem get_named_updated (t : Table Ty) (values : Dict Value) (row : SqlRow) (name : PyStr) :
    Dict.get (t.named (t.updated values row)) name =
      (Dict.get (t.named row) name).map fun v => (Dict.get values name).getD v := by
  exact get_zip_map (f := fun n v => (Dict.get values n).getD v)

theorem get_named_updated_of_not_assigned {t : Table Ty} {values : Dict Value} {name : PyStr}
    (h : ∀ e ∈ values, e.1 ≠ name) (row : SqlRow) :
    Dict.get (t.named (t.updated values row)) name = Dict.get (t.named row) name := by
  rw [get_named_updated, get_eq_none h]
  cases Dict.get (t.named row) name <;> rfl

/-- With distinct names, a column is found under its name. -/
theorem column_of_mem {t : Table Ty} (h : t.columnNames.Nodup) {col : Column Ty}
    (hcol : col ∈ t.columns) : t.column col.name = some col := by
  have hfind : ∀ cols : List (Column Ty), (cols.map Column.name).Nodup → col ∈ cols →
      cols.find? (fun other => other.name = col.name) = some col := by
    intro cols
    induction cols with
    | nil =>
        intro _ hmem
        cases hmem
    | cons first rest ih =>
        intro hnodup hmem
        rw [List.map_cons, List.nodup_cons] at hnodup
        rcases List.mem_cons.mp hmem with rfl | hrest
        · simp
        · have hne : first.name ≠ col.name := by
            intro heq
            exact hnodup.1 (heq ▸ List.mem_map_of_mem hrest)
          rw [List.find?_cons_of_neg (by simpa using hne)]
          exact ih hnodup.2 hrest
  exact hfind t.columns h hcol

/-- The primary key is not assigned, so it stays. -/
theorem key_updated {t : Table Ty} {values : Dict Value}
    (h : ∀ e ∈ values, t.isKeyColumn e.1 = false) (row : SqlRow) :
    t.key (t.updated values row) = t.key row := by
  have hprimary : ∀ e ∈ values, e.1 ≠ t.primaryKey := by
    intro e he heq
    have hkey := h e he
    simp [isKeyColumn, heq] at hkey
  unfold key
  rw [get_named_updated_of_not_assigned hprimary]

/-- Nor is a foreign key. -/
theorem refers_updated {t : Table Ty} {values : Dict Value}
    (h : ∀ e ∈ values, t.isKeyColumn e.1 = false) (view : Rows) (row : SqlRow) {fk : ForeignKey}
    (hfk : fk ∈ t.foreignKeys) : t.refers view (t.updated values row) fk = t.refers view row fk := by
  have hforeign : ∀ e ∈ values, e.1 ≠ fk.column := by
    intro e he heq
    have hkey := h e he
    simp only [isKeyColumn, heq, Bool.or_eq_false_iff, List.any_eq_false] at hkey
    exact hkey.2 fk hfk (by simp)
  unfold refers
  rw [get_named_updated_of_not_assigned hforeign]

/-- A reference that is met stays met while rows are only added. -/
theorem refers_mono {t : Table Ty} {view view' : Rows}
    (h : ∀ k, (view k).isSome → (view' k).isSome) {row : SqlRow} {fk : ForeignKey}
    (hrefers : t.refers view row fk = true) : t.refers view' row fk = true := by
  unfold refers at hrefers ⊢
  split at hrefers
  · rfl
  · exact h _ hrefers
  · cases hrefers

end Table

/-! ## Conforming rows -/

/-- The column stores the value as it is. -/
def Stored (types : TypeSystem Ty) (col : Column Ty) (v : Value) : Prop :=
  ∀ d ∈ v, types.assign col.type d = some d

theorem stored_of_assignValue {col : Column Ty} {v stored : Value}
    (h : assignValue types col.type v = .ok stored) : Stored types col stored := by
  intro d hd
  cases v with
  | none =>
      cases h
      cases hd
  | some given =>
      simp only [assignValue] at h
      split at h
      · rename_i kept hassign
        cases h
        cases hd
        exact types.assign_stored hassign
      · cases h

/-- A row a table can hold: every value has its column's type, and `NOT NULL` and the checks have
nothing against it. -/
structure Table.Conforms (types : TypeSystem Ty) (t : Table Ty) (row : SqlRow) : Prop where
  typed : List.Forall₂ (Stored types) t.columns row
  admitted : t.checkRow row = .ok ()

namespace Table

theorem typed_of_inserted {t : Table Ty} {now : Nat} {values : Dict Parameter} {row : SqlRow}
    (h : t.inserted types now values = .ok row) : List.Forall₂ (Stored types) t.columns row := by
  refine (mapM_ok h).imp ?_
  intro col v hv
  exact stored_of_assignValue hv

/-- A row without a `NULL` out of place, on which every check has a truth value: it is admitted when
none of the values is false. -/
theorem checkRow_eq {t : Table Ty} {row : SqlRow} {bs : List Bool}
    (hnull : (t.columns.zip row).any (fun (col, v) => !col.nullable && v.isNone) = false)
    (h : List.Forall₂ (fun c b => c.expr.eval (t.named row) = .ok (some (.boolean b))) t.checks bs) :
    t.checkRow row = if bs.all id then .ok () else .error .integrity := by
  unfold checkRow
  rw [hnull]
  clear hnull
  generalize t.checks = checks at h
  induction h with
  | nil =>
      rfl
  | @cons c b checks bs heval _ ih =>
      simp only [List.all_cons, id_eq]
      cases b with
      | false =>
          simp [Expr.passes, heval, truth, bind, Except.bind, pure, Except.pure, throw, throwThe,
            MonadExceptOf.throw]
      | true =>
          simpa [Expr.passes, heval, truth, bind, Except.bind, pure, Except.pure] using ih

theorem checks_true {t : Table Ty} {row : SqlRow} {bs : List Bool}
    (h : List.Forall₂ (fun c b => c.expr.eval (t.named row) = .ok (some (.boolean b))) t.checks bs)
    (hall : bs.all id = true) :
    ∀ c ∈ t.checks, c.expr.eval (t.named row) = .ok (some (.boolean true)) := by
  generalize t.checks = checks at h
  induction h with
  | nil =>
      intro c hc
      cases hc
  | @cons first b checks bs heval _ ih =>
      rw [List.all_cons, Bool.and_eq_true] at hall
      intro c hc
      rcases List.mem_cons.mp hc with rfl | hc
      · rw [heval, show b = true from hall.1]
      · exact ih hall.2 c hc

/-- A `SET` clause assigns its own columns only, to values of their types. -/
theorem assigned_ok {t : Table Ty} {now : Nat} {assignments : Dict Parameter} {values : Dict Value}
    (h : t.assigned types now assignments = .ok values) {e : PyStr × Value} (he : e ∈ values) :
    (∃ p, (e.1, p) ∈ assignments) ∧
      ∃ col, t.column e.1 = some col ∧ Stored types col e.2 := by
  rcases mem_of_mapM_ok h he with ⟨⟨name, p⟩, hmem, hstep⟩
  simp only at hstep
  cases hcol : t.column name with
  | none =>
      rw [hcol] at hstep
      cases hstep
  | some col =>
      simp only [hcol] at hstep
      cases hvalue : assignValue types col.type (p.value now) with
      | error err =>
          rw [hvalue] at hstep
          cases hstep
      | ok v =>
          rw [hvalue] at hstep
          cases hstep
          exact ⟨⟨p, hmem⟩, col, hcol, stored_of_assignValue hvalue⟩

theorem typed_zip {cols : List (Column Ty)} {row : SqlRow} {values : Dict Value}
    (h : List.Forall₂ (Stored types) cols row)
    (hvalues : ∀ col ∈ cols, ∀ v, Dict.get values col.name = some v → Stored types col v) :
    List.Forall₂ (Stored types) cols
      (((cols.map Column.name).zip row).map fun (name, v) => (Dict.get values name).getD v) := by
  induction h with
  | nil =>
      exact .nil
  | @cons col v cols row hv _ ih =>
      refine .cons ?_ (ih fun col hcol => hvalues col (List.mem_cons_of_mem _ hcol))
      change Stored types col ((Dict.get values col.name).getD v)
      cases hget : Dict.get values col.name with
      | none =>
          exact hv
      | some w =>
          exact hvalues col List.mem_cons_self w hget

theorem typed_of_updated {t : Table Ty} (hnodup : t.columnNames.Nodup) {now : Nat}
    {assignments : Dict Parameter} {values : Dict Value}
    (hassigned : t.assigned types now assignments = .ok values) {row : SqlRow}
    (h : List.Forall₂ (Stored types) t.columns row) :
    List.Forall₂ (Stored types) t.columns (t.updated values row) := by
  refine typed_zip h ?_
  intro col hcol v hget
  rcases (assigned_ok hassigned (mem_of_get hget)).2 with ⟨found, hfound, hstored⟩
  rw [column_of_mem hnodup hcol] at hfound
  cases hfound
  exact hstored

end Table

/-! ## Valid databases -/

section Valid

variable {cat : Catalogue Ty} {ι : Type}

/-- The row stands under its primary key, conforms to its table, and its references are met. -/
structure RowValid (types : TypeSystem Ty) (cat : Catalogue Ty) (view : Rows) (k : RelKey)
    (row : SqlRow) (t : Table Ty) : Prop where
  table : cat.table k.1 = some t
  conforms : t.Conforms types row
  key : t.key row = some k.2
  refers : ∀ fk ∈ t.foreignKeys, t.refers view row fk = true

theorem RowValid.mono {view view' : Rows} {k : RelKey} {row : SqlRow} {t : Table Ty}
    (h : RowValid types cat view k row t)
    (hview : ∀ k, (view k).isSome → (view' k).isSome) : RowValid types cat view' k row t where
  table := h.table
  conforms := h.conforms
  key := h.key
  refers := fun fk hfk => Table.refers_mono hview (h.refers fk hfk)

structure Valid (types : TypeSystem Ty) (cat : Catalogue Ty) (s : Database ι) : Prop where
  committed : ∀ k row, s.committed k = some row → ∃ t, RowValid types cat s.committed k row t
  pending : ∀ c k row, s.pending c k = some row → ∃ t, RowValid types cat (s.view c) k row t

theorem valid_fresh {T : Rows} (h : ∀ k row, T k = some row → ∃ t, RowValid types cat T k row t) :
    Valid types cat (Server.fresh T : Database ι) where
  committed := h
  pending := by
    intro c k row hpending
    cases hpending

theorem isSome_view_of_committed {s : Database ι} (c : ι) {k : RelKey}
    (h : (s.committed k).isSome) : (s.view c k).isSome := by
  rw [Server.view, Option.isSome_or, h, Bool.or_true]

/-- Whatever a session sees is valid in its view. -/
theorem Valid.view {s : Database ι} (h : Valid types cat s) {c : ι} {k : RelKey} {row : SqlRow}
    (hrow : s.view c k = some row) : ∃ t, RowValid types cat (s.view c) k row t := by
  rw [Server.view] at hrow
  rcases Option.or_eq_some_iff.mp hrow with hpending | ⟨_, hcommitted⟩
  · exact h.pending c k row hpending
  · rcases h.committed k row hcommitted with ⟨t, ht⟩
    exact ⟨t, ht.mono fun _ => isSome_view_of_committed c⟩

variable [DecidableEq ι]

theorem Valid.write {s : Database ι} (h : Valid types cat s) {c : ι} {k : RelKey} {row : SqlRow}
    {t : Table Ty} (hrow : RowValid types cat (s.view c) k row t) :
    Valid types cat (s.write c k row) where
  committed := h.committed
  pending := by
    intro c' k' row' hpending
    have hgrows : ∀ k₁, (s.view c' k₁).isSome → ((s.write c k row).view c' k₁).isSome := by
      intro k₁ hsome
      by_cases hc : c' = c
      · subst hc
        by_cases hk : k₁ = k
        · subst hk
          simp [Server.view]
        · simpa [Server.view, hk] using hsome
      · simpa [Server.view, Server.write_pending_of_ne s k row hc] using hsome
    by_cases hc : c' = c
    · subst hc
      rw [Server.write_pending_self] at hpending
      by_cases hk : k' = k
      · subst hk
        rw [Function.update_self] at hpending
        cases hpending
        exact ⟨t, hrow.mono hgrows⟩
      · rw [Function.update_of_ne hk] at hpending
        rcases h.pending c' k' row' hpending with ⟨t', ht'⟩
        exact ⟨t', ht'.mono hgrows⟩
    · rw [Server.write_pending_of_ne s k row hc] at hpending
      rcases h.pending c' k' row' hpending with ⟨t', ht'⟩
      exact ⟨t', ht'.mono hgrows⟩

theorem Valid.rollback {s : Database ι} (h : Valid types cat s) (c : ι) :
    Valid types cat (s.rollback c) where
  committed := h.committed
  pending := by
    intro c' k row hpending
    by_cases hc : c' = c
    · subst hc
      rw [Server.rollback_pending_self] at hpending
      cases hpending
    · have hsame : (s.rollback c).view c' = s.view c' := by
        funext k₁
        simp [Server.view, Server.rollback_pending_of_ne s hc]
      rw [Server.rollback_pending_of_ne s hc] at hpending
      rw [hsame]
      exact h.pending c' k row hpending

theorem Valid.commit {s : Database ι} (h : Valid types cat s) (c : ι) :
    Valid types cat (s.commit c) where
  -- what is committed now is what the session saw
  committed := by
    intro k row hrow
    exact h.view hrow
  pending := by
    intro c' k row hpending
    by_cases hc : c' = c
    · subst hc
      rw [Server.commit_pending_self] at hpending
      cases hpending
    · rw [Server.commit_pending_of_ne s hc] at hpending
      rcases h.pending c' k row hpending with ⟨t, ht⟩
      refine ⟨t, ht.mono ?_⟩
      intro k₁ hsome
      rw [Server.view, Option.isSome_or, Bool.or_eq_true] at hsome ⊢
      rw [Server.commit_pending_of_ne s hc]
      exact hsome.imp id (Server.commit_committed_isSome c)

/-! ## Statements -/

/-- What a statement can do to the server. -/
inductive Effect (types : TypeSystem Ty) (cat : Catalogue Ty) (s : Database ι) (c : ι) (now : Nat) :
    Database ι → Prop
  | none : Effect types cat s c now s
  | inserted (t : Table Ty) (values : Dict Parameter) (row : SqlRow) (key : PyStr)
      (htable : cat.table t.name = some t) (hrow : t.inserted types now values = .ok row)
      (hchecked : t.checkRow row = .ok ()) (hkey : t.key row = some key)
      (hrefers : ∀ fk ∈ t.foreignKeys, t.refers (s.view c) row fk = true) :
      Effect types cat s c now (s.write c (t.name, key) row)
  | updated (t : Table Ty) (key : PyStr) (assignments : Dict Parameter) (values : Dict Value)
      (row : SqlRow) (htable : cat.table t.name = some t)
      (hkeys : ∀ a ∈ assignments, t.isKeyColumn a.1 = false)
      (hassigned : t.assigned types now assignments = .ok values)
      (hview : s.view c (t.name, key) = some row)
      (hchecked : t.checkRow (t.updated values row) = .ok ()) :
      Effect types cat s c now (s.write c (t.name, key) (t.updated values row))
  | committed : Effect types cat s c now (s.commit c)
  | rolledBack : Effect types cat s c now (s.rollback c)

theorem effect_of_insert {s s' : Database ι} {c : ι} {now : Nat} {t : Table Ty}
    (htable : cat.table t.name = some t) {values : Dict Parameter} {result : Result}
    (h : execInsert types s c now t values = some (s', result)) : Effect types cat s c now s' := by
  unfold execInsert at h
  split at h
  · split at h
    · cases h
      exact .none
    · rename_i row hrow
      split at h
      · cases h
        exact .none
      · rename_i hchecked
        split at h
        · cases h
          exact .none
        · rename_i key hkey
          split at h
          · cases h
          · split at h
            · cases h
              exact .none
            · rename_i hunique
              cases h
              simp only [Bool.or_eq_true, Bool.not_eq_true', not_or, Bool.not_eq_false] at hunique
              exact .inserted t values row key htable hrow hchecked hkey
                (List.all_eq_true.mp hunique.2)
  · cases h
    exact .none

theorem effect_of_update {s s' : Database ι} {c : ι} {now : Nat} {t : Table Ty}
    (htable : cat.table t.name = some t) {key : PyStr} {conditions : Dict Datum}
    {assignments : Dict Parameter} {result : Result}
    (h : execUpdate types s c now t key conditions assignments = some (s', result)) :
    Effect types cat s c now s' := by
  unfold execUpdate at h
  split at h
  · rename_i hkeys
    split at h
    · cases h
      exact .none
    · cases h
      exact .none
    · rename_i values _ hassigned
      split at h
      · cases h
        exact .none
      · rename_i row hview
        split at h
        · split at h
          · cases h
          · split at h
            · cases h
              exact .none
            · rename_i hchecked
              cases h
              refine .updated t key assignments values row htable ?_ hassigned hview hchecked
              simpa using hkeys
        · cases h
          exact .none
  · cases h
    exact .none

theorem effect_of_execute {s s' : Database ι} {c : ι} {now : Nat} {stmt : Statement}
    {result : Result} (h : execute types cat s c now stmt = some (s', result)) :
    Effect types cat s c now s' := by
  cases stmt with
  | select table key =>
      simp only [execute] at h
      split at h
      · cases h
        exact .none
      · cases h
        exact .none
  | insert table values =>
      simp only [execute] at h
      split at h
      · rename_i t htable
        have hname : t.name = table := (Catalogue.table_eq_some htable).2
        exact effect_of_insert (hname.symm ▸ htable) h
      · cases h
        exact .none
  | update table key conditions assignments =>
      simp only [execute] at h
      split at h
      · rename_i t htable
        have hname : t.name = table := (Catalogue.table_eq_some htable).2
        exact effect_of_update (hname.symm ▸ htable) h
      · cases h
        exact .none
  | commit =>
      cases h
      exact .committed
  | rollback =>
      cases h
      exact .rolledBack

/-- Every statement keeps the database valid. -/
theorem Valid.execute (hcat : cat.Sound) {s s' : Database ι} (h : Valid types cat s) {c : ι}
    {now : Nat} {stmt : Statement} {result : Result}
    (hexec : execute types cat s c now stmt = some (s', result)) : Valid types cat s' := by
  cases effect_of_execute hexec with
  | none =>
      exact h
  | inserted t values row key htable hrow hchecked hkey hrefers =>
      exact h.write (t := t)
        { table := htable
          conforms := ⟨Table.typed_of_inserted hrow, hchecked⟩
          key := hkey
          refers := hrefers }
  | updated t key assignments values row htable hkeys hassigned hview hchecked =>
      rcases h.view hview with ⟨t', hold⟩
      have hsame : t = t' := Option.some.inj (htable.symm.trans hold.table)
      subst hsame
      have hvalues : ∀ e ∈ values, t.isKeyColumn e.1 = false := by
        intro e he
        rcases (Table.assigned_ok hassigned he).1 with ⟨p, hp⟩
        exact hkeys (e.1, p) hp
      have hnodup : t.columnNames.Nodup := hcat.columns t (Catalogue.table_eq_some htable).1
      refine h.write (t := t)
        { table := htable
          conforms := ⟨Table.typed_of_updated hnodup hassigned hold.conforms.typed, hchecked⟩
          key := (Table.key_updated hvalues row).trans hold.key
          refers := ?_ }
      intro fk hfk
      rw [Table.refers_updated hvalues _ row hfk]
      exact hold.refers fk hfk
  | committed =>
      exact h.commit c
  | rolledBack =>
      exact h.rollback c

/-- In every state of every run of statements, all rows are valid. -/
theorem valid_of_reachable (hcat : cat.Sound) {s₀ s : Database ι} (h : Valid types cat s₀)
    (hreach : Reachable (serve types cat) s₀ s) : Valid types cat s := by
  refine hreach.invariant (I := Valid types cat) ?_ h
  intro m r m' hm hserve
  rcases Option.map_eq_some_iff.mp hserve with ⟨⟨s', result⟩, hexec, rfl⟩
  exact hm.execute hcat hexec

end Valid

end Relational
end TransactionPlatform
