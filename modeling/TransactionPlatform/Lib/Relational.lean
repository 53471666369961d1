import TransactionPlatform.Lib.ReadCommitted
import TransactionPlatform.Lib.SqlText
import TransactionPlatform.Lib.Transition

/-!
# Relational — a catalogue of tables and the statements that run on it

Schema changes build a catalogue; statements read and write rows by primary key on the
READ COMMITTED server, under the column types, defaults and constraints the catalogue declares.  The
column types are a parameter.

* `Catalogue.undo_run`: the inverse operations, in reverse, lead a schema change back.
* `Catalogue.frame_run`: creations do the same beside any catalogue without their names.

Primary keys are text columns.  `UPDATE`s of key columns and `DELETE` are not in the fragment.
-/

namespace TransactionPlatform
namespace Relational

open Text Sql ReadCommitted Transition

/-! ## Tables -/

/-- Column types: which values can be bound as a parameter of a type, and what assignment to a column
stores; `none` is a data error. -/
structure TypeSystem (Ty : Type) where
  binds : Ty → Datum → Bool
  assign : Ty → Datum → Option Datum
  assign_stored : ∀ {ty : Ty} {d stored : Datum}, assign ty d = some stored →
    assign ty stored = some stored

inductive Default
  | integer (n : Int)
  | now
  deriving DecidableEq, Repr

structure Column (Ty : Type) where
  name : PyStr
  type : Ty
  nullable : Bool
  default : Option Default
  deriving DecidableEq, Repr

structure ForeignKey where
  column : PyStr
  table : PyStr
  reference : PyStr
  deriving DecidableEq, Repr

/-- A check constraint: its text, and the expression the text reads as. -/
structure Check where
  name : PyStr
  sqltext : PyStr
  expr : Expr
  parsed : parse sqltext = some expr
  deriving DecidableEq

structure Table (Ty : Type) where
  name : PyStr
  columns : List (Column Ty)
  primaryKey : PyStr
  foreignKeys : List ForeignKey
  checks : List Check
  deriving DecidableEq

structure Index where
  name : PyStr
  table : PyStr
  columns : List PyStr
  unique : Bool
  deriving DecidableEq, Repr

/-- Tables and indexes share one space of names. -/
structure Catalogue (Ty : Type) where
  tables : List (Table Ty)
  indexes : List Index
  deriving DecidableEq

variable {Ty : Type}

def Table.columnNames (t : Table Ty) : List PyStr :=
  t.columns.map Column.name

namespace Catalogue

def empty : Catalogue Ty :=
  { tables := []
    indexes := [] }

def table (cat : Catalogue Ty) (name : PyStr) : Option (Table Ty) :=
  cat.tables.find? fun t => t.name = name

def isNamed (cat : Catalogue Ty) (name : PyStr) : Bool :=
  cat.tables.any (fun t => t.name = name) || cat.indexes.any (fun i => i.name = name)

end Catalogue

/-! ## Schema changes -/

inductive Operation (Ty : Type)
  | createTable (t : Table Ty)
  | createIndex (i : Index)
  | dropIndex (name : PyStr)
  | dropTable (name : PyStr)

namespace Catalogue

/-- A foreign key refers to the primary key of a table that exists, or of the new table itself. -/
def targetExists (cat : Catalogue Ty) (t : Table Ty) (fk : ForeignKey) : Bool :=
  (t :: cat.tables).any fun target => target.name = fk.table && target.primaryKey = fk.reference

/-- The definition of a new table makes sense. -/
def acceptsTable (cat : Catalogue Ty) (t : Table Ty) : Bool :=
  t.columnNames.Nodup &&
    t.columns.any (fun col => col.name = t.primaryKey && !col.nullable) &&
    t.checks.all (fun c => c.expr.columns.all t.columnNames.contains) &&
    t.foreignKeys.all fun fk => t.columnNames.contains fk.column && cat.targetExists t fk

def acceptsIndex (cat : Catalogue Ty) (i : Index) : Bool :=
  match cat.table i.table with
  | some t => i.columns.all t.columnNames.contains
  | none => false

/-- Another table refers to this one. -/
def isReferred (cat : Catalogue Ty) (name : PyStr) : Bool :=
  cat.tables.any fun t => t.name ≠ name && t.foreignKeys.any fun fk => fk.table = name

/-- One schema change; `none` is an error.  A table's indexes go with it. -/
def apply (cat : Catalogue Ty) : Operation Ty → Option (Catalogue Ty)
  | .createTable t =>
      if !cat.isNamed t.name && cat.acceptsTable t then
        some { cat with tables := cat.tables ++ [t] }
      else none
  | .createIndex i =>
      if !cat.isNamed i.name && cat.acceptsIndex i then
        some { cat with indexes := cat.indexes ++ [i] }
      else none
  | .dropIndex name =>
      if cat.indexes.any (fun i => i.name = name) then
        some { cat with indexes := cat.indexes.filter fun i => i.name ≠ name }
      else none
  | .dropTable name =>
      if cat.tables.any (fun t => t.name = name) && !cat.isReferred name then
        some
          { tables := cat.tables.filter fun t => t.name ≠ name
            indexes := cat.indexes.filter fun i => i.table ≠ name }
      else none

end Catalogue

/-! ## Leading a schema change back -/

/-- The operation that takes back a creation. -/
def Operation.inverse : Operation Ty → Option (Operation Ty)
  | .createTable t => some (.dropTable t.name)
  | .createIndex i => some (.dropIndex i.name)
  | .dropIndex _ => none
  | .dropTable _ => none

/-- The name an operation creates. -/
def Operation.creates : Operation Ty → Option PyStr
  | .createTable t => some t.name
  | .createIndex i => some i.name
  | .dropIndex _ => none
  | .dropTable _ => none

/-- Indexes and foreign keys belong to tables that exist, and columns have names of their own. -/
structure Catalogue.Sound (cat : Catalogue Ty) : Prop where
  indexed : ∀ i ∈ cat.indexes, ∃ t ∈ cat.tables, t.name = i.table
  referred : ∀ t ∈ cat.tables, ∀ fk ∈ t.foreignKeys, ∃ target ∈ cat.tables, target.name = fk.table
  columns : ∀ t ∈ cat.tables, t.columnNames.Nodup

namespace Catalogue

theorem sound_empty : (empty : Catalogue Ty).Sound where
  indexed := by simp [empty]
  referred := by simp [empty]
  columns := by simp [empty]

theorem table_eq_some {cat : Catalogue Ty} {name : PyStr} {t : Table Ty}
    (h : cat.table name = some t) : t ∈ cat.tables ∧ t.name = name := by
  constructor
  · exact List.mem_of_find?_eq_some h
  · simpa using List.find?_some h

theorem isNamed_eq_false {cat : Catalogue Ty} {name : PyStr} (h : cat.isNamed name = false) :
    (∀ t ∈ cat.tables, t.name ≠ name) ∧ ∀ i ∈ cat.indexes, i.name ≠ name := by
  simpa [isNamed] using h

theorem apply_createTable {cat cat' : Catalogue Ty} {t : Table Ty}
    (h : cat.apply (.createTable t) = some cat') :
    cat.isNamed t.name = false ∧ cat.acceptsTable t = true ∧
      cat' = { cat with tables := cat.tables ++ [t] } := by
  simp only [apply] at h
  split at h
  · rename_i hnew
    simp only [Bool.and_eq_true, Bool.not_eq_true'] at hnew
    exact ⟨hnew.1, hnew.2, (Option.some.inj h).symm⟩
  · cases h

theorem apply_createIndex {cat cat' : Catalogue Ty} {i : Index}
    (h : cat.apply (.createIndex i) = some cat') :
    cat.isNamed i.name = false ∧ cat.acceptsIndex i = true ∧
      cat' = { cat with indexes := cat.indexes ++ [i] } := by
  simp only [apply] at h
  split at h
  · rename_i hnew
    simp only [Bool.and_eq_true, Bool.not_eq_true'] at hnew
    exact ⟨hnew.1, hnew.2, (Option.some.inj h).symm⟩
  · cases h

theorem apply_dropIndex {cat cat' : Catalogue Ty} {name : PyStr}
    (h : cat.apply (.dropIndex name) = some cat') :
    cat' = { cat with indexes := cat.indexes.filter fun i => i.name ≠ name } := by
  simp only [apply] at h
  split at h
  · exact (Option.some.inj h).symm
  · cases h

theorem apply_dropTable {cat cat' : Catalogue Ty} {name : PyStr}
    (h : cat.apply (.dropTable name) = some cat') :
    cat.isReferred name = false ∧
      cat' =
        { tables := cat.tables.filter fun t => t.name ≠ name
          indexes := cat.indexes.filter fun i => i.table ≠ name } := by
  simp only [apply] at h
  split at h
  · rename_i hdrop
    simp only [Bool.and_eq_true, Bool.not_eq_true'] at hdrop
    exact ⟨hdrop.2, (Option.some.inj h).symm⟩
  · cases h

theorem acceptsTable_iff {cat : Catalogue Ty} {t : Table Ty} :
    cat.acceptsTable t = true ↔
      (t.columnNames.Nodup ∧ (∃ col ∈ t.columns, col.name = t.primaryKey ∧ col.nullable = false)) ∧
        (∀ c ∈ t.checks, ∀ name ∈ c.expr.columns, name ∈ t.columnNames) ∧
          ∀ fk ∈ t.foreignKeys, fk.column ∈ t.columnNames ∧
            ∃ target ∈ t :: cat.tables, target.name = fk.table ∧ target.primaryKey = fk.reference := by
  simp [acceptsTable, targetExists, and_assoc]

/-- Soundness is kept by every schema change. -/
theorem Sound.apply {cat cat' : Catalogue Ty} (h : cat.Sound) {op : Operation Ty}
    (hop : cat.apply op = some cat') : cat'.Sound := by
  cases op with
  | createTable t =>
      rcases apply_createTable hop with ⟨_, haccepts, rfl⟩
      rcases acceptsTable_iff.mp haccepts with ⟨⟨hnodup, _⟩, _, hforeign⟩
      refine ⟨?_, ?_, ?_⟩
      · intro i hi
        rcases h.indexed i hi with ⟨target, htarget, hname⟩
        exact ⟨target, List.mem_append_left _ htarget, hname⟩
      · intro u hu fk hfk
        rcases List.mem_append.mp hu with hu | hu
        · rcases h.referred u hu fk hfk with ⟨target, htarget, hname⟩
          exact ⟨target, List.mem_append_left _ htarget, hname⟩
        · rw [List.mem_singleton.mp hu] at hfk
          rcases (hforeign fk hfk).2 with ⟨target, htarget, hname, _⟩
          refine ⟨target, ?_, hname⟩
          simpa [or_comm] using htarget
      · intro u hu
        rcases List.mem_append.mp hu with hu | hu
        · exact h.columns u hu
        · rw [List.mem_singleton.mp hu]
          exact hnodup
  | createIndex i =>
      rcases apply_createIndex hop with ⟨_, haccepts, rfl⟩
      refine ⟨?_, h.referred, h.columns⟩
      intro j hj
      rcases List.mem_append.mp hj with hj | hj
      · exact h.indexed j hj
      · rw [List.mem_singleton.mp hj]
        unfold acceptsIndex at haccepts
        split at haccepts
        · rename_i t htable
          exact ⟨t, table_eq_some htable⟩
        · cases haccepts
  | dropIndex name =>
      rw [apply_dropIndex hop]
      exact ⟨fun i hi => h.indexed i (List.mem_filter.mp hi).1, h.referred, h.columns⟩
  | dropTable name =>
      rcases apply_dropTable hop with ⟨hfree, rfl⟩
      refine ⟨?_, ?_, ?_⟩
      · intro i hi
        rcases List.mem_filter.mp hi with ⟨hi, hne⟩
        rcases h.indexed i hi with ⟨t, ht, hname⟩
        refine ⟨t, List.mem_filter.mpr ⟨ht, ?_⟩, hname⟩
        rw [hname]
        exact hne
      · intro t ht fk hfk
        rcases List.mem_filter.mp ht with ⟨ht, hne⟩
        rcases h.referred t ht fk hfk with ⟨target, htarget, hname⟩
        refine ⟨target, List.mem_filter.mpr ⟨htarget, ?_⟩, hname⟩
        -- a table that stays does not refer to the dropped one
        simp only [isReferred, List.any_eq_false, Bool.and_eq_true, decide_eq_true_eq,
          List.any_eq_true, not_and, not_exists] at hfree
        rw [hname]
        exact decide_eq_true (hfree t ht (of_decide_eq_true hne) fk hfk)
      · intro t ht
        exact h.columns t (List.mem_filter.mp ht).1

theorem sound_of_reachable {cat : Catalogue Ty} (h : Reachable Catalogue.apply empty cat) :
    cat.Sound :=
  h.invariant (fun _ _ _ hsound hop => Sound.apply hsound hop) sound_empty

/-- What is created can be dropped again, and nothing remains. -/
theorem apply_inverse {cat cat' : Catalogue Ty} (h : cat.Sound) {op back : Operation Ty}
    (hop : cat.apply op = some cat') (hback : op.inverse = some back) :
    cat'.apply back = some cat := by
  cases op with
  | createTable t =>
      cases hback
      rcases apply_createTable hop with ⟨hnew, _, rfl⟩
      rcases isNamed_eq_false hnew with ⟨htables, _⟩
      have hreferred : isReferred { cat with tables := cat.tables ++ [t] } t.name = false := by
        simp only [isReferred, List.any_eq_false, Bool.and_eq_true, decide_eq_true_eq,
          List.any_eq_true, not_and, not_exists]
        intro u hu hne fk hfk hname
        rcases List.mem_append.mp hu with hu | hu
        · -- an older table would refer to a table that was not there
          rcases h.referred u hu fk hfk with ⟨target, htarget, hsame⟩
          exact htables target htarget (hsame.trans hname)
        · exact hne (congrArg Table.name (List.mem_singleton.mp hu))
      have hkept : (cat.tables ++ [t]).filter (fun u => u.name ≠ t.name) = cat.tables := by
        rw [List.filter_append, List.filter_eq_self.mpr (by simpa using htables)]
        simp
      have hindexes : cat.indexes.filter (fun i => i.table ≠ t.name) = cat.indexes := by
        apply List.filter_eq_self.mpr
        intro i hi
        rcases h.indexed i hi with ⟨target, htarget, hname⟩
        rw [← hname]
        exact decide_eq_true (htables target htarget)
      simp only [apply, hreferred, hkept, hindexes]
      simp
  | createIndex i =>
      cases hback
      rcases apply_createIndex hop with ⟨hnew, _, rfl⟩
      rcases isNamed_eq_false hnew with ⟨_, hindexes⟩
      have hkept : (cat.indexes ++ [i]).filter (fun j => j.name ≠ i.name) = cat.indexes := by
        rw [List.filter_append, List.filter_eq_self.mpr (by simpa using hindexes)]
        simp
      simp only [apply, hkept]
      simp
  | dropIndex name =>
      cases hback
  | dropTable name =>
      cases hback

/-- Creations are taken back by their inverses in reverse order. -/
theorem undo_run {cat cat' : Catalogue Ty} (h : cat.Sound) {ops backs : List (Operation Ty)}
    (hops : ops.mapM Operation.inverse = some backs)
    (hrun : exec apply cat ops = some cat') : exec apply cat' backs.reverse = some cat := by
  induction ops generalizing cat backs with
  | nil =>
      cases hops
      cases hrun
      rfl
  | cons op ops ih =>
      rcases exec_cons_eq_some.mp hrun with ⟨m, hop, hrest⟩
      rw [List.mapM_cons] at hops
      rcases Option.bind_eq_some_iff.mp hops with ⟨back, hback, htail⟩
      rcases Option.bind_eq_some_iff.mp htail with ⟨rest, hrestBacks, hbacks⟩
      cases hbacks
      rw [List.reverse_cons]
      exact exec_append_eq_some.mpr
        ⟨m, ih (h.apply hop) hrestBacks hrest, exec_singleton.mpr (apply_inverse h hop hback)⟩

/-! ## Framing -/

/-- Two catalogues side by side. -/
def append (base cat : Catalogue Ty) : Catalogue Ty :=
  { tables := base.tables ++ cat.tables
    indexes := base.indexes ++ cat.indexes }

theorem append_empty (base : Catalogue Ty) : base.append empty = base := by
  simp [append, empty]

/-- No name is used in both. -/
def Disjoint (base cat : Catalogue Ty) : Prop :=
  ∀ name, cat.isNamed name = true → base.isNamed name = false

theorem isNamed_append (base cat : Catalogue Ty) (name : PyStr) :
    (base.append cat).isNamed name = (base.isNamed name || cat.isNamed name) := by
  simp only [isNamed, append, List.any_append]
  ac_rfl

theorem isNamed_of_table {cat : Catalogue Ty} {t : Table Ty} (h : t ∈ cat.tables) :
    cat.isNamed t.name = true := by
  have hany : cat.tables.any (fun u => u.name = t.name) = true :=
    List.any_eq_true.mpr ⟨t, h, by simp⟩
  simp [isNamed, hany]

/-- The tables of the other catalogue are found past those of the base. -/
theorem table_append {base cat : Catalogue Ty} (h : base.Disjoint cat) {name : PyStr}
    {t : Table Ty} (ht : cat.table name = some t) : (base.append cat).table name = some t := by
  rcases table_eq_some ht with ⟨hmem, hname⟩
  have hfree := (isNamed_eq_false (h t.name (isNamed_of_table hmem))).1
  have hbase : base.tables.find? (fun u => u.name = name) = none := by
    apply List.find?_eq_none.mpr
    intro u hu
    simpa [← hname] using hfree u hu
  rw [table, append, List.find?_append, hbase]
  exact ht

/-- A creation that succeeds in a catalogue succeeds beside another one without the new name. -/
theorem frame_apply {base cat cat' : Catalogue Ty} {op back : Operation Ty}
    (hback : op.inverse = some back) (hop : cat.apply op = some cat')
    (h : base.Disjoint cat') : (base.append cat).apply op = some (base.append cat') := by
  cases op with
  | createTable t =>
      rcases apply_createTable hop with ⟨hnew, haccepts, rfl⟩
      have hname : base.isNamed t.name = false :=
        h t.name (isNamed_of_table (List.mem_append_right _ (List.mem_singleton.mpr rfl)))
      have hnamed : (base.append cat).isNamed t.name = false := by
        rw [isNamed_append, hname, hnew]
        rfl
      have haccepted : (base.append cat).acceptsTable t = true := by
        rcases acceptsTable_iff.mp haccepts with ⟨hcolumns, hchecks, hforeign⟩
        refine acceptsTable_iff.mpr ⟨hcolumns, hchecks, ?_⟩
        intro fk hfk
        rcases hforeign fk hfk with ⟨hcolumn, target, htarget, hsame⟩
        refine ⟨hcolumn, target, ?_, hsame⟩
        rcases List.mem_cons.mp htarget with rfl | htarget
        · exact List.mem_cons_self
        · exact List.mem_cons_of_mem _ (List.mem_append_right _ htarget)
      simp only [apply, hnamed, haccepted]
      simp [append]
  | createIndex i =>
      rcases apply_createIndex hop with ⟨hnew, haccepts, rfl⟩
      have hany : (cat.indexes ++ [i]).any (fun j => j.name = i.name) = true := by simp
      have hname : base.isNamed i.name = false := h i.name (by simp [isNamed, hany])
      have hnamed : (base.append cat).isNamed i.name = false := by
        rw [isNamed_append, hname, hnew]
        rfl
      have hdisjoint : base.Disjoint cat := by
        intro name hnamed
        apply h name
        simp only [isNamed, List.any_append, Bool.or_eq_true] at hnamed ⊢
        exact hnamed.imp_right Or.inl
      have haccepted : (base.append cat).acceptsIndex i = true := by
        unfold acceptsIndex at haccepts ⊢
        split at haccepts
        · rename_i t htable
          rw [table_append hdisjoint htable]
          exact haccepts
        · cases haccepts
      simp only [apply, hnamed, haccepted]
      simp [append]
  | dropIndex name =>
      cases hback
  | dropTable name =>
      cases hback

/-- Creations take no name away. -/
theorem isNamed_of_apply {cat cat' : Catalogue Ty} {op back : Operation Ty}
    (hback : op.inverse = some back) (hop : cat.apply op = some cat') {name : PyStr}
    (h : cat.isNamed name = true) : cat'.isNamed name = true := by
  cases op with
  | createTable t =>
      rw [(apply_createTable hop).2.2]
      simp only [isNamed, List.any_append, Bool.or_eq_true] at h ⊢
      exact h.imp_left Or.inl
  | createIndex i =>
      rw [(apply_createIndex hop).2.2]
      simp only [isNamed, List.any_append, Bool.or_eq_true] at h ⊢
      exact h.imp_right Or.inl
  | dropIndex name =>
      cases hback
  | dropTable name =>
      cases hback

theorem isNamed_of_run {cat cat' : Catalogue Ty} {ops : List (Operation Ty)}
    (hops : ∀ op ∈ ops, op.inverse.isSome) (hrun : exec apply cat ops = some cat') {name : PyStr}
    (h : cat.isNamed name = true) : cat'.isNamed name = true := by
  induction ops generalizing cat with
  | nil =>
      cases hrun
      exact h
  | cons op ops ih =>
      rcases exec_cons_eq_some.mp hrun with ⟨m, hop, hrest⟩
      rcases Option.isSome_iff_exists.mp (hops op List.mem_cons_self) with ⟨back, hback⟩
      exact ih (fun op hop => hops op (List.mem_cons_of_mem _ hop)) hrest
        (isNamed_of_apply hback hop h)

/-- The frame rule: a run of creations does the same beside any catalogue without their names. -/
theorem frame_run {base cat cat' : Catalogue Ty} {ops : List (Operation Ty)}
    (hops : ∀ op ∈ ops, op.inverse.isSome) (hrun : exec apply cat ops = some cat')
    (h : base.Disjoint cat') : exec apply (base.append cat) ops = some (base.append cat') := by
  induction ops generalizing cat with
  | nil =>
      cases hrun
      rfl
  | cons op ops ih =>
      rcases exec_cons_eq_some.mp hrun with ⟨m, hop, hrest⟩
      rcases Option.isSome_iff_exists.mp (hops op List.mem_cons_self) with ⟨back, hback⟩
      have htail : ∀ op ∈ ops, op.inverse.isSome := fun op hop => hops op (List.mem_cons_of_mem _ hop)
      have hm : base.Disjoint m := fun name hnamed => h name (isNamed_of_run htail hrest hnamed)
      exact exec_cons_eq_some.mpr ⟨base.append m, frame_apply hback hop hm, ih htail hrest⟩

/-- Creations need new names. -/
theorem fresh_of_run {cat cat' : Catalogue Ty} {ops : List (Operation Ty)}
    (hops : ∀ op ∈ ops, op.inverse.isSome) (hrun : exec apply cat ops = some cat')
    {op : Operation Ty} (hop : op ∈ ops) {name : PyStr} (hname : op.creates = some name) :
    cat.isNamed name = false := by
  induction ops generalizing cat with
  | nil =>
      cases hop
  | cons first ops ih =>
      rcases exec_cons_eq_some.mp hrun with ⟨m, hfirst, hrest⟩
      rcases Option.isSome_iff_exists.mp (hops first List.mem_cons_self) with ⟨back, hback⟩
      rcases List.mem_cons.mp hop with rfl | hop
      · cases op with
        | createTable t =>
            cases hname
            exact (apply_createTable hfirst).1
        | createIndex i =>
            cases hname
            exact (apply_createIndex hfirst).1
        | dropIndex name =>
            cases hname
        | dropTable name =>
            cases hname
      · have hm := ih (fun op hop => hops op (List.mem_cons_of_mem _ hop)) hrest hop
        by_contra hnamed
        rw [isNamed_of_apply hback hfirst (Bool.eq_true_of_not_eq_false hnamed)] at hm
        cases hm

/-- A name is there before a run of creations, or one of them creates it. -/
theorem created_of_run {cat cat' : Catalogue Ty} {ops : List (Operation Ty)}
    (hops : ∀ op ∈ ops, op.inverse.isSome) (hrun : exec apply cat ops = some cat') {name : PyStr}
    (h : cat'.isNamed name = true) :
    cat.isNamed name = true ∨ ∃ op ∈ ops, op.creates = some name := by
  induction ops generalizing cat with
  | nil =>
      cases hrun
      exact .inl h
  | cons first ops ih =>
      rcases exec_cons_eq_some.mp hrun with ⟨m, hfirst, hrest⟩
      rcases Option.isSome_iff_exists.mp (hops first List.mem_cons_self) with ⟨back, hback⟩
      rcases ih (fun op hop => hops op (List.mem_cons_of_mem _ hop)) hrest with hm | ⟨op, hop, hname⟩
      · cases first with
        | createTable t =>
            rw [(apply_createTable hfirst).2.2] at hm
            by_cases ht : t.name = name
            · exact .inr ⟨_, List.mem_cons_self, congrArg some ht⟩
            · left
              simpa [isNamed, ht] using hm
        | createIndex i =>
            rw [(apply_createIndex hfirst).2.2] at hm
            by_cases hi : i.name = name
            · exact .inr ⟨_, List.mem_cons_self, congrArg some hi⟩
            · left
              simpa [isNamed, hi] using hm
        | dropIndex name =>
            cases hback
        | dropTable name =>
            cases hback
      · exact .inr ⟨op, List.mem_cons_of_mem _ hop, hname⟩

end Catalogue

/-! ## Statements -/

/-- A row: the values of the columns in order. -/
abbrev SqlRow := List Value

/-- Rows of all tables, by table name and primary key. -/
abbrev RelKey := PyStr × PyStr

abbrev Rows := Store (fun _ : RelKey => SqlRow)

/-- A value of an `INSERT` or of a `SET` clause: a bound one, or `now()`. -/
inductive Parameter
  | bound (v : Value)
  | now
  deriving Repr

/-- `SELECT` and `UPDATE` name a row by its primary key; an `UPDATE` can compare further columns. -/
inductive Statement
  | select (table key : PyStr)
  | insert (table : PyStr) (values : Dict Parameter)
  | update (table key : PyStr) (conditions : Dict Datum) (assignments : Dict Parameter)
  | commit
  | rollback

inductive Result
  | row (r : Option (Dict Value))
  | rowcount (n : Nat)
  | ended
  | error (e : Error)

/-- The value of a parameter in a transaction that began at `now`. -/
def Parameter.value (now : Nat) : Parameter → Value
  | .bound v => v
  | .now => some (.timestamp now)

def Default.value (now : Nat) : Default → Value
  | .integer n => some (.integer n)
  | .now => some (.timestamp now)

/-- Assignment; `NULL` has every type. -/
def assignValue (types : TypeSystem Ty) (ty : Ty) : Value → Except Error Value
  | none => .ok none
  | some d =>
      match types.assign ty d with
      | some stored => .ok (some stored)
      | none => .error .data

namespace Table

def column (t : Table Ty) (name : PyStr) : Option (Column Ty) :=
  t.columns.find? fun col => col.name = name

/-- A row by column names. -/
def named (t : Table Ty) (row : SqlRow) : Dict Value :=
  t.columnNames.zip row

def key (t : Table Ty) (row : SqlRow) : Option PyStr :=
  match Dict.get (t.named row) t.primaryKey with
  | some (some (.text k)) => some k
  | _ => none

/-- The row of an `INSERT`: columns it does not name take their default. -/
def inserted (types : TypeSystem Ty) (now : Nat) (t : Table Ty) (values : Dict Parameter) :
    Except Error SqlRow :=
  t.columns.mapM fun col =>
    assignValue types col.type
      (match Dict.get values col.name with
      | some p => p.value now
      | none => (col.default.map (Default.value now)).getD none)

/-- The values of a `SET` clause, assigned to their columns. -/
def assigned (types : TypeSystem Ty) (now : Nat) (t : Table Ty) (assignments : Dict Parameter) :
    Except Error (Dict Value) :=
  assignments.mapM fun (name, p) =>
    match t.column name with
    | some col => do return (name, ← assignValue types col.type (p.value now))
    | none => .error .undefined

/-- The new version of a row: columns that are not assigned keep their value. -/
def updated (t : Table Ty) (values : Dict Value) (row : SqlRow) : SqlRow :=
  (t.columnNames.zip row).map fun (name, v) => (Dict.get values name).getD v

/-- The values compared in a `WHERE` clause are bound. -/
def bound (types : TypeSystem Ty) (t : Table Ty) : Dict Datum → Except Error Unit
  | [] => .ok ()
  | (name, d) :: rest =>
      match t.column name with
      | some col => if types.binds col.type d then t.bound types rest else .error .data
      | none => .error .undefined

@[simp] theorem bound_nil (types : TypeSystem Ty) (t : Table Ty) : t.bound types [] = .ok () :=
  rfl

def matching (t : Table Ty) (conditions : Dict Datum) (row : SqlRow) : Bool :=
  conditions.all fun (name, d) =>
    match Dict.get (t.named row) name with
    | some (some v) =>
        match Comparison.apply .eq v d with
        | .ok (.boolean b) => b
        | .ok _ => false
        | .error _ => false
    | _ => false

/-- `NOT NULL` and the check constraints. -/
def checkRow (t : Table Ty) (row : SqlRow) : Except Error Unit := do
  if (t.columns.zip row).any fun (col, v) => !col.nullable && v.isNone then
    throw .integrity
  t.checks.forM fun c => do
    if ← c.expr.passes (t.named row) then return () else throw .integrity

/-- The row a foreign key of `row` refers to exists; `NULL` refers to nothing. -/
def refers (t : Table Ty) (view : Rows) (row : SqlRow) (fk : ForeignKey) : Bool :=
  match Dict.get (t.named row) fk.column with
  | some none => true
  | some (some (.text k)) => (view (fk.table, k)).isSome
  | _ => false

/-- The primary key and the columns of foreign keys. -/
def isKeyColumn (t : Table Ty) (name : PyStr) : Bool :=
  name = t.primaryKey || t.foreignKeys.any fun fk => fk.column = name

end Table

/-! ## Execution -/

section Execution

variable (types : TypeSystem Ty) (cat : Catalogue Ty) {ι : Type} [DecidableEq ι]

abbrev Database (ι : Type) := Server (fun _ : RelKey => SqlRow) ι

def execSelect (s : Database ι) (c : ι) (t : Table Ty) (key : PyStr) : Result :=
  match t.bound types [(t.primaryKey, .text key)] with
  | .error e => .error e
  | .ok () => .row ((s.view c (t.name, key)).map t.named)

/-- Unique and foreign keys are checked after the other constraints, when the row goes in. -/
def execInsert (s : Database ι) (c : ι) (now : Nat) (t : Table Ty) (values : Dict Parameter) :
    Option (Database ι × Result) :=
  if values.all fun v => t.columnNames.contains v.1 then
    match t.inserted types now values with
    | .error e => some (s, .error e)
    | .ok row =>
        match t.checkRow row with
        | .error e => some (s, .error e)
        | .ok () =>
            match t.key row with
            | none => some (s, .error .undefined)
            | some key =>
                if s.blocked c (t.name, key) then none
                else if (s.view c (t.name, key)).isSome || !t.foreignKeys.all (t.refers (s.view c) row)
                then some (s, .error .integrity)
                else some (s.write c (t.name, key) row, .rowcount 1)
  else some (s, .error .undefined)

def execUpdate (s : Database ι) (c : ι) (now : Nat) (t : Table Ty) (key : PyStr)
    (conditions : Dict Datum) (assignments : Dict Parameter) : Option (Database ι × Result) :=
  if assignments.all fun a => !t.isKeyColumn a.1 then
    match t.bound types ((t.primaryKey, .text key) :: conditions),
        t.assigned types now assignments with
    | .error e, _ => some (s, .error e)
    | _, .error e => some (s, .error e)
    | .ok (), .ok values =>
        match s.view c (t.name, key) with
        | none => some (s, .rowcount 0)
        | some row =>
            if t.matching conditions row then
              if s.blocked c (t.name, key) then none
              else
                match t.checkRow (t.updated values row) with
                | .error e => some (s, .error e)
                | .ok () => some (s.write c (t.name, key) (t.updated values row), .rowcount 1)
            else some (s, .rowcount 0)
  else some (s, .error .undefined)

/-- Execute a statement in session `c`, whose transaction began at `now`.  `none` means that it has to
wait for a lock. -/
def execute (s : Database ι) (c : ι) (now : Nat) : Statement → Option (Database ι × Result)
  | .select table key =>
      match cat.table table with
      | some t => some (s, execSelect types s c t key)
      | none => some (s, .error .undefined)
  | .insert table values =>
      match cat.table table with
      | some t => execInsert types s c now t values
      | none => some (s, .error .undefined)
  | .update table key conditions assignments =>
      match cat.table table with
      | some t => execUpdate types s c now t key conditions assignments
      | none => some (s, .error .undefined)
  | .commit => some (s.commit c, .ended)
  | .rollback => some (s.rollback c, .ended)

/-- A statement reaches the server. -/
structure Request (ι : Type) where
  session : ι
  now : Nat
  statement : Statement

def serve (s : Database ι) (r : Request ι) : Option (Database ι) :=
  (execute types cat s r.session r.now r.statement).map Prod.fst

end Execution

end Relational
end TransactionPlatform
