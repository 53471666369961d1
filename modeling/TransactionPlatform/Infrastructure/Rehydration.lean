import TransactionPlatform.Domain.Entity
import TransactionPlatform.Infrastructure.Models

/-!
# Rehydration — stored rows and the entity

The constraints on `transaction_id`, `status`, `version` and `pending_operation` repeat the checks of
the entity's constructor in SQL.  They agree on statuses, versions and pending operations; on
transaction ids they do not: `btrim` only removes spaces where `strip` removes all whitespace, and a
lone surrogate is a Python character but no PostgreSQL text.
-/

namespace TransactionPlatform
namespace Infrastructure

open Text Domain

/-! ## The two definitions of validity -/

/-- The four columns fit their types and some row with them passes the checks of `transactions`. -/
def RowPartAdmitted (transactionId status : PyStr) (version : Int)
    (pendingOperation : Option PyStr) : Prop :=
  varchar 128 transactionId = some transactionId ∧ varchar 32 status = some status ∧
    integer version = true ∧ varcharOpt 32 pendingOperation = some pendingOperation ∧
    ∃ row : TransactionRow, row.transactionId = transactionId ∧ row.status = status ∧
      row.version = version ∧ row.pendingOperation = pendingOperation ∧ row.admitted = true

/-- The two texts name enumeration members, and the constructor accepts the values. -/
def Rehydrates (transactionId status : PyStr) (version : Int) (pendingOperation : Option PyStr) :
    Prop :=
  ∃ (st : TransactionStatus) (op : Option PendingOperation) (t : Transaction), st.value = status ∧
    op.map PendingOperation.value = pendingOperation ∧
    Transaction.init (.inst transactionId) (.inst st) (.inst version) (op.map .inst) = .ok t

/-- The status and the pending operation of a row belong together. -/
def StatusPart (status : PyStr) (pendingOperation : Option PyStr) : Prop :=
  ∃ (st : TransactionStatus) (op : Option PendingOperation), st.value = status ∧
    op.map PendingOperation.value = pendingOperation ∧
    (op.isSome = true ↔ st = .pendingReconciliation)

/-- PostgreSQL and Python agree on whether the id is blank, and PostgreSQL can hold it. -/
def SameBlankness (transactionId : PyStr) : Prop :=
  transactionId.all isScalar = true ∧ (strip transactionId = [] → ∀ c ∈ transactionId, c = 0x20)

/-! ## Blank texts -/

theorem trimmed_eq_nil {p : CodePoint → Bool} {s : PyStr} :
    (s.dropWhile p).rdropWhile p = [] ↔ ∀ c ∈ s, p c = true := by
  rw [List.rdropWhile_eq_nil_iff]
  constructor
  · intro h c hc
    rw [← List.takeWhile_append_dropWhile (p := p) (l := s)] at hc
    rcases List.mem_append.mp hc with htake | hdrop
    · exact List.mem_takeWhile_imp htake
    · exact h c hdrop
  · intro h c hc
    exact h c ((List.dropWhile_sublist p).subset hc)

theorem strip_eq_nil {s : PyStr} : strip s = [] ↔ ∀ c ∈ s, isSpace c = true :=
  trimmed_eq_nil

theorem btrim_eq_nil {s : PyStr} : btrim s = [] ↔ ∀ c ∈ s, c = 0x20 := by
  unfold btrim
  rw [trimmed_eq_nil]
  simp

/-- A text of spaces is blank for Python too. -/
theorem strip_eq_nil_of_btrim {s : PyStr} (h : btrim s = []) : strip s = [] := by
  rw [strip_eq_nil]
  intro c hc
  rw [btrim_eq_nil.mp h c hc]
  decide

/-- A surrogate is no whitespace. -/
theorem strip_ne_nil_of_surrogate {s : PyStr} (h : ¬ s.all isScalar = true) : strip s ≠ [] := by
  intro hblank
  apply h
  apply List.all_eq_true.mpr
  intro c hc
  have hspace := strip_eq_nil.mp hblank c hc
  simp only [isSpace, Bool.or_eq_true, Bool.and_eq_true, decide_eq_true_eq, beq_iff_eq] at hspace
  simp only [isScalar, Bool.not_eq_true', Bool.and_eq_false_iff, decide_eq_false_iff_not]
  omega

theorem trimmedLength_iff {s : PyStr} (h : s.length ≤ 128) : trimmedLength s = true ↔ btrim s ≠ [] := by
  have hlength : (btrim s).length ≤ s.length :=
    ((List.rdropWhile_prefix _ _).sublist.trans (List.dropWhile_sublist _)).length_le
  simp only [trimmedLength, Bool.and_eq_true, decide_eq_true_eq, Nat.one_le_iff_ne_zero, ne_eq,
    List.length_eq_zero_iff]
  constructor
  · rintro ⟨hne, _⟩
    exact hne
  · intro hne
    exact ⟨hne, by omega⟩

/-! ## The two sides -/

theorem statusValid_iff {row : TransactionRow} :
    row.statusValid = true ↔ ∃ st, TransactionStatus.value st = row.status := by
  constructor
  · intro h
    simp only [TransactionRow.statusValid, List.mem_cons, List.not_mem_nil, or_false,
      decide_eq_true_eq] at h
    rcases h with h | h | h | h | h | h | h <;> rw [h]
    · exact ⟨.created, rfl⟩
    · exact ⟨.authorized, rfl⟩
    · exact ⟨.declined, rfl⟩
    · exact ⟨.captured, rfl⟩
    · exact ⟨.refunded, rfl⟩
    · exact ⟨.pendingReconciliation, rfl⟩
    · exact ⟨.failed, rfl⟩
  · rintro ⟨st, hst⟩
    unfold TransactionRow.statusValid
    rw [← hst]
    cases st <;> decide

theorem pendingOperationValid_iff {row : TransactionRow} :
    row.pendingOperationValid = true ↔
      ∃ op : Option PendingOperation, op.map PendingOperation.value = row.pendingOperation := by
  unfold TransactionRow.pendingOperationValid
  cases row.pendingOperation with
  | none =>
      simp only [true_iff]
      exact ⟨none, rfl⟩
  | some text =>
      constructor
      · intro h
        simp only [List.mem_cons, List.not_mem_nil, or_false, decide_eq_true_eq] at h
        -- the three texts of the constraint are the three operations
        rcases h with rfl | rfl | rfl
        · exact ⟨some .authorization, rfl⟩
        · exact ⟨some .capture, rfl⟩
        · exact ⟨some .refund, rfl⟩
      · rintro ⟨op, hop⟩
        cases op with
        | none =>
            cases hop
        | some op =>
            cases hop
            cases op <;> decide

/-- With the two texts named, the last check is the one of the constructor. -/
theorem reconciliationInvariant_iff {row : TransactionRow} {st : TransactionStatus}
    {op : Option PendingOperation} (hst : st.value = row.status)
    (hop : op.map PendingOperation.value = row.pendingOperation) :
    row.reconciliationInvariant = true ↔ (op.isSome = true ↔ st = .pendingReconciliation) := by
  have hpending : row.status = py "PENDING_RECONCILIATION" ↔ st = .pendingReconciliation := by
    rw [← hst]
    exact TransactionStatus.value_injective.eq_iff (b := .pendingReconciliation)
  unfold TransactionRow.reconciliationInvariant
  rw [← hop]
  by_cases h : st = .pendingReconciliation <;> cases op <;> simp [h, hpending]

theorem rehydrates_iff {id status : PyStr} {version : Int} {pending : Option PyStr}
    (hversion : 0 ≤ version) :
    Rehydrates id status version pending ↔ strip id ≠ [] ∧ StatusPart status pending := by
  constructor
  · rintro ⟨st, op, t, hst, hop, hinit⟩
    have hnonblank : strip id ≠ [] := by
      intro hblank
      simp [Transaction.init, hblank] at hinit
    have hpair : op.isSome = true ↔ st = .pendingReconciliation := by
      simp only [Transaction.init, hnonblank, if_false, Int.not_lt.mpr hversion] at hinit
      split at hinit
      · cases hinit
      · rename_i op' hok
        rcases Transaction.validatePending_ok hok with ⟨hsame, hiff⟩
        cases op <;> cases op' <;> simp_all
    exact ⟨hnonblank, st, op, hst, hop, hpair⟩
  · rintro ⟨hnonblank, st, op, hst, hop, hpair⟩
    have hwf : Transaction.WellFormed ⟨id, st, version, op⟩ := ⟨hnonblank, hversion, hpair⟩
    exact ⟨st, op, _, hst, hop, hwf.init_eq⟩

theorem varchar_value {st : TransactionStatus} : varchar 32 st.value = some st.value := by
  cases st <;> rfl

theorem varcharOpt_value {op : Option PendingOperation} :
    varcharOpt 32 (op.map PendingOperation.value) = some (op.map PendingOperation.value) := by
  cases op with
  | none =>
      rfl
  | some op =>
      cases op <;> rfl

theorem rowPartAdmitted_iff {id status : PyStr} {version : Int} {pending : Option PyStr}
    (hlength : id.length ≤ 128) (hnul : 0 ∉ id) (hversion : 0 ≤ version)
    (hsmall : version < 2 ^ 31) :
    RowPartAdmitted id status version pending ↔
      (id.all isScalar = true ∧ btrim id ≠ []) ∧ StatusPart status pending := by
  have hid : varchar 128 id = some id ↔ id.all isScalar = true := by
    have htext : pgText id = id.all isScalar := by
      unfold pgText
      rw [Bool.eq_iff_iff, List.all_eq_true, List.all_eq_true]
      refine forall₂_congr fun c hc => ?_
      have hne : c ≠ 0 := fun hzero => hnul (hzero ▸ hc)
      simp [hne]
    simp [varchar, htext, hlength]
  constructor
  · rintro ⟨hfits, _, _, _, row, rfl, rfl, rfl, rfl, hok⟩
    simp only [TransactionRow.admitted, Bool.and_eq_true] at hok
    rcases hok with ⟨⟨⟨⟨⟨⟨⟨htrim, _⟩, _⟩, _⟩, _⟩, hstatus⟩, hpending⟩, hpair⟩
    rcases statusValid_iff.mp hstatus with ⟨st, hst⟩
    rcases pendingOperationValid_iff.mp hpending with ⟨op, hop⟩
    exact ⟨⟨hid.mp hfits, (trimmedLength_iff hlength).mp htrim⟩, st, op, hst, hop,
      (reconciliationInvariant_iff hst hop).mp hpair⟩
  · rintro ⟨⟨hscalar, hnonblank⟩, st, op, rfl, rfl, hpair⟩
    have hinteger : integer version = true := by
      simp only [integer, Bool.and_eq_true, decide_eq_true_eq]
      omega
    refine ⟨hid.mpr hscalar, varchar_value, hinteger, varcharOpt_value, ?_⟩
    -- the other columns take any admitted values
    let row : TransactionRow :=
      { transactionId := id
        merchantId := py "m"
        amount := 1
        currency := py "USD"
        status := st.value
        pendingOperation := op.map PendingOperation.value
        version := version
        networkReference := none
        authorizationCode := none
        declineCode := none
        createdAt := 0
        updatedAt := 0 }
    refine ⟨row, rfl, rfl, rfl, rfl, ?_⟩
    have htrim : trimmedLength row.transactionId = true := (trimmedLength_iff hlength).mpr hnonblank
    have hmerchant : trimmedLength (py "m") = true := by decide
    have hcurrency : matchesClass upperLetter 3 (py "USD") = true := by decide
    have hstatus : row.statusValid = true := statusValid_iff.mpr ⟨st, rfl⟩
    have hpending : row.pendingOperationValid = true := pendingOperationValid_iff.mpr ⟨op, rfl⟩
    have hinvariant : row.reconciliationInvariant = true :=
      (reconciliationInvariant_iff rfl rfl).mpr hpair
    have hnonneg : 0 ≤ row.version := hversion
    simp [TransactionRow.admitted, htrim, hstatus, hpending, hinvariant, hnonneg, row, hmerchant,
      hcurrency]

/-! ## Where they agree -/

/-- For every id of at most 128 characters without NUL, every status text, every version of the
column and every pending operation: the table admits the four columns exactly when the entity can be
built from them, if and only if the id is one on whose blankness both sides agree and which
PostgreSQL can hold, or both sides refuse the status and the pending operation anyway. -/
theorem constraints_match_domain_iff (id status : PyStr) (version : Int) (pending : Option PyStr)
    (hlength : id.length ≤ 128) (hnul : 0 ∉ id) (hversion : 0 ≤ version)
    (hsmall : version ≤ 2 ^ 31 - 1) :
    (RowPartAdmitted id status version pending ↔ Rehydrates id status version pending) ↔
      (StatusPart status pending → SameBlankness id) := by
  rw [rowPartAdmitted_iff hlength hnul hversion (by omega), rehydrates_iff hversion]
  -- the two blankness tests differ on surrogates and on spaces that are not blanks
  have hids : (id.all isScalar = true ∧ btrim id ≠ [] ↔ strip id ≠ []) ↔ SameBlankness id := by
    constructor
    · intro hiff
      refine ⟨?_, ?_⟩
      · by_contra hsurrogate
        exact hsurrogate (hiff.mpr (strip_ne_nil_of_surrogate hsurrogate)).1
      · intro hblank
        apply btrim_eq_nil.mp
        by_contra hne
        have hscalar : id.all isScalar = true := by
          by_contra hsurrogate
          exact strip_ne_nil_of_surrogate hsurrogate hblank
        exact hiff.mp ⟨hscalar, hne⟩ hblank
    · rintro ⟨hscalar, hspaces⟩
      constructor
      · rintro ⟨_, hne⟩ hblank
        exact hne (btrim_eq_nil.mpr (hspaces hblank))
      · intro hne
        exact ⟨hscalar, fun htrim => hne (strip_eq_nil_of_btrim htrim)⟩
  -- a pair of status and pending operation both sides refuse makes the id irrelevant
  by_cases hpart : StatusPart status pending
  · simp only [hpart, and_true, true_implies]
    exact hids
  · simp [hpart]

/-- An ordinary id: the row of a fresh transaction is admitted and can be rehydrated. -/
theorem constraints_match_domain_iff_created :
    RowPartAdmitted (py "txn_1") (py "CREATED") 0 none ↔ Rehydrates (py "txn_1") (py "CREATED") 0 none :=
  (constraints_match_domain_iff (py "txn_1") (py "CREATED") 0 none (by decide) (by decide)
    (by decide) (by decide)).mpr fun _ => ⟨by decide, by decide⟩

/-- A tab: `btrim` keeps it, so the table admits the row, but the constructor refuses the id. -/
theorem tabId_not_rehydrated :
    RowPartAdmitted [0x09] (py "CREATED") 0 none ∧ ¬ Rehydrates [0x09] (py "CREATED") 0 none := by
  have hadmitted : RowPartAdmitted [0x09] (py "CREATED") 0 none :=
    (rowPartAdmitted_iff (by decide) (by decide) (by decide) (by decide)).mpr
      ⟨⟨by decide, by decide⟩, .created, none, rfl, rfl, by decide⟩
  refine ⟨hadmitted, ?_⟩
  intro hrehydrates
  exact ((rehydrates_iff (by decide)).mp hrehydrates).1 (by decide)

end Infrastructure
end TransactionPlatform
