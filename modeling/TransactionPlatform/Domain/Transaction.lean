import TransactionPlatform.Lib.Text

/-!
# Transaction — the domain entity and its lifecycle tables

`src/transaction_platform/domain/transaction.py` and `domain/exceptions.py`.

A mutator call returns both its outcome and the entity as it is afterwards, so that "a call that
raises leaves the entity alone" is something to prove and not part of the type.  An argument that
is no instance of the annotated class is only ever looked at through its type name and its `repr`;
`Arg` keeps exactly that.
-/

namespace TransactionPlatform
namespace Domain

open Text

/-! ## Enumerations -/

inductive TransactionStatus
  | created
  | authorized
  | declined
  | captured
  | refunded
  | pendingReconciliation
  | failed
  deriving DecidableEq, Repr

inductive PendingOperation
  | authorization
  | capture
  | refund
  deriving DecidableEq, Repr

def TransactionStatus.value : TransactionStatus → PyStr
  | .created => py "CREATED"
  | .authorized => py "AUTHORIZED"
  | .declined => py "DECLINED"
  | .captured => py "CAPTURED"
  | .refunded => py "REFUNDED"
  | .pendingReconciliation => py "PENDING_RECONCILIATION"
  | .failed => py "FAILED"

def PendingOperation.value : PendingOperation → PyStr
  | .authorization => py "AUTHORIZATION"
  | .capture => py "CAPTURE"
  | .refund => py "REFUND"

theorem TransactionStatus.value_injective : Function.Injective TransactionStatus.value := by
  intro a b h
  cases a <;> cases b <;> first | rfl | simp [TransactionStatus.value] at h

/-! ## Lifecycle tables -/

def terminalStates : List TransactionStatus :=
  [.declined, .failed, .refunded]

def ordinaryTransitions : TransactionStatus → List TransactionStatus
  | .created => [.authorized, .declined, .failed]
  | .authorized => [.captured]
  | .captured => [.refunded]
  | .pendingReconciliation => []
  | .declined => []
  | .failed => []
  | .refunded => []

def reconciliationEntries : TransactionStatus → Option PendingOperation
  | .created => some .authorization
  | .authorized => some .capture
  | .captured => some .refund
  | _ => none

def reconciliationResolutions : PendingOperation → List TransactionStatus
  | .authorization => [.authorized, .declined, .failed]
  | .capture => [.captured, .authorized]
  | .refund => [.refunded, .captured]

/-! ## Arguments and exceptions -/

/-- An argument as the runtime checks see it: an instance of the annotated type, or a foreign
object known by `type(x).__name__` and `repr(x)`. -/
inductive Arg (α : Type)
  | inst (a : α)
  | foreign (typeName reprText : PyStr)
  deriving DecidableEq, Repr

inductive TransactionError
  | invalidTransactionInvariant (message : PyStr)
  | invalidStateTransition (currentStatus attemptedStatus : TransactionStatus)
      (transactionId : PyStr) (reason : Option PyStr)
  | invalidReconciliationOperation (currentStatus : TransactionStatus)
      (attemptedOperation : PendingOperation) (transactionId : PyStr)
  | invalidReconciliationResolution (pendingOperation : PendingOperation)
      (attemptedStatus : TransactionStatus) (transactionId : PyStr)
  | reconciliationState (message : PyStr)
  | typeError (message : PyStr)
  | valueError (message : PyStr)
  deriving DecidableEq, Repr

namespace TransactionError

def txContext (transactionId : PyStr) : PyStr :=
  if transactionId = [] then [] else py " for transaction '" ++ transactionId ++ py "'"

/-- The text `str(exc)` gives. -/
def message : TransactionError → PyStr
  | invalidTransactionInvariant msg => msg
  | invalidStateTransition current attempted id reason =>
      py "Invalid transaction transition" ++ txContext id ++ py ": cannot transition from '" ++
        current.value ++ py "' to '" ++ attempted.value ++ py "'" ++
        (match reason with
          | some r => if r = [] then [] else py " (" ++ r ++ py ")"
          | none => []) ++ py "."
  | invalidReconciliationOperation current attempted id =>
      py "Invalid reconciliation operation" ++ txContext id ++ py ": operation '" ++
        attempted.value ++ py "' cannot be initiated from state '" ++ current.value ++ py "'."
  | invalidReconciliationResolution pending attempted id =>
      py "Invalid reconciliation resolution" ++ txContext id ++
        py ": cannot resolve pending operation '" ++ pending.value ++ py "' to state '" ++
        attempted.value ++ py "'."
  | reconciliationState msg => msg
  | typeError msg => msg
  | valueError msg => msg

end TransactionError

/-! ## The entity -/

structure Transaction where
  transactionId : PyStr
  status : TransactionStatus
  version : Int
  pendingOperation : Option PendingOperation
  deriving DecidableEq, Repr

namespace Transaction

def got (typeName reprText : PyStr) : PyStr :=
  py "got " ++ typeName ++ py " (" ++ reprText ++ py ")."

def versionError (typeName reprText : PyStr) : TransactionError :=
  .invalidTransactionInvariant
    (py "version must be an exact integer >= 0, " ++ got typeName reprText)

/-- A negative version is named by its `repr`, which Python refuses to make of too many digits. -/
def negativeVersionError (v : Int) : TransactionError :=
  if printable v then versionError (py "int") (textOfInt v)
  else
    .valueError (py "Exceeds the limit (4300 digits) for integer string conversion; " ++
      py "use sys.set_int_max_str_digits() to increase the limit")

/-- The last two checks of `_validate_initial_invariants`, on `status` and `pending_operation`. -/
def validatePending (status : TransactionStatus) (pendingOperation : Option (Arg PendingOperation)) :
    Except TransactionError (Option PendingOperation) :=
  if status = .pendingReconciliation then
    match pendingOperation with
    | none =>
        .error (.invalidTransactionInvariant
          (py "pending_operation must not be None when status is PENDING_RECONCILIATION."))
    | some (.foreign typeName reprText) =>
        .error (.invalidTransactionInvariant
          (py "pending_operation must be a valid PendingOperation enum, " ++
            got typeName reprText))
    | some (.inst op) => .ok (some op)
  else
    match pendingOperation with
    | none => .ok none
    | some _ =>
        .error (.invalidTransactionInvariant
          (py "pending_operation must be None when status is '" ++ status.value ++ py "'."))

/-- `Transaction.__init__` on arbitrary runtime values. -/
def init (transactionId : Arg PyStr) (status : Arg TransactionStatus) (version : Arg Int)
    (pendingOperation : Option (Arg PendingOperation)) : Except TransactionError Transaction :=
  match transactionId with
  | .foreign _ _ =>
      .error (.invalidTransactionInvariant (py "transaction_id must be a non-empty string."))
  | .inst id =>
      if strip id = [] then
        .error (.invalidTransactionInvariant (py "transaction_id must be a non-empty string."))
      else
        match version with
        | .foreign typeName reprText => .error (versionError typeName reprText)
        | .inst v =>
            if v < 0 then
              .error (negativeVersionError v)
            else
              match status with
              | .foreign typeName reprText =>
                  .error (.invalidTransactionInvariant
                    (py "status must be a valid TransactionStatus enum, " ++
                      got typeName reprText))
              | .inst st =>
                  match validatePending st pendingOperation with
                  | .error e => .error e
                  | .ok op => .ok ⟨id, st, v, op⟩

/-- `Transaction(transaction_id=id)`, every other argument at its default. -/
def new (id : PyStr) : Except TransactionError Transaction :=
  init (.inst id) (.inst .created) (.inst 0) none

def isTerminal (t : Transaction) : Bool :=
  t.status ∈ terminalStates

def statusTypeError (typeName reprText : PyStr) : TransactionError :=
  .typeError (py "target_status must be an instance of TransactionStatus, " ++
    got typeName reprText)

def transitionTo (t : Transaction) (target : Arg TransactionStatus) :
    Except TransactionError Unit × Transaction :=
  match target with
  | .foreign typeName reprText => (.error (statusTypeError typeName reprText), t)
  | .inst targetStatus =>
      if t.status = .pendingReconciliation then
        (.error (.reconciliationState
          (py "Transaction '" ++ t.transactionId ++
            py "' is in PENDING_RECONCILIATION; ordinary transition to '" ++ targetStatus.value ++
            py "' is prohibited. Use resolve_reconciliation().")), t)
      else if targetStatus = .pendingReconciliation then
        (.error (.invalidStateTransition t.status targetStatus t.transactionId
          (some (py "Cannot transition directly to PENDING_RECONCILIATION; use mark_pending_reconciliation()"))), t)
      else if targetStatus ∈ ordinaryTransitions t.status then
        (.ok (), { t with status := targetStatus, version := t.version + 1 })
      else
        (.error (.invalidStateTransition t.status targetStatus t.transactionId none), t)

def markPendingReconciliation (t : Transaction) (operation : Arg PendingOperation) :
    Except TransactionError Unit × Transaction :=
  match operation with
  | .foreign typeName reprText =>
      (.error (.typeError (py "operation must be an instance of PendingOperation, " ++
        got typeName reprText)), t)
  | .inst op =>
      if t.status = .pendingReconciliation then
        (.error (.reconciliationState
          (py "Transaction '" ++ t.transactionId ++
            py "' is already in PENDING_RECONCILIATION.")), t)
      else if reconciliationEntries t.status = some op then
        (.ok (),
          { t with
            status := .pendingReconciliation
            pendingOperation := some op
            version := t.version + 1 })
      else
        (.error (.invalidReconciliationOperation t.status op t.transactionId), t)

def resolveReconciliation (t : Transaction) (target : Arg TransactionStatus) :
    Except TransactionError Unit × Transaction :=
  match target with
  | .foreign typeName reprText => (.error (statusTypeError typeName reprText), t)
  | .inst targetStatus =>
      if t.status ≠ .pendingReconciliation then
        (.error (.reconciliationState
          (py "Cannot resolve reconciliation for transaction '" ++ t.transactionId ++
            py "': current status is '" ++ t.status.value ++
            py "', expected 'PENDING_RECONCILIATION'.")), t)
      else
        match t.pendingOperation with
        | none =>
            (.error (.invalidTransactionInvariant
              (py "Transaction '" ++ t.transactionId ++
                py "' corrupted: in PENDING_RECONCILIATION without pending_operation.")), t)
        | some op =>
            if targetStatus ∈ reconciliationResolutions op then
              (.ok (),
                { t with
                  status := targetStatus
                  pendingOperation := none
                  version := t.version + 1 })
            else
              (.error (.invalidReconciliationResolution op targetStatus t.transactionId), t)

/-! ## Calls -/

/-- One call of a mutator. -/
inductive Call
  | transitionTo (target : Arg TransactionStatus)
  | markPendingReconciliation (operation : Arg PendingOperation)
  | resolveReconciliation (target : Arg TransactionStatus)
  deriving DecidableEq, Repr

def call (t : Transaction) : Call → Except TransactionError Unit × Transaction
  | .transitionTo target => t.transitionTo target
  | .markPendingReconciliation op => t.markPendingReconciliation op
  | .resolveReconciliation target => t.resolveReconciliation target

/-- What a call can do: raise and leave the entity alone, follow an ordinary edge, enter
reconciliation with the operation of the current status, or resolve the pending operation. -/
theorem call_cases (t : Transaction) (c : Call) :
    (∃ e, t.call c = (.error e, t)) ∨
    (∃ target ∈ ordinaryTransitions t.status, c = .transitionTo (.inst target) ∧
      t.status ≠ .pendingReconciliation ∧ target ≠ .pendingReconciliation ∧
      t.call c = (.ok (), { t with status := target, version := t.version + 1 })) ∨
    (∃ op, reconciliationEntries t.status = some op ∧ c = .markPendingReconciliation (.inst op) ∧
      t.status ≠ .pendingReconciliation ∧
      t.call c = (.ok (), { t with
        status := .pendingReconciliation
        pendingOperation := some op
        version := t.version + 1 })) ∨
    (∃ op, ∃ target ∈ reconciliationResolutions op, c = .resolveReconciliation (.inst target) ∧
      t.status = .pendingReconciliation ∧ t.pendingOperation = some op ∧
      t.call c = (.ok (), { t with
        status := target
        pendingOperation := none
        version := t.version + 1 })) := by
  cases c with
  | transitionTo target =>
      cases target with
      -- an argument of another type is refused before anything is read
      | foreign typeName reprText =>
          exact .inl ⟨_, rfl⟩
      | inst target =>
          by_cases hp : t.status = .pendingReconciliation
          · exact .inl ⟨_, by simp [call, transitionTo, hp]; rfl⟩
          · by_cases ht : target = .pendingReconciliation
            · exact .inl ⟨_, by simp [call, transitionTo, hp, ht]; rfl⟩
            · by_cases hmem : target ∈ ordinaryTransitions t.status
              · refine .inr (.inl ⟨target, hmem, rfl, hp, ht, ?_⟩)
                simp [call, transitionTo, hp, ht, hmem]
              · exact .inl ⟨_, by simp [call, transitionTo, hp, ht, hmem]; rfl⟩
  | markPendingReconciliation operation =>
      cases operation with
      | foreign typeName reprText =>
          exact .inl ⟨_, rfl⟩
      | inst op =>
          by_cases hp : t.status = .pendingReconciliation
          · exact .inl ⟨_, by simp [call, markPendingReconciliation, hp]; rfl⟩
          · by_cases hop : reconciliationEntries t.status = some op
            · refine .inr (.inr (.inl ⟨op, hop, rfl, hp, ?_⟩))
              simp [call, markPendingReconciliation, hp, hop]
            · exact .inl ⟨_, by simp [call, markPendingReconciliation, hp, hop]; rfl⟩
  | resolveReconciliation target =>
      cases target with
      | foreign typeName reprText =>
          exact .inl ⟨_, rfl⟩
      | inst target =>
          by_cases hp : t.status = .pendingReconciliation
          · cases hop : t.pendingOperation with
            | none =>
                exact .inl ⟨_, by simp [call, resolveReconciliation, hp, hop]; rfl⟩
            | some op =>
                by_cases hmem : target ∈ reconciliationResolutions op
                · refine .inr (.inr (.inr ⟨op, target, hmem, rfl, hp, rfl, ?_⟩))
                  simp [call, resolveReconciliation, hp, hop, hmem]
                · exact .inl ⟨_, by simp [call, resolveReconciliation, hp, hop, hmem]; rfl⟩
          · exact .inl ⟨_, by simp [call, resolveReconciliation, hp]; rfl⟩

end Transaction

end Domain
end TransactionPlatform
