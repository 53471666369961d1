import TransactionPlatform.Infrastructure.IdempotencyCoordinator
import TransactionPlatform.Lib.Transition

/-!
# Coordination — any number of `reserve` and `complete` calls on one database

The statements of all calls interleave freely.  Besides running its next statement a call may

* `fail`: the statement raises; the call leaves its transaction block through a rollback, and an
  exception from a `COMMIT` says nothing about whether the server applied it;
* be `kill`ed: the process is gone between two of its steps.

Either way a transaction can be left open on the server without a client.  The server discards it
some time later (`reap`), or still applies its `COMMIT` if that was already on its way (`land`).

`log` lists the transactions with row changes in commit order; nothing reads it.
-/

namespace TransactionPlatform
namespace Infrastructure

open Text Domain Ports ReadCommitted

/-! ## States and events -/

inductive CallState
  | idle
  | reserve (a : ReserveArgs) (pc : ReservePc)
  | complete (a : CompleteArgs) (pc : CompletePc)

/-- The transaction a call left behind on the server. -/
inductive Orphan
  | none
  | abandoned
  | inFlight (now : Timestamp)
  deriving DecidableEq, Repr

inductive CoordinatorCall
  | reserve (a : ReserveArgs)
  | complete (a : CompleteArgs)
  deriving Repr

/-- A committed transaction: the call it belongs to and its `now()`. -/
structure Commit (ι : Type) where
  id : ι
  call : CoordinatorCall
  now : Timestamp
  deriving Repr

structure Coordination (ι : Type) where
  server : Server Row ι
  call : ι → CallState
  orphan : ι → Orphan
  log : List (Commit ι)

/-- What a failing statement raises: an exception SQLAlchemy wraps, or another one such as a
cancellation. -/
inductive Fault
  | sqlAlchemyError
  | foreign (className : PyStr)
  deriving DecidableEq, Repr

inductive CoordinatorEvent (ι : Type)
  | start (c : ι) (call : CoordinatorCall)
  | step (c : ι) (now : Timestamp)
  | fail (c : ι) (fault : Fault)
  | kill (c : ι)
  | land (c : ι)
  | reap (c : ι)

/-! ## Faults of one call -/

def Fault.during (failed : Exc) : Fault → Exc
  | sqlAlchemyError => failed
  | foreign className => .foreign className

/-- `reserve` when its current statement raises `e`. -/
def reserveFail (e : Exc) : ReservePc → Option (ReservePc × Orphan)
  | .commitAcquired t => some (.done (.error e), .inFlight t)
  | .commitResult _ | .commitUnexplained => some (.done (.error e), .abandoned)
  | .rollbackConflict | .rollback _ => some (.done (.error e), .abandoned)
  | .done _ | .gone => none
  | _ => some (.rollback e, .none)

/-- `complete` when its current statement raises `e`. -/
def completeFail (e : Exc) : CompletePc → Option (CompletePc × Orphan)
  | .commit t => some (.done (.error e), .inFlight t)
  | .rollback _ => some (.done (.error e), .abandoned)
  | .done _ | .gone => none
  | _ => some (.rollback e, .none)

/-- What a `reserve` leaves behind when its process goes away. -/
def reserveKill : ReservePc → Option Orphan
  | .commitAcquired t => some (.inFlight t)
  | .done _ | .gone => none
  | _ => some .abandoned

def completeKill : CompletePc → Option Orphan
  | .commit t => some (.inFlight t)
  | .done _ | .gone => none
  | _ => some .abandoned

/-- The log entry of a `COMMIT` statement. -/
def reserveLogged {ι : Type} (c : ι) (a : ReserveArgs) : ReservePc → List (Commit ι)
  | .commitAcquired t => [⟨c, .reserve a, t⟩]
  | _ => []

def completeLogged {ι : Type} (c : ι) (a : CompleteArgs) : CompletePc → List (Commit ι)
  | .commit t => [⟨c, .complete a, t⟩]
  | _ => []

/-! ## The transition system -/

def CoordinatorCall.begin : CoordinatorCall → CallState
  | .reserve a => .reserve a .select
  | .complete a => .complete a (completeStart a)

/-- The call whose statements a state belongs to. -/
def CallState.call : CallState → Option CoordinatorCall
  | .idle => none
  | .reserve a _ => some (.reserve a)
  | .complete a _ => some (.complete a)

namespace Coordination

variable {ι : Type} [DecidableEq ι]

def init (T : Tables) : Coordination ι :=
  { server := Server.fresh T
    call := fun _ => .idle
    orphan := fun _ => .none
    log := [] }

/-- The committed tables. -/
def tables (s : Coordination ι) : Tables :=
  s.server.committed

def setCall (s : Coordination ι) (c : ι) (cs : CallState) : Coordination ι :=
  { s with call := Function.update s.call c cs }

def start (s : Coordination ι) (c : ι) (call : CoordinatorCall) : Option (Coordination ι) :=
  match s.call c with
  | .idle => some (s.setCall c call.begin)
  | _ => none

def stepCall (s : Coordination ι) (c : ι) (now : Timestamp) : Option (Coordination ι) :=
  match s.call c with
  | .idle => none
  | .reserve a pc =>
      match reserveStep s.server c a now pc with
      | some (server, pc') =>
          some { (s.setCall c (.reserve a pc')) with
                  server := server
                  log := s.log ++ reserveLogged c a pc }
      | none => none
  | .complete a pc =>
      match completeStep s.server c a now pc with
      | some (server, pc') =>
          some { (s.setCall c (.complete a pc')) with
                  server := server
                  log := s.log ++ completeLogged c a pc }
      | none => none

def failCall (s : Coordination ι) (c : ι) (fault : Fault) : Option (Coordination ι) :=
  match s.call c with
  | .idle => none
  | .reserve a pc =>
      match reserveFail (fault.during reservationFailed) pc with
      | some (pc', orphan) =>
          some { (s.setCall c (.reserve a pc')) with orphan := Function.update s.orphan c orphan }
      | none => none
  | .complete a pc =>
      match completeFail (fault.during completionFailed) pc with
      | some (pc', orphan) =>
          some { (s.setCall c (.complete a pc')) with orphan := Function.update s.orphan c orphan }
      | none => none

def killCall (s : Coordination ι) (c : ι) : Option (Coordination ι) :=
  match s.call c with
  | .idle => none
  | .reserve a pc =>
      match reserveKill pc with
      | some orphan =>
          some { (s.setCall c (.reserve a .gone)) with
                  orphan := Function.update s.orphan c orphan }
      | none => none
  | .complete a pc =>
      match completeKill pc with
      | some orphan =>
          some { (s.setCall c (.complete a .gone)) with
                  orphan := Function.update s.orphan c orphan }
      | none => none

/-- The server applies a `COMMIT` whose client is gone. -/
def land (s : Coordination ι) (c : ι) : Option (Coordination ι) :=
  match s.orphan c, (s.call c).call with
  | .inFlight t, some call =>
      some { s with
              server := s.server.commit c
              orphan := Function.update s.orphan c .none
              log := s.log ++ [⟨c, call, t⟩] }
  | _, _ => none

/-- The server discards a transaction whose client is gone. -/
def reap (s : Coordination ι) (c : ι) : Option (Coordination ι) :=
  match s.orphan c with
  | .none => none
  | _ =>
      some { s with
              server := s.server.rollback c
              orphan := Function.update s.orphan c .none }

def step (s : Coordination ι) : CoordinatorEvent ι → Option (Coordination ι)
  | .start c call => s.start c call
  | .step c now => s.stepCall c now
  | .fail c fault => s.failCall c fault
  | .kill c => s.killCall c
  | .land c => s.land c
  | .reap c => s.reap c

end Coordination

end Infrastructure
end TransactionPlatform
