import TransactionPlatform.Api.App
import TransactionPlatform.Infrastructure.Footprints
import TransactionPlatform.System.Reservable
import TransactionPlatform.System.Termination

/-!
# Unrelated — requests without a common row do not interfere

A request names one transaction id and one key hash.  As long as no other request names either, it
runs through the same statements as if it were alone on the starting database: whatever the others
do in between is out of its view (`other_like`).  A request that is alone has at most one thing to do
next, so all interleavings of such requests agree, and with them the runs that take one request after
another.
-/

namespace TransactionPlatform
namespace System

open Text Domain Ports Common Application Api Infrastructure ReadCommitted Transition

/-! ## Requests without a common row -/

/-- The primary keys of a request. -/
def Request.names (request : Request) : Pk → Prop
  | .transaction id => id = request.command.transactionId
  | .record k => computeKeyHash request.idempotencyKey = .ok k

/-- The API strips transaction ids; no two of the requests share an id or a key hash. -/
structure Unrelated (requests : Nat → Request) (order : List Nat) : Prop where
  nodup : order.Nodup
  stripped : ∀ r ∈ order,
    strip (requests r).command.transactionId = (requests r).command.transactionId
  transactionIds : ∀ r ∈ order, ∀ q ∈ order, r ≠ q →
    (requests r).command.transactionId ≠ (requests q).command.transactionId
  keyHashes : ∀ r ∈ order, ∀ q ∈ order, r ≠ q → ∀ k,
    computeKeyHash (requests r).idempotencyKey = .ok k →
      computeKeyHash (requests q).idempotencyKey ≠ .ok k

theorem Unrelated.disjoint {requests : Nat → Request} {order : List Nat}
    (h : Unrelated requests order) {r q : Nat} (hr : r ∈ order) (hq : q ∈ order) (hne : r ≠ q)
    {k : Pk} (hk : (requests r).names k) : ¬ (requests q).names k := by
  intro hk'
  cases k with
  | transaction id =>
      exact h.transactionIds r hr q hq hne (Eq.trans (Eq.symm hk) hk')
  | record k =>
      exact h.keyHashes r hr q hq hne k hk hk'

/-- The requests take their steps one after another, in the order of `turns`. -/
def InTurn (turns : List Nat) (es : List Event) : Prop :=
  ∃ block : Nat → List Event, (∀ r, ∀ e ∈ block r, e.owner = r) ∧ es = turns.flatMap block

/-! ## Timestamps aside -/

def timelessRow : ∀ k, Row k → Row k
  | .transaction _, row => ({ row with createdAt := 0, updatedAt := 0 } : TransactionRow)
  | .record _, record => ({ record with createdAt := 0, updatedAt := 0 } : IdempotencyRecord)

def timeless (T : Tables) : Tables :=
  fun k => (T k).map (timelessRow k)

/-- Every request has the same answer, and the tables are the same, timestamps aside. -/
structure SameOutcome (order : List Nat) (s t : Requests) : Prop where
  answers : ∀ r ∈ order, t.phase r = s.phase r
  tables : timeless t.tables = timeless s.tables

/-! ## The view of one request -/

/-- One request sees the rows it names and nothing of their timestamps. -/
def ownView (request : Request) : Renaming :=
  { keyHash := fun k k' => k = k' ∧ computeKeyHash request.idempotencyKey = .ok k
    fingerprint := fun f f' => f = f' ∧ IsDigest f
    keyHash_unique := ⟨fun _ _ _ h h' => h.1.trans h'.1.symm, fun _ _ _ h h' => h.1.symm.trans h'.1⟩
    fingerprint_unique :=
      ⟨fun _ _ _ h h' => h.1.trans h'.1.symm, fun _ _ _ h h' => h.1.symm.trans h'.1⟩
    keyHash_digest := by
      rintro k _ ⟨rfl, hk⟩
      exact ⟨isDigest_sha256Text hk, isDigest_sha256Text hk⟩
    fingerprint_digest := by
      rintro f _ ⟨rfl, hf⟩
      exact ⟨hf, hf⟩
    time := fun _ _ => True
    ids := fun id => id = request.command.transactionId }

theorem ownView_keys {request : Request} {k k' : Pk} :
    (ownView request).keys k k' ↔ k = k' ∧ request.names k := by
  cases k <;> cases k' <;> simp [Renaming.keys, ownView, Request.names]

theorem likeTransactions_self {request : Request} (row : TransactionRow) :
    (ownView request).LikeTransactions row row :=
  .intro row.createdAt row.updatedAt trivial trivial

theorem likeRequests_self {request : Request}
    (hstripped : strip request.command.transactionId = request.command.transactionId) :
    LikeRequests (ownView request) request request where
  transactionId := rfl
  in_view := rfl
  reserveArgs := by
    cases hargs : request.reserveArgs with
    | error e =>
        exact .errorSame e
    | ok a =>
        rcases reserveArgs_ok hargs with ⟨hkey, hprint, hid, _⟩
        refine .ok (.intro a.keyHash a.requestFingerprint ⟨rfl, hkey⟩
          ⟨rfl, isDigest_fingerprint hprint⟩ hid ?_)
        intro id hstored
        rw [hid, varchar_stripped hstripped] at hstored
        split at hstored
        · exact (Option.some.inj hstored).symm
        · cases hstored

/-- At the start a request sees what it would see alone. -/
theorem likeSystems_init {T : Tables} (hT : SchemaOk T) (request : Request) (V : Nat → Prop) :
    LikeSystems (ownView request) V (Requests.init T) (Requests.init T) := by
  refine .init ?_
  intro k k' hk
  rcases ownView_keys.mp hk with ⟨rfl, hnames⟩
  cases k with
  | transaction id =>
      cases T (.transaction id) with
      | none =>
          exact .none
      | some row =>
          exact .some (likeTransactions_self row)
  | record k =>
      cases hrecord : T (.record k) with
      | none =>
          exact .none
      | some record =>
          rcases hT.record_ok k record hrecord with ⟨hkey, hok⟩
          have hprint : IsDigest record.requestFingerprint := by
            simp only [IdempotencyRecord.admitted, Bool.and_eq_true] at hok
            exact hok.1.1.1.1.2
          exact .some (.intro record.idempotencyKeyHash record.requestFingerprint record.createdAt
            record.updatedAt ⟨rfl, hkey ▸ hnames⟩ ⟨rfl, hprint⟩ trivial trivial)

/-- In its own view nothing of an answer is renamed. -/
theorem eq_of_likeResults {request : Request} {answer answer' : Except Exc ResponseEnvelope}
    (h : LikeResults (ownView request) Eq answer answer') : answer = answer' := by
  cases h with
  | ok henvelope =>
      rw [henvelope]
  | error he =>
      cases he with
      | same e =>
          rfl
      | recordNotUpdated ha =>
          cases ha with
          | intro keyHash hkey hid =>
              rw [← hkey.1]

theorem timeless_of_like {request : Request} {C : CallId → Prop} {T T' : Tables}
    (h : ((ownView request).likeness C).Stores T T') {k : Pk} (hk : request.names k) :
    timeless T' k = timeless T k := by
  have hrel := h k k (ownView_keys.mpr ⟨rfl, hk⟩)
  unfold timeless
  cases k with
  | transaction id =>
      rcases rel_cases hrel with ⟨hnone, hnone'⟩ | ⟨row, row', hrow, hrow', hlike⟩
      · rw [hnone, hnone']
      · rw [hrow, hrow']
        cases hlike
        rfl
  | record k =>
      rcases rel_cases hrel with ⟨hnone, hnone'⟩ | ⟨record, record', hrecord, hrecord', hlike⟩
      · rw [hnone, hnone']
      · rw [hrecord, hrecord']
        cases hlike with
        | intro keyHash requestFingerprint createdAt updatedAt hkey hprint hcreated hupdated =>
            simp only [Option.map_some, timelessRow, ← hkey.1, ← hprint.1]

/-! ## Events of a request alone -/

/-- The same event at time 0. -/
def Event.atZero : Event → Event
  | .database (.step c _) => .database (.step c 0)
  | e => e

theorem likeSteps_atZero {request : Request} {answer : Nat → PortOutcome} {e : Event}
    (h : FaultFree answer e) : LikeSteps (ownView request) e e.atZero := by
  cases h with
  | arrive r =>
      exact .arrive r
  | statement c now =>
      exact .database (.step c trivial)
  | resume r =>
      exact .resume r
  | invoke r =>
      exact .invoke r
  | respond r =>
      exact .respond r (answer r)
  | finish r =>
      exact .finish r

theorem Event.atZero_owner (e : Event) : e.atZero.owner = e.owner := by
  cases e with
  | database d =>
      cases d <;> rfl
  | _ =>
      rfl

theorem FaultFree.atZero {answer : Nat → PortOutcome} {e : Event} (h : FaultFree answer e) :
    FaultFree answer e.atZero := by
  cases h with
  | statement c now =>
      exact .statement c 0
  | arrive r =>
      exact .arrive r
  | resume r =>
      exact .resume r
  | invoke r =>
      exact .invoke r
  | respond r =>
      exact .respond r
  | finish r =>
      exact .finish r

/-- The steps request `r` takes in a run, as it would take them alone. -/
def ownSteps (r : Nat) (es : List Event) : List Event :=
  (es.filter fun e => e.owner = r).map Event.atZero

/-- Request `r` is in `s` where it is in `p`, and sees the same rows. -/
abbrev SeesSame (requests : Nat → Request) (r : Nat) (s p : Requests) : Prop :=
  LikeSystems (ownView (requests r)) (fun q => q = r) s p

namespace Requests

variable {requests : Nat → Request} {order : List Nat} {answer : Nat → PortOutcome}

/-! ## Steps of other requests -/

/-- A call names the keys of its request only. -/
theorem names_of_call {T : Tables} {s : Requests}
    (hreach : Reachable (Requests.step requests) (init T) s) {c : CallId}
    (hstripped : strip (requests c.request).command.transactionId =
      (requests c.request).command.transactionId)
    {call : CoordinatorCall} (hcall : (s.calls.call c).call = some call) {k : Pk}
    (hk : call.names k) : (requests c.request).names k := by
  have hinv := callsInv_of_reachable hreach c.request
  -- the arguments of a call come from its request
  cases c with
  | reserve r =>
      rcases hinv.reserve_of_call hcall with ⟨a, rfl, hargs⟩
      rcases reserveArgs_ok hargs with ⟨hkey, _, hid, _⟩
      cases k with
      | transaction id =>
          simp only [CoordinatorCall.names, hid, varchar_stripped hstripped] at hk
          split at hk
          · exact (Option.some.inj hk).symm
          · cases hk
      | record k =>
          simp only [CoordinatorCall.names, (isDigest_sha256Text hkey).fits] at hk
          cases hk
          exact hkey
  | complete r =>
      -- the settlement keeps the id and the key it was given
      rcases hinv.complete_of_call hcall with ⟨a, rfl, reserved, outcome, hacquired, hargs, _⟩
      rcases settlement_ok (completion_ok hargs).2 with ⟨hkey, hid, _⟩
      cases k with
      | transaction id =>
          exact hk.trans hid
      | record k =>
          have hkey' : k = reserved.keyHash := hk.trans hkey
          rw [hkey']
          exact (reserveArgs_ok hacquired.1).1

/-- The step of an unrelated request is out of view. -/
theorem other_like (hunrelated : Unrelated requests order) {T : Tables} {s t p : Requests}
    (hreach : Reachable (Requests.step requests) (init T) s) {e : Event}
    (hstep : s.step requests e = some t) {r : Nat} (hr : r ∈ order) (he : e.owner ∈ order)
    (hne : e.owner ≠ r) (h : SeesSame requests r s p) :
    SeesSame requests r t p := by
  have hphase : t.phase r = s.phase r :=
    (step_frame hstep fun hrequest => hne (owner_of_request hrequest)).1
  -- its calls change rows out of view only, and its phase is its own
  refine ⟨?_, ?_⟩
  · rcases step_causes hstep with hsame | ⟨ce, hcauses, hce⟩
    · rw [hsame]
      exact h.calls
    · have hreach' := calls_reachable hreach
      have howner := hcauses.owner
      have hout : ∀ m, Reachable (Requests.step requests) (init T) m → ∀ call,
          (m.calls.call ce.id).call = some call → ∀ k k', (ownView (requests r)).keys k k' →
          ¬ call.names k := by
        intro m hm call hcall k k' hk hnames
        have hown := names_of_call hm (by rw [howner]; exact hunrelated.stripped _ he) hcall hnames
        rw [howner] at hown
        exact hunrelated.disjoint he hr hne hown (ownView_keys.mp hk).2
      exact Coordination.like_frame h.calls (Coordination.inv_of_reachable hreach')
        (Coordination.namesInv_of_reachable hreach') hce (by rw [howner]; exact hne)
        (hout s hreach) (hout t (hreach.next hstep))
  · rintro q rfl
    rw [hphase]
    exact h.phase q rfl

/-- Rows that no request names stay as they are. -/
theorem others_unchanged (hunrelated : Unrelated requests order) {T : Tables} {es : List Event}
    (hes : ∀ e ∈ es, e.owner ∈ order) {s : Requests}
    (hrun : exec (Requests.step requests) (init T) es = some s) {k : Pk}
    (hk : ∀ r ∈ order, ¬ (requests r).names k) : s.tables k = T k := by
  have hboth : Reachable (Requests.step requests) (init T) s ∧ s.tables k = T k := by
    refine exec_invariant_of (A := fun e => e.owner ∈ order)
      (I := fun m => Reachable (Requests.step requests) (init T) m ∧ m.tables k = T k) ?_
      ⟨Reachable.refl _, rfl⟩ hes hrun
    rintro m e m' ⟨hm, hsame⟩ he hstep
    refine ⟨hm.next hstep, ?_⟩
    rcases step_causes hstep with hcalls | ⟨ce, hcauses, hce⟩
    · rw [tables, hcalls]
      exact hsame
    · have hreach := calls_reachable hm
      have howner := hcauses.owner
      refine Eq.trans (Coordination.step_committed (Coordination.inv_of_reachable hreach)
        (Coordination.namesInv_of_reachable hreach) hce ?_) hsame
      intro call hcall hnames
      have hown := names_of_call hm (by rw [howner]; exact hunrelated.stripped _ he) hcall hnames
      rw [howner] at hown
      exact hk _ he hown
  exact hboth.2

/-! ## A request alone -/

/-- A run looks to an unrelated request as if it were alone. -/
theorem alone_of_run (hunrelated : Unrelated requests order) {T : Tables} {r : Nat} (hr : r ∈ order)
    {es : List Event} (hes : Undisturbed answer order es) {s t p : Requests}
    (hreach : Reachable (Requests.step requests) (init T) s)
    (h : SeesSame requests r s p)
    (hrun : exec (Requests.step requests) s es = some t) :
    ∃ q, exec (Requests.step requests) p (ownSteps r es) = some q ∧
      SeesSame requests r t q := by
  -- induction on the run: own steps are taken alone as well, the others are out of view
  induction es generalizing s p with
  | nil =>
      cases hrun
      exact ⟨p, rfl, h⟩
  | cons e es ih =>
      rcases exec_cons_eq_some.mp hrun with ⟨m, hm, hrest⟩
      rcases hes e (by simp) with ⟨hfree, howner⟩
      have hes' : Undisturbed answer order es := fun e' he' => hes e' (by simp [he'])
      by_cases hown : e.owner = r
      · have hrequests : ∀ q, q = r → LikeRequests (ownView (requests r)) (requests q)
            (requests q) := by
          rintro q rfl
          exact likeRequests_self (hunrelated.stripped q hr)
        have hnext := h.step hrequests (likeSteps_atZero hfree) hown
        rcases rel_some hnext hm with ⟨p', hp', hlike⟩
        rcases ih hes' (hreach.next hm) hlike hrest with ⟨q, hq, hlike'⟩
        refine ⟨q, ?_, hlike'⟩
        have hsteps : ownSteps r (e :: es) = e.atZero :: ownSteps r es := by
          simp [ownSteps, hown]
        rw [hsteps]
        exact exec_cons_eq_some.mpr ⟨p', hp', hq⟩
      · have hsteps : ownSteps r (e :: es) = ownSteps r es := by
          simp [ownSteps, hown]
        rw [hsteps]
        exact ih hes' (hreach.next hm) (other_like hunrelated hreach hm hr howner hown h) hrest

/-! ## Only one thing to do next -/

/-- What request `r` does next, if nothing goes wrong. -/
def next (answer : Nat → PortOutcome) (s : Requests) (r : Nat) : Option Event :=
  match s.phase r with
  | .idle => some (.arrive r)
  | .reserving =>
      if (s.calls.call (.reserve r)).over then some (.resume r)
      else some (.database (.step (.reserve r) 0))
  | .acquired _ => some (.invoke r)
  | .awaiting _ => some (.respond r (answer r))
  | .completing _ =>
      if (s.calls.call (.complete r)).over then some (.finish r)
      else some (.database (.step (.complete r) 0))
  | .finished _ => none
  | .crashed => none

theorem statement_next {T : Tables} {s : Requests} {c : CallId} {calls : Coordination CallId}
    (hreach : Reachable (Requests.step requests) (init T) s) (hquiet : QuietInv s)
    (hcalls : s.calls.step (.step c 0) = some calls) :
    next answer s c.request = some (.database (.step c 0)) := by
  have hrunning := not_rests_of_step hcalls
  have hover : ¬ (s.calls.call c).over = true := fun hover => hrunning (.inr hover)
  cases c with
  | reserve r =>
      rcases (rests_of_phase hreach hquiet r).1 with hphase | hrests
      · simp only [next, CallId.request, hphase]
        exact if_neg hover
      · exact absurd hrests hrunning
  | complete r =>
      rcases (rests_of_phase hreach hquiet r).2 with ⟨envelope, hphase⟩ | hrests
      · simp only [next, CallId.request, hphase]
        exact if_neg hover
      · exact absurd hrests hrunning

/-- Without faults a step of request `r` is the one it does next. -/
theorem step_next {T : Tables} {s t : Requests} {e : Event} {r : Nat}
    (hreach : Reachable (Requests.step requests) (init T) s) (hquiet : QuietInv s)
    (hfree : FaultFree answer e) (howner : e.owner = r) (hzero : e.atZero = e)
    (hstep : s.step requests e = some t) : next answer s r = some e := by
  -- the phase of the request leaves one event that can happen
  cases transition_of_step hstep with
  | arrive r₀ a calls hphase _ _ =>
      cases howner
      simp only [next, Event.owner, hphase]
  | refused r₀ e hphase _ =>
      cases howner
      simp only [next, Event.owner, hphase]
  | database d calls hcalls =>
      cases hfree with
      | statement c now =>
          cases hzero
          cases howner
          exact statement_next hreach hquiet hcalls
  | answered r₀ a reservation answer hphase hcall _ =>
      cases howner
      simp [next, Event.owner, hphase, hcall, CallState.over]
  | acquired r₀ a reservation hphase hcall _ =>
      cases howner
      simp [next, Event.owner, hphase, hcall, CallState.over]
  | reserveError r₀ a e hphase hcall =>
      cases howner
      simp [next, Event.owner, hphase, hcall, CallState.over]
  | invoke r₀ keyHash t hphase _ =>
      cases howner
      simp only [next, Event.owner, hphase]
  | invalid r₀ keyHash e hphase _ =>
      cases howner
      simp only [next, Event.owner, hphase]
  | respond r₀ keyHash outcome a calls hphase _ _ =>
      cases howner
      cases hfree
      simp only [next, Event.owner, hphase]
  | escaped r₀ keyHash outcome e hphase _ =>
      cases howner
      cases hfree
      simp only [next, Event.owner, hphase]
  | finish r₀ envelope a hphase hcall =>
      cases howner
      simp [next, Event.owner, hphase, hcall, CallState.over]
  | completeError r₀ envelope a e hphase hcall =>
      cases howner
      simp [next, Event.owner, hphase, hcall, CallState.over]
  | cancel r₀ _ =>
      cases hfree
  | crash r₀ calls _ _ =>
      cases hfree

/-! ## One outcome -/

/-- The steps of request `r` alone, without faults. -/
def AloneStep (answer : Nat → PortOutcome) (r : Nat) (e : Event) : Prop :=
  FaultFree answer e ∧ e.owner = r ∧ e.atZero = e

theorem ownSteps_alone {r : Nat} {es : List Event} (hes : Undisturbed answer order es) :
    ∀ e ∈ ownSteps r es, AloneStep answer r e := by
  intro e he
  rcases List.mem_map.mp he with ⟨e', he', rfl⟩
  rcases List.mem_filter.mp he' with ⟨hmem, howner⟩
  refine ⟨(hes e' hmem).1.atZero, ?_, ?_⟩
  · rw [Event.atZero_owner]
    exact of_decide_eq_true howner
  · cases e' with
    | database d =>
        cases d <;> rfl
    | _ =>
        rfl

/-- All complete runs of a request alone end in the same state. -/
theorem alone_unique {T : Tables} {r : Nat} {es es' : List Event} {p p' : Requests}
    (hes : ∀ e ∈ es, AloneStep answer r e) (hes' : ∀ e ∈ es', AloneStep answer r e)
    (hp : exec (Requests.step requests) (init T) es = some p)
    (hp' : exec (Requests.step requests) (init T) es' = some p')
    (hfinished : ∃ answer, p.phase r = .finished answer)
    (hfinished' : ∃ answer, p'.phase r = .finished answer) : p = p' := by
  have hinit : Reachable (Requests.step requests) (init T) (init T) ∧ QuietInv (init T) := by
    refine ⟨Reachable.refl _, ?_⟩
    rintro q (⟨answer, hphase⟩ | hphase) <;> cases hphase
  -- the invariant under which there is only one thing to do next
  have hkept : ∀ s e s', Reachable (Requests.step requests) (init T) s ∧ QuietInv s →
      AloneStep answer r e → Requests.step requests s e = some s' →
      Reachable (Requests.step requests) (init T) s' ∧ QuietInv s' := by
    rintro s e s' ⟨hreach, hquiet⟩ halone hstep
    exact ⟨hreach.next hstep, step_quiet hreach hquiet halone.1 hstep⟩
  have hnext : ∀ s e t, Reachable (Requests.step requests) (init T) s ∧ QuietInv s →
      AloneStep answer r e → Requests.step requests s e = some t → next answer s r = some e := by
    rintro s e t ⟨hreach, hquiet⟩ ⟨hfree, howner, hzero⟩ hstep
    exact step_next hreach hquiet hfree howner hzero hstep
  have hend : ∀ {es : List Event} {q : Requests}, (∀ e ∈ es, AloneStep answer r e) →
      exec (Requests.step requests) (init T) es = some q →
      (∃ answer, q.phase r = .finished answer) → ∀ e, AloneStep answer r e →
      Requests.step requests q e = none := by
    rintro es q hall hq ⟨result, hphase⟩ e halone
    cases hstep : Requests.step requests q e with
    | none =>
        rfl
    | some t =>
        have hsome := hnext q e t (exec_invariant_of hkept hinit hall hq) halone hstep
        rw [next, hphase] at hsome
        cases hsome
  refine exec_unique hkept ?_ hinit hes hes' hp hp' (hend hes hp hfinished)
    (hend hes' hp' hfinished')
  intro s e e' t t' hs halone halone' hstep hstep'
  exact Option.some.inj ((hnext s e t hs halone hstep).symm.trans (hnext s e' t' hs halone' hstep'))

theorem finished_iff {s p : Requests} {r : Nat} (h : SeesSame requests r s p)
    (answer : Except Exc ResponseEnvelope) :
    s.phase r = .finished answer ↔ p.phase r = .finished answer := by
  have hphase := h.phase r rfl
  generalize s.phase r = x at hphase ⊢
  generalize p.phase r = y at hphase ⊢
  cases hphase with
  | finished hanswer =>
      rw [eq_of_likeResults hanswer]
  | _ =>
      simp

/-- Two complete runs of unrelated requests have the same outcome. -/
theorem complete_runs_agree (hunrelated : Unrelated requests order) {T : Tables} (hT : SchemaOk T)
    {es es' : List Event} (hes : Undisturbed answer order es) (hes' : Undisturbed answer order es')
    {s s' : Requests} (hs : exec (Requests.step requests) (init T) es = some s)
    (hs' : exec (Requests.step requests) (init T) es' = some s') (hall : AllFinished order s)
    (hall' : AllFinished order s') : SameOutcome order s s' := by
  -- each request runs as it would alone, in both runs
  have halone : ∀ r ∈ order, ∃ p, SeesSame requests r s p ∧
      SeesSame requests r s' p := by
    intro r hr
    have hinit := likeSystems_init hT (requests r) (fun q => q = r)
    rcases alone_of_run hunrelated hr hes (Reachable.refl _) hinit hs with ⟨p, hp, hlike⟩
    rcases alone_of_run hunrelated hr hes' (Reachable.refl _) hinit hs' with ⟨p', hp', hlike'⟩
    have hfinished : ∃ answer, p.phase r = .finished answer := by
      rcases hall r hr with ⟨result, hresult⟩
      exact ⟨result, (finished_iff hlike result).mp hresult⟩
    have hfinished' : ∃ answer, p'.phase r = .finished answer := by
      rcases hall' r hr with ⟨result, hresult⟩
      exact ⟨result, (finished_iff hlike' result).mp hresult⟩
    have hsame : p = p' :=
      alone_unique (ownSteps_alone hes) (ownSteps_alone hes') hp hp' hfinished hfinished'
    subst hsame
    exact ⟨p, hlike, hlike'⟩
  constructor
  · intro r hr
    rcases halone r hr with ⟨p, hlike, hlike'⟩
    rcases hall r hr with ⟨result, hresult⟩
    rw [hresult, (finished_iff hlike' result).mpr ((finished_iff hlike result).mp hresult)]
  · funext k
    by_cases hnamed : ∃ r ∈ order, (requests r).names k
    · rcases hnamed with ⟨r, hr, hk⟩
      rcases halone r hr with ⟨p, hlike, hlike'⟩
      have hleft := timeless_of_like hlike.calls.server.committed hk
      have hright := timeless_of_like hlike'.calls.server.committed hk
      exact hright.symm.trans hleft
    · have hother : ∀ r ∈ order, ¬ (requests r).names k := fun r hr hk => hnamed ⟨r, hr, hk⟩
      have hleft := others_unchanged hunrelated (fun e he => (hes e he).2) hs hother
      have hright := others_unchanged hunrelated (fun e he => (hes' e he).2) hs' hother
      simp only [timeless, hleft, hright]

/-! ## One after another -/

/-- The steps request `r` takes in a run. -/
def blockOf (es : List Event) (r : Nat) : List Event :=
  es.filter fun e => e.owner = r

theorem blockOf_owner {es : List Event} {r : Nat} {e : Event} (he : e ∈ blockOf es r) :
    e.owner = r :=
  of_decide_eq_true (List.mem_filter.mp he).2

theorem blockOf_undisturbed {es : List Event} (hes : Undisturbed answer order es) (r : Nat) :
    Undisturbed answer order (blockOf es r) :=
  fun e he => hes e (List.mem_filter.mp he).1

/-- Where a request has not begun, it can take all the steps it takes alone. -/
theorem block_runs {r : Nat}
    (hstripped : strip (requests r).command.transactionId = (requests r).command.transactionId)
    {es : List Event} (hes : Undisturbed answer order es) {m p q : Requests}
    (h : SeesSame requests r m p)
    (hrun : exec (Requests.step requests) p (ownSteps r es) = some q) :
    ∃ t, exec (Requests.step requests) m (blockOf es r) = some t ∧
      SeesSame requests r t q := by
  have hrequests : ∀ q, q = r → LikeRequests (ownView (requests r)) (requests q) (requests q) := by
    rintro q rfl
    exact likeRequests_self hstripped
  have hstep : ∀ s s' e e', SeesSame requests r s s' →
      (LikeSteps (ownView (requests r)) e e' ∧ e.owner = r) →
      Option.Rel (SeesSame requests r) (Requests.step requests s e)
        (Requests.step requests s' e') := fun s s' e e' hs he =>
    hs.step hrequests he.1 he.2
  have hevents : List.Forall₂ (fun e e' => LikeSteps (ownView (requests r)) e e' ∧ e.owner = r)
      (blockOf es r) (ownSteps r es) := by
    refine List.forall₂_map_right_iff.mpr (List.forall₂_same.mpr ?_)
    intro e he
    exact ⟨likeSteps_atZero (blockOf_undisturbed hes r e he).1, blockOf_owner he⟩
  rcases rel_cases (exec_rel hstep hevents h) with ⟨_, hnone⟩ | ⟨t, q', ht, hq', hlike⟩
  · rw [hrun] at hnone
    cases hnone
  · cases hrun.symm.trans hq'
    exact ⟨t, ht, hlike⟩

/-- What a run without steps of request `r` leaves in its view. -/
theorem untouched (hunrelated : Unrelated requests order) {T : Tables} {r : Nat} (hr : r ∈ order)
    {es : List Event} (hes : Undisturbed answer order es) (hothers : ∀ e ∈ es, e.owner ≠ r)
    {s t p : Requests} (hreach : Reachable (Requests.step requests) (init T) s)
    (h : SeesSame requests r s p)
    (hrun : exec (Requests.step requests) s es = some t) :
    SeesSame requests r t p := by
  rcases alone_of_run hunrelated hr hes hreach h hrun with ⟨q, hq, hlike⟩
  have hnone : ownSteps r es = [] := by
    rw [ownSteps, List.map_eq_nil_iff, List.filter_eq_nil_iff]
    intro e he
    simpa using hothers e he
  rw [hnone] at hq
  cases hq
  exact hlike

/-- The steps of a run, request by request. -/
theorem turns_run (hunrelated : Unrelated requests order) {T : Tables} {es : List Event}
    (hes : Undisturbed answer order es) {turns : List Nat} (hnodup : turns.Nodup)
    (hturns : ∀ r ∈ turns, r ∈ order ∧
      (exec (Requests.step requests) (init T) (ownSteps r es)).isSome)
    {m : Requests} (hreach : Reachable (Requests.step requests) (init T) m)
    (hstart : ∀ r ∈ turns, SeesSame requests r m (init T)) :
    ∃ t, exec (Requests.step requests) m (turns.flatMap (blockOf es)) = some t ∧
      ∀ r ∈ turns, ∃ p, exec (Requests.step requests) (init T) (ownSteps r es) = some p ∧
        SeesSame requests r t p := by
  -- induction on the turns: those still to come have not begun
  induction turns generalizing m with
  | nil =>
      exact ⟨m, rfl, by simp⟩
  | cons r turns ih =>
      rcases List.nodup_cons.mp hnodup with ⟨hnot, hnodup'⟩
      rcases hturns r (by simp) with ⟨hr, hsome⟩
      rcases Option.isSome_iff_exists.mp hsome with ⟨p, halone⟩
      rcases block_runs (hunrelated.stripped r hr) hes (hstart r (by simp)) halone with
        ⟨m', hm', hlike⟩
      have hreach' : Reachable (Requests.step requests) (init T) m' := hreach.trans ⟨_, hm'⟩
      have hothers : ∀ q ∈ turns, q ≠ r := by
        rintro q hq rfl
        exact hnot hq
      have hstart' : ∀ q ∈ turns,
          SeesSame requests q m' (init T) := by
        intro q hq
        refine untouched hunrelated (hturns q (by simp [hq])).1 (blockOf_undisturbed hes r) ?_ hreach
          (hstart q (by simp [hq])) hm'
        intro e he howner
        exact hothers q hq (howner.symm.trans (blockOf_owner he))
      rcases ih hnodup' (fun q hq => hturns q (by simp [hq])) hreach' hstart' with ⟨t, ht, hall⟩
      refine ⟨t, ?_, ?_⟩
      · rw [List.flatMap_cons]
        exact exec_append_eq_some.mpr ⟨m', hm', ht⟩
      · intro q hq
        rcases List.mem_cons.mp hq with rfl | hrest
        · -- the turns of the others do not touch it any more
          have hblocks : Undisturbed answer order (turns.flatMap (blockOf es)) := by
            intro e he
            rcases List.mem_flatMap.mp he with ⟨q', _, he'⟩
            exact blockOf_undisturbed hes q' e he'
          refine ⟨p, halone, untouched hunrelated hr hblocks ?_ hreach' hlike ht⟩
          intro e he howner
          rcases List.mem_flatMap.mp he with ⟨q', hq', he'⟩
          exact hothers q' hq' ((blockOf_owner he').symm.trans howner)
        · exact hall q hrest

/-- A run of the requests has come so far, ends, and could have been serial. -/
structure Commutes (requests : Nat → Request) (answer : Nat → PortOutcome) (order : List Nat)
    (T : Tables) (es : List Event) (s : Requests) : Prop where
  progress : es.length ≤ 15 * order.length ∧
    ∃ more t, Undisturbed answer order more ∧
      exec (Requests.step requests) s more = some t ∧ AllFinished order t
  untouched : ∀ k, (∀ r ∈ order, ¬ (requests r).names k) → s.tables k = T k
  serial : AllFinished order s → ∀ turns : List Nat, turns.Perm order →
    (∃ es' s', InTurn turns es' ∧ Undisturbed answer order es' ∧
      exec (Requests.step requests) (init T) es' = some s' ∧ AllFinished order s') ∧
    ∀ es' s', InTurn turns es' → Undisturbed answer order es' →
      exec (Requests.step requests) (init T) es' = some s' → AllFinished order s' →
      SameOutcome order s s'

theorem commutes_of_unrelated (hunrelated : Unrelated requests order) {T : Tables} (hT : SchemaOk T)
    {es : List Event} (hes : Undisturbed answer order es) {s : Requests}
    (hrun : exec (Requests.step requests) (init T) es = some s) :
    Commutes requests answer order T es s := by
  refine ⟨all_finish hes hrun,
    fun k hk => others_unchanged hunrelated (fun e he => (hes e he).2) hrun hk, ?_⟩
  intro hall turns hperm
  refine ⟨?_, fun es' s' _ hes' hs' hall' => complete_runs_agree hunrelated hT hes hes' hrun hs' hall
    hall'⟩
  -- the serial run takes the steps of this run, request by request
  have halone : ∀ r ∈ order, ∃ p, exec (Requests.step requests) (init T) (ownSteps r es) = some p ∧
      SeesSame requests r s p := fun r hr =>
    alone_of_run hunrelated hr hes (Reachable.refl _) (likeSystems_init hT _ _) hrun
  have hturns : ∀ r ∈ turns, r ∈ order ∧
      (exec (Requests.step requests) (init T) (ownSteps r es)).isSome := by
    intro r hr
    rcases halone r (hperm.mem_iff.mp hr) with ⟨p, hp, _⟩
    exact ⟨hperm.mem_iff.mp hr, by rw [hp]; rfl⟩
  rcases turns_run hunrelated hes (hperm.nodup_iff.mpr hunrelated.nodup) hturns (Reachable.refl _)
    (fun r _ => likeSystems_init hT _ _) with ⟨t, ht, hall'⟩
  refine ⟨turns.flatMap (blockOf es), t, ⟨blockOf es, fun r e he => blockOf_owner he, rfl⟩, ?_, ht,
    ?_⟩
  · intro e he
    rcases List.mem_flatMap.mp he with ⟨r, _, he'⟩
    exact blockOf_undisturbed hes r e he'
  · intro r hr
    rcases hall r hr with ⟨result, hresult⟩
    rcases halone r hr with ⟨p, hp, hlike⟩
    rcases hall' r (hperm.mem_iff.mpr hr) with ⟨p', hp', hlike'⟩
    cases hp.symm.trans hp'
    exact ⟨result, (finished_iff hlike' result).mpr ((finished_iff hlike result).mp hresult)⟩

/-- Unrelated requests do not interfere.  Whatever the starting tables, every run of unrelated requests
without faults has boundedly many steps, goes on to a state where all of them have finished, and leaves
the rows no request names as they are.  Once all have finished, the requests could as well have taken
their steps one after another, in any order, and every run that does so has given every request the
same answer and left the same tables, timestamps aside. -/
theorem unrelated_requests_commute (hunrelated : Unrelated requests order) {T : Tables}
    (hT : SchemaOk T) (answer : Nat → PortOutcome) {es : List Event}
    (hes : Undisturbed answer order es) {s : Requests}
    (hrun : exec (Requests.step requests) (init T) es = some s) :
    (es.length ≤ 15 * order.length ∧
      ∃ more t, Undisturbed answer order more ∧
        exec (Requests.step requests) s more = some t ∧ AllFinished order t) ∧
    (∀ k, (∀ r ∈ order, ¬ (requests r).names k) → s.tables k = T k) ∧
    (AllFinished order s → ∀ turns : List Nat, turns.Perm order →
      (∃ es' s', InTurn turns es' ∧ Undisturbed answer order es' ∧
        exec (Requests.step requests) (init T) es' = some s' ∧ AllFinished order s') ∧
      ∀ es' s', InTurn turns es' → Undisturbed answer order es' →
        exec (Requests.step requests) (init T) es' = some s' → AllFinished order s' →
        SameOutcome order s s') := by
  have hcommutes : Commutes requests answer order T es s :=
    commutes_of_unrelated hunrelated hT hes hrun
  exact ⟨hcommutes.progress, hcommutes.untouched, hcommutes.serial⟩

/-- The sample request, and one with another transaction and another key. -/
def twoRequests : Nat → Request
  | 0 => sampleRequest
  | _ =>
      { command := { sampleRequest.command with transactionId := py "txn_2" }
        idempotencyKey := py "key-2" }

/-- Two requests step by step in parallel, and request 1 before request 0. -/
theorem unrelated_requests_commute_parallel :
    let answer : Nat → PortOutcome := fun _ => .declined (py "05")
    let statements : List Event :=
      [.database (.step (.reserve 0) 1), .database (.step (.reserve 1) 2)]
    let updates : List Event :=
      [.database (.step (.complete 1) 3), .database (.step (.complete 0) 4)]
    let run : List Event :=
      [.arrive 0, .arrive 1] ++ statements ++ statements ++ statements ++ statements ++
        [.resume 1, .resume 0, .invoke 0, .invoke 1, .respond 1 (answer 1),
          .respond 0 (answer 0)] ++ updates ++ updates ++ updates ++ [.finish 0, .finish 1]
    ∃ s es' s', exec (Requests.step twoRequests) (init emptyTables) run = some s ∧
      InTurn [1, 0] es' ∧ exec (Requests.step twoRequests) (init emptyTables) es' = some s' ∧
      SameOutcome [0, 1] s s' := by
  intro answer statements updates run
  have hunrelated : Unrelated twoRequests [0, 1] :=
    { nodup := by decide
      stripped := by decide
      transactionIds := by decide
      keyHashes := by
        have hne : computeKeyHash (py "key-1") ≠ computeKeyHash (py "key-2") := by
          decide +kernel
        intro r hr q hq hrq k hk hk'
        rw [List.mem_pair] at hr hq
        rcases hr with rfl | rfl <;> rcases hq with rfl | rfl
        · exact hrq rfl
        · exact hne (hk.trans hk'.symm)
        · exact hne (hk'.trans hk.symm)
        · exact hrq rfl }
  have hes : Undisturbed answer [0, 1] run := by
    simp only [Undisturbed, run, statements, updates, List.cons_append, List.nil_append,
      List.forall_mem_cons]
    refine ⟨?_, ?_, ?_, ?_, ?_, ?_, ?_, ?_, ?_, ?_, ?_, ?_, ?_, ?_, ?_, ?_, ?_, ?_, ?_, ?_, ?_, ?_,
      ?_, ?_, by simp⟩
    all_goals exact ⟨by constructor, by decide⟩
  have hany : (exec (Requests.step twoRequests) (init emptyTables) run).any
      (fun s => (s.phase 0).returned.isSome && (s.phase 1).returned.isSome) = true := by
    decide +kernel
  rcases (Option.any_eq_true _ _).mp hany with ⟨s, hrun, hphases⟩
  have hall : AllFinished [0, 1] s := by
    rw [Bool.and_eq_true] at hphases
    rcases Option.isSome_iff_exists.mp hphases.1 with ⟨envelope, henvelope⟩
    rcases Option.isSome_iff_exists.mp hphases.2 with ⟨envelope', henvelope'⟩
    intro r hr
    rw [List.mem_pair] at hr
    rcases hr with rfl | rfl
    · exact ⟨_, Phase.eq_finished henvelope⟩
    · exact ⟨_, Phase.eq_finished henvelope'⟩
  rcases (unrelated_requests_commute hunrelated schemaOk_empty answer hes hrun).2.2 hall [1, 0]
    (by decide) with ⟨⟨es', s', hturns, hes', hrun', hall'⟩, hagree⟩
  exact ⟨s, es', s', hrun, hturns, hrun', hagree es' s' hturns hes' hrun' hall'⟩

/-- Admitted requests have stripped ids, so those with different ids and key hashes are unrelated. -/
theorem admitted_requests_commute {acceptsStr : PyStr → Bool}
    (hadmitted : ∀ r ∈ order, Admitted acceptsStr (requests r).command) (hnodup : order.Nodup)
    (htransactionIds : ∀ r ∈ order, ∀ q ∈ order, r ≠ q →
      (requests r).command.transactionId ≠ (requests q).command.transactionId)
    (hkeyHashes : ∀ r ∈ order, ∀ q ∈ order, r ≠ q → ∀ k,
      computeKeyHash (requests r).idempotencyKey = .ok k →
        computeKeyHash (requests q).idempotencyKey ≠ .ok k)
    {T : Tables} (hT : SchemaOk T) {es : List Event} (hes : Undisturbed answer order es)
    {s : Requests} (hrun : exec (Requests.step requests) (init T) es = some s) :
    Commutes requests answer order T es s :=
  commutes_of_unrelated
    { nodup := hnodup
      stripped := fun r hr => (hadmitted r hr).valid.transactionId_stripped
      transactionIds := htransactionIds
      keyHashes := hkeyHashes } hT hes hrun

end Requests

end System
end TransactionPlatform
