import TransactionPlatform.System.Ownership
import TransactionPlatform.System.StoreInvariant
import TransactionPlatform.System.Termination

/-!
# Runs without faults

Where no fault occurs and every request hears an outcome that can be recorded, no request loses what it
has reserved: a committed reservation is returned to its request, whose `complete` meets no error
(`SmoothInv`).
-/

namespace TransactionPlatform

open Text Domain Ports Common Application Adapters Api Infrastructure ReadCommitted Transition

namespace Infrastructure

variable {ι : Type} [DecidableEq ι]

/-- A `reserve` that has met no error so far. -/
def OnCourse (T : Tables) (a : ReserveArgs) : ReservePc → Prop
  | .requeryTransaction => (T (.transaction a.transactionId)).isSome
  | .commitResult _ => True
  | .done result => ∃ r, result = .ok r
  | pc => pc.undecided = true

theorem onCourse_of_undecided {T : Tables} {a : ReserveArgs} {pc : ReservePc}
    (h : pc.undecided = true) : OnCourse T a pc := by
  cases pc with
  | select | insertTransaction _ | insertRecord _ | commitAcquired _ | rollbackConflict | requery =>
      rfl
  | _ =>
      cases h

theorem OnCourse.move {T T' : Tables} {a : ReserveArgs} {pc pc' : ReservePc} (h : OnCourse T a pc)
    (hmove : ReserveMove a T T' pc pc') : OnCourse T' a pc' := by
  cases hmove with
  | onward _ hpc' _ =>
      exact onCourse_of_undecided hpc'
  | found | finish =>
      simp [OnCourse]
  | conflict now _ htables hid =>
      rw [htables]
      exact hid
  | confirm _ hpc =>
      rw [hpc h]
      exact True.intro
  | acquire =>
      exact ⟨_, rfl⟩
  | unexplained | rollback =>
      cases h

/-- Committed rows stay, so the look-up after a conflict finds its transaction. -/
theorem OnCourse.kept {s s' : Coordination ι} {e : CoordinatorEvent ι} (hinv : Coordination.Inv s)
    (hstep : s.step e = some s') {a : ReserveArgs} {pc : ReservePc} (h : OnCourse s.tables a pc) :
    OnCourse s'.tables a pc := by
  cases pc with
  | requeryTransaction =>
      exact Coordination.step_kept hinv hstep h
  | _ =>
      exact h

/-- With values the schema admits, no statement of a `reserve` meets an error. -/
theorem Coordination.onCourse_step {T : Tables} (hT : SchemaOk T) {s s' : Coordination ι}
    (hreach : Reachable Coordination.step (init T) s) {c : ι} {now : Timestamp}
    (hstep : s.step (.step c now) = some s') {a : ReserveArgs} (hfits : Fits a) {pc' : ReservePc}
    (hcall' : s'.call c = .reserve a pc')
    (h : ∀ pc, s.call c = .reserve a pc → OnCourse s.tables a pc) : OnCourse s'.tables a pc' := by
  have hinv := inv_of_reachable hreach
  cases transition_of_step hstep with
  | reserve c now a₀ pc pc₀ server hcall hs =>
      have hself : CallState.reserve a₀ pc₀ = .reserve a pc' := by simpa [setCall] using hcall'
      cases hself
      exact (h pc hcall).move (reserveStep_move hfits (schemaOk_of_reachable hT hreach)
        (hinv.reserve_session hcall) hs)
  | complete c now a₀ pc pc₀ server hcall hs =>
      simp [setCall] at hcall'

end Infrastructure

namespace System

/-- An outcome that `complete` can record. -/
structure Recordable (o : PortOutcome) : Prop where
  regular : o.isRegular = true
  prints : o.waitPrints = true
  trimmed : Trimmed o
  storable : storable o = true

namespace Requests

variable {requests : Nat → Request} {order : List Nat} {answer : Nat → PortOutcome}

/-! ## Along runs without faults -/

/-- No request loses what it has reserved: its `complete` meets no error, a committed reservation has
been returned to its request, and that request does not raise.  With values the schema admits no
request raises. -/
structure SmoothInv (requests : Nat → Request) (answer : Nat → PortOutcome) (s : Requests) : Prop where
  reserve : ∀ r a pc, s.calls.call (.reserve r) = .reserve a pc → Fits a → OnCourse s.tables a pc
  complete : ∀ r a pc, s.calls.call (.complete r) = .complete a pc →
    FitsTables a ∧ ∃ n, pc.remaining = some n
  outcome : CompletedFrom requests (fun r o => o = answer r) s
  logged : ∀ r a now, ⟨.reserve r, .reserve a, now⟩ ∈ s.calls.log → Acquired requests s r a
  regular : ∀ r a, Acquired requests s r a → ∀ exc, s.phase r ≠ .finished (.error exc)
  admitted : ∀ r a, (requests r).reserveArgs = .ok a → Fits a →
    ∀ exc, s.phase r ≠ .finished (.error exc)

theorem smoothInv_init (T : Tables) : SmoothInv requests answer (init T) where
  reserve := by
    intro r a pc h
    cases h
  complete := by
    intro r a pc h
    cases h
  outcome := by
    intro r a h
    cases h
  logged := by
    intro r a now h
    cases h
  regular := by
    intro r a _ exc h
    cases h
  admitted := by
    intro r a _ _ exc h
    cases h

theorem spares_of_faultFree {e : Event} (h : FaultFree answer e) (r : Nat) : Spares r e := by
  constructor
  · rintro fault rfl
    cases h
  · rintro rfl
    cases h

theorem answer_of_faultFree {r : Nat} {o : PortOutcome} (h : FaultFree answer (.respond r o)) :
    o = answer r := by
  cases h
  rfl

/-- A `complete` starts when its request hears from the port. -/
theorem started_of_idle {s s' : Requests} {e : Event} (hstep : s.step requests e = some s') {r : Nat}
    (hidle : s.calls.call (.complete r) = .idle) {a : CompleteArgs} {pc : CompletePc}
    (hcall : s'.calls.call (.complete r) = .complete a pc) :
    ∃ keyHash o, e = .respond r o ∧ s.phase r = .awaiting keyHash ∧
      completion (requests r).command keyHash o = .ok a ∧ pc = completeStart a := by
  by_cases hr : e.request = some r
  · cases transition_of_step hstep with
    | respond r₀ keyHash o a₀ calls hphase hargs hstart =>
        cases hr
        have hbegun := Coordination.begun hstart
        cases hbegun.symm.trans hcall
        exact ⟨keyHash, o, rfl, hphase, hargs, rfl⟩
    | database d calls hcalls =>
        cases hr
    | arrive r₀ a₀ calls hphase hargs hstart =>
        have hframe := (Coordination.step_frame hstart (c := .complete r)
          (by simp [CoordinatorEvent.id])).1
        cases (hframe.trans hidle).symm.trans hcall
    | crash r₀ calls hphase hcalls =>
        rcases hcalls with rfl | ⟨c, _, hkill⟩
        · cases hidle.symm.trans hcall
        · -- nothing to kill in a call that was not made
          by_cases hc : .complete r = c
          · subst hc
            simp [Coordination.step, Coordination.killCall, hidle] at hkill
          · have hframe := (Coordination.step_frame hkill (c := .complete r) hc).1
            cases (hframe.trans hidle).symm.trans hcall
    | _ =>
        cases hidle.symm.trans hcall
  · have hsame := (step_frame hstep hr).2.complete_idle hidle
    cases hsame.symm.trans hcall

/-- The reservation that a statement commits is returned to its caller. -/
theorem acquired_of_statement {s s' : Coordination CallId} {c : CallId} {now : Timestamp}
    (hstep : s.step (.step c now) = some s') {r : Nat} {a : ReserveArgs} {t : Timestamp}
    (hnew : ⟨.reserve r, .reserve a, t⟩ ∈ s'.log) (hold : ⟨.reserve r, .reserve a, t⟩ ∉ s.log) :
    s'.call (.reserve r) = .reserve a (.done (.ok (reservation .acquired))) := by
  cases Coordination.transition_of_step hstep with
  | reserve c now a₀ pc pc' server hcall hs =>
      rcases List.mem_append.mp hnew with hmem | hmem
      · exact absurd hmem hold
      · cases pc with
        | commitAcquired t₀ =>
            rw [reserveLogged, List.mem_singleton] at hmem
            cases hmem
            cases hs
            simp [Coordination.setCall]
        | _ =>
            cases hmem
  | complete c now a₀ pc pc' server hcall hs =>
      rcases List.mem_append.mp hnew with hmem | hmem
      · exact absurd hmem hold
      · cases pc with
        | commit t₀ =>
            rw [completeLogged, List.mem_singleton] at hmem
            cases hmem
        | _ =>
            cases hmem

section Smooth

variable {T : Tables} (hT : SchemaOk T) {acceptsStr : PyStr → Bool}
  (hadmitted : ∀ r, Admitted acceptsStr (requests r).command)
  (hanswer : ∀ r, Recordable (answer r)) {s s' : Requests} {e : Event}
  (hreach : Reachable (Requests.step requests) (init T) s) (hcalm : CalmInv order s)
  (hfree : FaultFree answer e) (hstep : s.step requests e = some s')
  (h : SmoothInv requests answer s)

include hT hadmitted hanswer hreach hfree hstep h in
theorem step_smooth_complete {r : Nat} {a : CompleteArgs} {pc : CompletePc}
    (hcall : s'.calls.call (.complete r) = .complete a pc) :
    FitsTables a ∧ ∃ n, pc.remaining = some n := by
  by_cases hidle : s.calls.call (.complete r) = .idle
  · rcases started_of_idle hstep hidle hcall with ⟨keyHash, o, rfl, hawaiting, hcompletion, rfl⟩
    have ho := answer_of_faultFree hfree
    subst ho
    have hsettled := (completion_ok hcompletion).2
    rcases awaiting_texts hreach hawaiting with ⟨hid, hkey⟩
    refine ⟨fitsTables_settled hsettled (hanswer r).trimmed (hanswer r).storable hid hkey, 3, ?_⟩
    rcases settlement_ok hsettled with ⟨_, _, hversion, hexpected⟩
    simp [completeStart, hversion, hexpected, CompletePc.remaining]
  · -- the call goes on with the arguments it has
    rcases (callsInv_of_reachable hreach r).complete with hidle' | ⟨a₀, ⟨_, _, _, _, hcall₀⟩⟩
    · exact absurd hidle' hidle
    · rcases CallArguments.eq_complete hcall₀ with ⟨pc₀, hpc₀⟩
      rcases h.complete r a₀ pc₀ hpc₀ with ⟨hfits, n, hn⟩
      rcases onTrack_step hT (hadmitted r) hfits hreach hstep (spares_of_faultFree hfree r) ⟨n, pc₀, hpc₀, hn⟩ with
        ⟨n', pc', hcall', hn'⟩
      cases hcall.symm.trans hcall'
      exact ⟨hfits, n', hn'⟩

include hfree hstep h in
theorem step_smooth_logged {r : Nat} {a : ReserveArgs} {now : Timestamp}
    (hreach' : Reachable (Requests.step requests) (init T) s')
    (hmem : ⟨.reserve r, .reserve a, now⟩ ∈ s'.calls.log) : Acquired requests s' r a := by
  by_cases hold : ⟨.reserve r, .reserve a, now⟩ ∈ s.calls.log
  · exact (h.logged r a now hold).step hstep
  · have hargs : (requests r).reserveArgs = .ok a := by
      rcases log_cases hreach' hmem with ⟨r', a', hid, hcall, hargs⟩ | ⟨_, _, hid, _⟩
      · cases hid
        cases hcall
        exact hargs
      · cases hid
    rcases step_causes hstep with hsame | ⟨ce, hcause, hce⟩
    · rw [hsame] at hmem
      exact absurd hmem hold
    · rcases FaultFree.causes hfree hcause with ⟨c, call, rfl⟩ | ⟨c, t, rfl⟩
      · -- a call that begins commits nothing
        generalize s'.calls = calls at hce hmem
        cases Coordination.transition_of_step hce
        exact absurd hmem hold
      · exact ⟨hargs, _, acquired_of_statement hce hmem hold, rfl⟩

include hreach hfree hstep h in
/-- A request whose `complete` runs waits for it, and it returns. -/
theorem smooth_of_completing {r : Nat} (hrunning : s.calls.call (.complete r) ≠ .idle) {exc : Exc}
    (hphase' : s'.phase r = .finished (.error exc)) : s.phase r = .finished (.error exc) := by
  by_cases hr : e.request = some r
  · have hinv := (callsInv_of_reachable hreach r).phase
    cases transition_of_step hstep with
    | completeError r₀ envelope a₀ e₀ hp hcall =>
        rcases h.complete r₀ a₀ _ hcall with ⟨_, n, hn⟩
        cases hn
    | refused r₀ e₀ hp _ =>
        cases hr
        rw [hp] at hinv
        exact absurd hinv.2 hrunning
    | answered r₀ a₀ reservation answer₀ hp _ _ | reserveError r₀ a₀ e₀ hp _ =>
        cases hr
        rw [hp] at hinv
        exact absurd hinv.1 hrunning
    | invalid r₀ keyHash e₀ hp _ | escaped r₀ keyHash o e₀ hp _ =>
        cases hr
        rw [hp] at hinv
        exact absurd hinv.1 hrunning
    | cancel r₀ _ | crash r₀ calls _ _ =>
        cases hfree
    | database d calls _ =>
        cases hr
    | arrive r₀ a₀ calls _ _ _ | acquired r₀ a₀ reservation _ _ _ | invoke r₀ keyHash t _ _
    | respond r₀ keyHash o a₀ calls _ _ _ | finish r₀ envelope a₀ _ _ =>
        cases hr
        simp at hphase'
  · rw [(step_frame hstep hr).1] at hphase'
    exact hphase'

include hfree hstep in
/-- A reservation that has just returned is the work of the database. -/
theorem request_ne_of_acquired {r : Nat} {a : ReserveArgs} (ha : Acquired requests s' r a)
    (hnew : ¬ Acquired requests s r a) : e.request ≠ some r := by
  rcases ha with ⟨hargs, reservation, hdone, hstatus⟩
  intro hr
  apply hnew
  refine ⟨hargs, reservation, ?_, hstatus⟩
  rcases step_causes hstep with hsame | ⟨ce, hcause, hce⟩
  · rwa [hsame] at hdone
  · have hframe : CallId.reserve r ≠ ce.id := by
      rintro hid
      cases hcause with
      | arrive r₀ a₀ =>
          cases hid
          have hbegun := Coordination.begun hce
          cases hbegun.symm.trans hdone
      | database d =>
          cases hr
      | respond r₀ o a₀ =>
          cases hid
      | crash r₀ c hc =>
          cases hfree
    rw [← (Coordination.step_frame hce hframe).1]
    exact hdone

include hcalm hfree hstep in
/-- A request is still waiting for its `reserve` when that returns. -/
theorem unfinished_of_acquired {r : Nat} {a : ReserveArgs} (ha : Acquired requests s' r a)
    (hnew : ¬ Acquired requests s r a) (result : Except Exc ResponseEnvelope) :
    s'.phase r ≠ .finished result := by
  intro hphase'
  rcases step_frame hstep (request_ne_of_acquired hfree hstep ha hnew) with ⟨hphase, hsame⟩
  rcases ha with ⟨hargs, reservation, hdone, hstatus⟩
  rw [hphase] at hphase'
  rcases (hcalm.quiet r (.inl ⟨_, hphase'⟩)).1 with hidle | hover
  · cases (hsame.reserve_idle hidle).symm.trans hdone
  · apply hnew
    refine ⟨hargs, reservation, ?_, hstatus⟩
    rw [← hsame.reserve_over hover]
    exact hdone

include hadmitted hanswer hreach hcalm hfree hstep h in
theorem step_smooth_regular {r : Nat} {a : ReserveArgs} (ha : Acquired requests s' r a) (exc : Exc) :
    s'.phase r ≠ .finished (.error exc) := by
  intro hphase'
  by_cases hacquired : Acquired requests s r a
  · by_cases hidle : s.calls.call (.complete r) = .idle
    · have hregular : ∀ r o, e = .respond r o → o.isRegular = true := by
        rintro r o rfl
        rw [answer_of_faultFree hfree]
        exact (hanswer r).regular
      have hprints : ∀ o, e = .respond r o → o.waitPrints = true := by
        rintro o rfl
        rw [answer_of_faultFree hfree]
        exact (hanswer r).prints
      have honward := hacquired.onward hreach hadmitted hregular hstep hprints hidle
        (by rintro rfl; cases hfree) (by rintro rfl; cases hfree)
      rw [hphase'] at honward
      generalize hphase : s.phase r = phase at honward
      cases honward
      exact h.regular r a hacquired exc hphase
    · exact h.regular r a hacquired exc (smooth_of_completing hreach hfree hstep h hidle hphase')
  · exact unfinished_of_acquired hcalm hfree hstep ha hacquired _ hphase'

include hT hreach hfree hstep h in
theorem step_smooth_reserve {r : Nat} {a : ReserveArgs} {pc : ReservePc}
    (hcall : s'.calls.call (.reserve r) = .reserve a pc) (hfits : Fits a) :
    OnCourse s'.tables a pc := by
  rcases step_causes hstep with hsame | ⟨ce, hcause, hce⟩
  · rw [tables, hsame]
    rw [hsame] at hcall
    exact h.reserve r a pc hcall hfits
  · have hcalls := calls_reachable hreach
    by_cases hid : CallId.reserve r = ce.id
    · rcases FaultFree.causes hfree hcause with ⟨c, call, rfl⟩ | ⟨c, now, rfl⟩
      · -- a call begins with its first statement
        rw [hid, CoordinatorEvent.id, Coordination.begun hce] at hcall
        cases call <;> cases hcall
        exact onCourse_of_undecided rfl
      · cases hid
        exact Coordination.onCourse_step hT hcalls hce hfits hcall
          (fun pc₀ hcall₀ => h.reserve r a pc₀ hcall₀ hfits)
    · rw [(Coordination.step_frame hce hid).1] at hcall
      exact (h.reserve r a pc hcall hfits).kept (Coordination.inv_of_reachable hcalls) hce

include hT hadmitted hanswer hreach hcalm hfree hstep h in
theorem step_smooth_admitted {r : Nat} {a : ReserveArgs} (hargs : (requests r).reserveArgs = .ok a)
    (hfits : Fits a) (exc : Exc) : s'.phase r ≠ .finished (.error exc) := by
  intro hphase'
  by_cases hr : e.request = some r
  · have hkept : ∀ a, Acquired requests s r a → False := by
      intro a ha
      exact step_smooth_regular hadmitted hanswer hreach hcalm hfree hstep h (ha.step hstep) exc hphase'
    have hinv := (callsInv_of_reachable hreach r).phase
    cases transition_of_step hstep with
    | refused r₀ e₀ hp hrefused =>
        cases hr
        cases hargs.symm.trans hrefused
    | answered r₀ a₀ reservation answer₀ hp hcall hanswered =>
        -- a stored envelope comes with its record
        cases hr
        have hanswer₀ : answer₀ = .error exc := by simpa using hphase'
        subst hanswer₀
        have hreplays : Replays s.tables a₀ reservation :=
          Coordination.reserveResult_of_reachable hT (calls_reachable hreach) hcall
        cases hstatus : reservation.status with
        | completed =>
            rcases hreplays hstatus with ⟨record, _, _, _, henvelope⟩
            simp [answerReservation, hstatus, henvelope] at hanswered
        | _ =>
            simp [answerReservation, hstatus] at hanswered
    | reserveError r₀ a₀ e₀ hp hcall =>
        cases hr
        cases hargs.symm.trans ((callsInv_of_reachable hreach r).reserveArgs_eq hcall)
        rcases h.reserve r a _ hcall hfits with ⟨_, hok⟩
        cases hok
    | invalid r₀ keyHash e₀ hp _ | escaped r₀ keyHash o e₀ hp _ =>
        cases hr
        rw [hp] at hinv
        rcases hinv.2 with ⟨a₀, ha, _⟩
        exact hkept a₀ ha
    | completeError r₀ envelope a₀ e₀ hp _ =>
        cases hr
        rw [hp] at hinv
        rcases hinv with ⟨_, ⟨reserved, _, ha, _⟩, _⟩
        exact hkept reserved ha
    | cancel r₀ _ | crash r₀ calls _ _ =>
        cases hfree
    | database d calls _ =>
        cases hr
    | _ =>
        cases hr
        simp at hphase'
  · rw [(step_frame hstep hr).1] at hphase'
    exact h.admitted r a hargs hfits exc hphase'

include hT hadmitted hanswer hreach hcalm hfree hstep h in
theorem step_smooth : SmoothInv requests answer s' where
  reserve _ _ _ hcall hfits := step_smooth_reserve hT hreach hfree hstep h hcall hfits
  admitted _ _ hargs hfits exc :=
    step_smooth_admitted hT hadmitted hanswer hreach hcalm hfree hstep h hargs hfits exc
  complete _ _ _ hcall := step_smooth_complete hT hadmitted hanswer hreach hfree hstep h hcall
  outcome := by
    refine step_completedFrom ?_ hstep h.outcome
    rintro r o rfl
    exact answer_of_faultFree hfree
  logged _ _ _ hmem := step_smooth_logged hfree hstep h (hreach.next hstep) hmem
  regular _ _ ha exc := step_smooth_regular hadmitted hanswer hreach hcalm hfree hstep h ha exc

end Smooth

/-- The owner of a reservation that has finished has completed it. -/
theorem SmoothInv.completed {T : Tables} {s : Requests} (h : SmoothInv requests answer s)
    (hreach : Reachable (Requests.step requests) (init T) s) {r : Nat} {a : ReserveArgs}
    {now : Timestamp} (hlogged : ⟨.reserve r, .reserve a, now⟩ ∈ s.calls.log)
    {result : Except Exc ResponseEnvelope} (hfinished : s.phase r = .finished result) :
    ∃ args t, ⟨.complete r, .complete args, t⟩ ∈ s.calls.log ∧ result = .ok args.envelope := by
  have hacquired := h.logged r a now hlogged
  have hphase := (callsInv_of_reachable hreach r).phase
  rw [hfinished] at hphase
  cases result with
  | error exc =>
      exact absurd hfinished (h.regular r a hacquired exc)
  | ok envelope =>
      cases hphase with
      | reservation a' reservation _ hcall hanswered =>
          -- an acquired reservation is not answered
          rcases hacquired with ⟨_, reservation', hdone, hstatus⟩
          cases hdone.symm.trans hcall
          simp [answerReservation, hstatus] at hanswered
      | completed args _ hcall henvelope =>
          rcases (Coordination.logInv_of_reachable (calls_reachable hreach)).completed _ _ hcall with
            ⟨t, hmem⟩
          exact ⟨args, t, hmem, by rw [henvelope]⟩

/-- A request that waits for the port has called it. -/
theorem awaiting_sent {T : Tables} {s : Requests}
    (hreach : Reachable (Requests.step requests) (init T) s) {r : Nat}
    (hawaiting : (s.phase r).isAwaiting = true) : ∃ request, (r, request) ∈ s.sent := by
  have hboth : Reachable (Requests.step requests) (init T) s ∧
      ∀ r, (s.phase r).isAwaiting = true → ∃ request, (r, request) ∈ s.sent := by
    refine hreach.invariant (I := fun m => Reachable (Requests.step requests) (init T) m ∧
      ∀ r, (m.phase r).isAwaiting = true → ∃ request, (r, request) ∈ m.sent) ?_
      ⟨.refl _, fun r h => by cases h⟩
    rintro m e m' ⟨hm, hsent⟩ hstep
    refine ⟨hm.next hstep, ?_⟩
    intro r hawaiting'
    have hkept : ∀ p ∈ m.sent, p ∈ m'.sent := by
      intro p hp
      rcases sent_of_step hstep with hsame | ⟨_, _, _, _, _, happend⟩
      · rwa [hsame]
      · rw [happend]
        exact List.mem_append_left _ hp
    by_cases hr : e.request = some r
    · cases transition_of_step hstep with
      | invoke r₀ keyHash t hphase hnew =>
          cases hr
          exact ⟨_, List.mem_append_right _ (List.mem_singleton_self _)⟩
      | database d calls hcalls =>
          cases hr
      | _ =>
          cases hr
          simp [Phase.isAwaiting] at hawaiting'
    · rw [(step_frame hstep hr).1] at hawaiting'
      rcases hsent r hawaiting' with ⟨request, hmem⟩
      exact ⟨request, hkept _ hmem⟩
  exact hboth.2 r hawaiting

end Requests

end System
end TransactionPlatform
