import TransactionPlatform.Infrastructure.Serializability

/-!
# Linearizability — `reserve` against one atomic step

`reserveAtomic` says what a reservation is for, without statements, locks or retries.  Every
`reserve` that meets no fault has a linearization point: one of its own steps at which the atomic
step, taken on the committed tables of that moment, gives its result and its whole effect.  The
point is

* the `SELECT` or the re-query that finds the record;
* the re-query that finds no record, when the conflict was on the transaction id;
* the `COMMIT` of both rows.
-/

namespace TransactionPlatform
namespace Infrastructure

open Text Domain Ports ReadCommitted Transition

variable {ι : Type} [DecidableEq ι]

/-! ## The atomic reservation -/

/-- The answer a completed record stands for: its stored code, body and headers, marked as a replay,
with the media type of a problem from 400 on. -/
def IdempotencyRecord.envelope (record : IdempotencyRecord) : ResponseEnvelope :=
  { statusCode := record.storedStatusCode.getD 0
    body := record.storedResponseBody.getD .null
    headers := record.storedHeaders.getD []
    isReplay := true
    mediaType :=
      some (if 400 ≤ record.storedStatusCode.getD 0 then py "application/problem+json"
        else py "application/json") }

/-- The code rebuilds that answer. -/
theorem storedEnvelope_eq {record : IdempotencyRecord} {statusCode : Int} {body : Json}
    (hcode : record.storedStatusCode = some statusCode)
    (hbody : record.storedResponseBody = some body) :
    storedEnvelope statusCode body record.storedHeaders = record.envelope := by
  simp only [IdempotencyRecord.envelope, hcode, hbody]
  rfl

/-- What a record of the same key answers. -/
def answerExisting (record : IdempotencyRecord) (requestFingerprint : PyStr) :
    IdempotencyReservation :=
  if record.requestFingerprint ≠ requestFingerprint then reservation .idempotencyConflict
  else if record.processingStatus = py "IN_PROGRESS" then reservation .inProgress
  else
    { status := .completed
      storedEnvelope := some record.envelope }

/-- A reservation in one step: its result and the tables after it. -/
def reserveAtomic (a : ReserveArgs) (now : Timestamp) (T : Tables) :
    IdempotencyReservation × Tables :=
  match T (.record a.keyHash) with
  | some record => (answerExisting record a.requestFingerprint, T)
  | none =>
      if (T (.transaction a.transactionId)).isSome then (reservation .transactionIdConflict, T)
      else
        (reservation .acquired,
          overlay (bothRows a.transactionId (createdRow a now) a.keyHash (inProgressRecord a now)) T)

/-- A record the schema admits is classified without an error. -/
theorem classifyExisting_eq {record : IdempotencyRecord} (h : record.admitted = true)
    (requestFingerprint : PyStr) :
    classifyExisting record requestFingerprint =
      .ok (answerExisting record requestFingerprint) := by
  by_cases hfp : record.requestFingerprint = requestFingerprint
  · by_cases hprogress : record.processingStatus = py "IN_PROGRESS"
    · simp [classifyExisting, answerExisting, hfp, hprogress]
    · have hpayload : record.payloadIntegrity = true := by
        simp only [IdempotencyRecord.admitted, Bool.and_eq_true] at h
        exact h.1.1.2
      simp only [IdempotencyRecord.payloadIntegrity, hprogress, decide_false, Bool.false_and,
        Bool.or_false, Bool.and_eq_true, decide_eq_true_eq] at hpayload
      rcases hpayload with ⟨⟨hcompleted, hcode⟩, hbody⟩
      rcases Option.isSome_iff_exists.mp hcode with ⟨code, hcode⟩
      rcases Option.isSome_iff_exists.mp hbody with ⟨body, hbody⟩
      have henvelope := storedEnvelope_eq hcode hbody
      simp [classifyExisting, answerExisting, hfp, hcompleted, hcode, hbody, henvelope]
  · simp [classifyExisting, answerExisting, hfp]

theorem reserveAtomic_found {a : ReserveArgs} {T : Tables} {record : IdempotencyRecord}
    (h : T (.record a.keyHash) = some record) (now : Timestamp) :
    reserveAtomic a now T = (answerExisting record a.requestFingerprint, T) := by
  simp [reserveAtomic, h]

theorem reserveAtomic_conflict {a : ReserveArgs} {T : Tables} (h : T (.record a.keyHash) = none)
    (hid : (T (.transaction a.transactionId)).isSome) (now : Timestamp) :
    reserveAtomic a now T = (reservation .transactionIdConflict, T) := by
  simp [reserveAtomic, h, hid]

theorem reserveAtomic_acquired {a : ReserveArgs} (hfits : Fits a) {T : Tables} {p : Store Row}
    {now : Timestamp} (h : Ready T p now (.reserve a)) :
    reserveAtomic a now T = (reservation .acquired, overlay p T) := by
  rcases h with ⟨row, record, hr⟩
  have hrow : row = createdRow a now :=
    Option.some.inj (hr.insert_row.symm.trans (hfits.row_fits now))
  have hrecord : record = inProgressRecord a now :=
    Option.some.inj (hr.insert_record.symm.trans (hfits.record_fits now))
  subst hrow
  subst hrecord
  have hkey : T (.record a.keyHash) = none := hr.record_new
  have hid : T (.transaction a.transactionId) = none := hr.row_new
  rw [hr.pending_eq]
  simp [reserveAtomic, hkey, hid, createdRow, inProgressRecord]

/-! ## Statements of a `reserve` without faults -/

/-- Statements before the linearization point. -/
def ReservePc.undecided : ReservePc → Bool
  | .select | .insertTransaction _ | .insertRecord _ | .commitAcquired _ => true
  | .rollbackConflict | .requery => true
  | _ => false

/-- What a statement does when no fault occurs and the schema admits all values: `T` and `T'` are
the committed tables before and after it. -/
inductive ReserveMove (a : ReserveArgs) (T T' : Tables) : ReservePc → ReservePc → Prop
  | onward {pc pc' : ReservePc} (h : pc.undecided = true) (h' : pc'.undecided = true)
      (htables : T' = T) : ReserveMove a T T' pc pc'
  | found {pc : ReservePc} (r : IdempotencyReservation) (now : Timestamp)
      (h : pc.undecided = true) (hatomic : reserveAtomic a now T = (r, T')) (htables : T' = T) :
      ReserveMove a T T' pc (.commitResult r)
  | conflict (now : Timestamp)
      (hatomic : reserveAtomic a now T = (reservation .transactionIdConflict, T'))
      (htables : T' = T) (hid : (T (.transaction a.transactionId)).isSome) :
      ReserveMove a T T' .requery .requeryTransaction
  | confirm {pc' : ReservePc} (htables : T' = T)
      (hpc : (T (.transaction a.transactionId)).isSome →
        pc' = .commitResult (reservation .transactionIdConflict)) :
      ReserveMove a T T' .requeryTransaction pc'
  | acquire (now : Timestamp) (hatomic : reserveAtomic a now T = (reservation .acquired, T')) :
      ReserveMove a T T' (.commitAcquired now) (.done (.ok (reservation .acquired)))
  | finish (r : IdempotencyReservation) (htables : T' = T) :
      ReserveMove a T T' (.commitResult r) (.done (.ok r))
  | unexplained {pc' : ReservePc} : ReserveMove a T T' .commitUnexplained pc'
  | rollback {e : Exc} {pc' : ReservePc} : ReserveMove a T T' (.rollback e) pc'

theorem Fits.keyHash_text {a : ReserveArgs} (h : Fits a) : pgText a.keyHash = true :=
  (varchar_cases (recordInsert_fields (h.record_fits 0)).1).1

theorem reserveMove_found {a : ReserveArgs} {T : Tables} (hT : SchemaOk T) {pc : ReservePc}
    (hpc : pc.undecided = true) {record : IdempotencyRecord}
    (h : T (.record a.keyHash) = some record) :
    ReserveMove a T T pc (afterClassify (classifyExisting record a.requestFingerprint)) := by
  have hadmitted : record.admitted = true := (hT.record_ok _ _ h).2
  rw [classifyExisting_eq hadmitted]
  exact .found _ 0 hpc (reserveAtomic_found h 0) rfl

theorem reserveStep_move {s s' : Server Row ι} {c : ι} {a : ReserveArgs} {now : Timestamp}
    {o : Orphan} {pc pc' : ReservePc} (hfits : Fits a) (hT : SchemaOk s.committed)
    (hinv : ReserveInv s.committed (s.pending c) a o pc)
    (hstep : reserveStep s c a now pc = some (s', pc')) :
    ReserveMove a s.committed s'.committed pc pc' := by
  cases reserveStatement_of_step hstep with
  | badKey htext =>
      exact absurd hfits.keyHash_text htext
  | found record hview =>
      rw [view_eq_committed hinv.2] at hview
      exact reserveMove_found hT rfl hview
  | badTransaction t hinsert =>
      cases hinsert.symm.trans (hfits.row_fits t)
  | badRecord t hinsert =>
      cases hinsert.symm.trans (hfits.record_fits t)
  | acquired t =>
      exact .acquire t (reserveAtomic_acquired hfits hinv.2)
  | foundAgain record hview =>
      rw [view_eq_committed hinv.2.1] at hview
      exact reserveMove_found hT rfl hview
  | absentAgain hview =>
      rcases hinv with ⟨_, hp, hconflict⟩
      rw [view_eq_committed hp] at hview
      -- the conflict was not on the key, so it was on the transaction id
      have hid : (s.committed (.transaction a.transactionId)).isSome := by
        rcases hconflict hfits with hkey | hid
        · simp [hview] at hkey
        · exact hid
      exact .conflict 0 (reserveAtomic_conflict hview hid 0) rfl hid
  | conflict row _ =>
      exact .confirm rfl (fun _ => rfl)
  | noConflict hview =>
      rw [view_eq_committed hinv.2.1] at hview
      exact .confirm rfl (by simp [hview])
  | returned r =>
      exact .finish r (Coordination.reserveStep_quiet hinv (by simp) hstep)
  | unexplained =>
      exact .unexplained
  | raised e =>
      exact .rollback
  | _ =>
      -- inserts, and the rollback before the second look-up, decide nothing yet
      exact .onward rfl rfl rfl

/-! ## Linearization points -/

namespace Coordination

/-- No step of `c` in the run changes the tables. -/
def QuietRun (c : ι) (s : Coordination ι) (es : List (CoordinatorEvent ι)) : Prop :=
  ∀ m e m', (m, e, m') ∈ transitions Coordination.step s es → e.id = c → m'.tables = m.tables

/-- The run has a step of `c` at which the atomic reservation gives the result `r`, and no other
step of `c` changes the tables. -/
def Linearized (c : ι) (a : ReserveArgs) (s₀ : Coordination ι) (es : List (CoordinatorEvent ι))
    (s : Coordination ι) (r : IdempotencyReservation) : Prop :=
  ∃ earlier later now m m' time, es = earlier ++ .step c now :: later ∧
    exec Coordination.step s₀ earlier = some m ∧ m.step (.step c now) = some m' ∧
    exec Coordination.step m' later = some s ∧
    reserveAtomic a time m.tables = (r, m'.tables) ∧
    QuietRun c s₀ earlier ∧ QuietRun c m' later

theorem QuietRun.snoc {c : ι} {s₀ s s' : Coordination ι} {es : List (CoordinatorEvent ι)}
    {e : CoordinatorEvent ι} (h : QuietRun c s₀ es) (hrun : exec Coordination.step s₀ es = some s)
    (hstep : s.step e = some s') (hquiet : e.id = c → s'.tables = s.tables) :
    QuietRun c s₀ (es ++ [e]) := by
  intro m e' m' hmem hid
  rw [transitions_append hrun, transitions_singleton hstep, List.mem_append,
    List.mem_singleton] at hmem
  rcases hmem with hold | hnew
  · exact h m e' m' hold hid
  · cases hnew
    exact hquiet hid

theorem Linearized.snoc {c : ι} {a : ReserveArgs} {s₀ s s' : Coordination ι}
    {es : List (CoordinatorEvent ι)} {e : CoordinatorEvent ι} {r : IdempotencyReservation}
    (h : Linearized c a s₀ es s r) (hstep : s.step e = some s')
    (hquiet : e.id = c → s'.tables = s.tables) : Linearized c a s₀ (es ++ [e]) s' r := by
  rcases h with ⟨earlier, later, now, m, m', time, rfl, hm, hm', hlater, hatomic, hq, hq'⟩
  refine ⟨earlier, later ++ [e], now, m, m', time, by simp, hm, hm', ?_, hatomic, hq, ?_⟩
  · exact exec_append_eq_some.mpr ⟨s, hlater, exec_singleton.mpr hstep⟩
  · exact hq'.snoc hlater hstep hquiet

/-- The last step is the linearization point. -/
theorem Linearized.here {c : ι} {a : ReserveArgs} {s₀ s s' : Coordination ι}
    {es : List (CoordinatorEvent ι)} {now time : Timestamp} {r : IdempotencyReservation}
    (h : QuietRun c s₀ es) (hrun : exec Coordination.step s₀ es = some s)
    (hstep : s.step (.step c now) = some s')
    (hatomic : reserveAtomic a time s.tables = (r, s'.tables)) :
    Linearized c a s₀ (es ++ [.step c now]) s' r := by
  refine ⟨es, [], now, s, s', time, rfl, hrun, hstep, rfl, hatomic, h, ?_⟩
  intro m e m' hmem
  simp [transitions] at hmem

/-- Where the `reserve` of `c` stands with its linearization point after the run `es`. -/
def LinearInv (c : ι) (a : ReserveArgs) (s₀ : Coordination ι) (es : List (CoordinatorEvent ι))
    (s : Coordination ι) : ReservePc → Prop
  | .requeryTransaction =>
      Linearized c a s₀ es s (reservation .transactionIdConflict) ∧
        (s.tables (.transaction a.transactionId)).isSome
  | .commitResult r => Linearized c a s₀ es s r
  | .done r => ∃ result, r = .ok result ∧ Linearized c a s₀ es s result
  | pc => pc.undecided = true ∧ QuietRun c s₀ es

theorem LinearInv.of_undecided {c : ι} {a : ReserveArgs} {s₀ s : Coordination ι}
    {es : List (CoordinatorEvent ι)} {pc : ReservePc} (hpc : pc.undecided = true)
    (hquiet : QuietRun c s₀ es) : LinearInv c a s₀ es s pc := by
  cases pc <;> first | exact ⟨rfl, hquiet⟩ | cases hpc

theorem LinearInv.quiet {c : ι} {a : ReserveArgs} {s₀ s : Coordination ι}
    {es : List (CoordinatorEvent ι)} {pc : ReservePc} (h : LinearInv c a s₀ es s pc)
    (hpc : pc.undecided = true) : QuietRun c s₀ es := by
  cases pc <;> first | exact h.2 | cases hpc

/-- Committed rows stay. -/
theorem step_kept {s s' : Coordination ι} {e : CoordinatorEvent ι} (h : Inv s)
    (hstep : s.step e = some s') {k : Pk} (hk : (s.tables k).isSome) : (s'.tables k).isSome := by
  cases step_effect h hstep with
  | quiet htables _ =>
      rwa [htables]
  | commits c call now _ _ _ happlies =>
      rcases happlies with ⟨p, _, htables⟩
      rw [htables]
      simp only [overlay]
      cases p k with
      | none =>
          simpa using hk
      | some row =>
          simp

theorem LinearInv.other {c : ι} {a : ReserveArgs} {s₀ s s' : Coordination ι}
    {es : List (CoordinatorEvent ι)} {e : CoordinatorEvent ι} {pc : ReservePc} (hinv : Inv s)
    (hrun : exec Coordination.step s₀ es = some s) (hstep : s.step e = some s') (hc : e.id ≠ c)
    (h : LinearInv c a s₀ es s pc) : LinearInv c a s₀ (es ++ [e]) s' pc := by
  have hquiet : e.id = c → s'.tables = s.tables := fun heq => absurd heq hc
  cases pc with
  | requeryTransaction =>
      exact ⟨h.1.snoc hstep hquiet, step_kept hinv hstep h.2⟩
  | commitResult r =>
      exact Linearized.snoc h hstep hquiet
  | done r =>
      rcases h with ⟨result, hr, hlin⟩
      exact ⟨result, hr, hlin.snoc hstep hquiet⟩
  | _ =>
      exact ⟨h.1, h.2.snoc hrun hstep hquiet⟩

theorem LinearInv.own {c : ι} {a : ReserveArgs} {s₀ s s' : Coordination ι}
    {es : List (CoordinatorEvent ι)} {now : Timestamp} {pc pc' : ReservePc}
    (hrun : exec Coordination.step s₀ es = some s) (hstep : s.step (.step c now) = some s')
    (h : LinearInv c a s₀ es s pc) (hmove : ReserveMove a s.tables s'.tables pc pc') :
    LinearInv c a s₀ (es ++ [.step c now]) s' pc' := by
  cases hmove with
  -- the call goes on undecided and has changed nothing
  | onward hpc hpc' htables =>
      exact .of_undecided hpc' ((h.quiet hpc).snoc hrun hstep (fun _ => htables))
  | found r time hpc hatomic _ =>
      exact Linearized.here (h.quiet hpc) hrun hstep hatomic
  | conflict time hatomic htables hid =>
      refine ⟨Linearized.here (h.quiet rfl) hrun hstep hatomic, ?_⟩
      rw [htables]
      exact hid
  -- the decision was made before; the statement only confirms it
  | confirm htables hpc =>
      rw [hpc h.2]
      exact h.1.snoc hstep (fun _ => htables)
  | acquire time hatomic =>
      exact ⟨_, rfl, Linearized.here (h.quiet rfl) hrun hstep hatomic⟩
  | finish r htables =>
      exact ⟨r, rfl, Linearized.snoc h hstep (fun _ => htables)⟩
  -- an undecided call rolls back for a conflict only
  | unexplained =>
      exact absurd h.1 (by simp [ReservePc.undecided])
  | rollback =>
      exact absurd h.1 (by simp [ReservePc.undecided])

/-- Along a run after its start, a `reserve` that meets no fault keeps to its linearization
invariant. -/
theorem linear_run {T : Tables} (hT : SchemaOk T) {before : List (CoordinatorEvent ι)} {c : ι}
    {a : ReserveArgs} (hfits : Fits a) {s₁ : Coordination ι}
    (hbefore : exec Coordination.step (init T) before = some s₁)
    (mid : List (CoordinatorEvent ι)) (hfail : ∀ fault, .fail c fault ∉ mid)
    (hkill : .kill c ∉ mid) {s₂ : Coordination ι}
    (hrun : exec Coordination.step s₁ (.start c (.reserve a) :: mid) = some s₂) :
    ∃ pc, s₂.call c = .reserve a pc ∧ s₂.orphan c = .none ∧
      LinearInv c a s₁ (.start c (.reserve a) :: mid) s₂ pc := by
  -- the induction takes the last event: it belongs to the call or to another one
  induction mid using List.reverseRecOn generalizing s₂ with
  | nil =>
      have hstart : s₁.step (.start c (.reserve a)) = some s₂ := exec_singleton.mp hrun
      have hinv₁ : Inv s₁ := inv_of_reachable ⟨before, hbefore⟩
      cases transition_of_step hstart with
      | start c' call hcall =>
          have hidle := hinv₁.session c
          rw [hcall] at hidle
          refine ⟨.select, by simp [setCall, CoordinatorCall.begin], hidle.1, rfl, ?_⟩
          intro m e m' hmem _
          rw [transitions_singleton hstart, List.mem_singleton] at hmem
          cases hmem
          rfl
  | append_singleton es e ih =>
      rw [← List.cons_append] at hrun
      rcases exec_append_eq_some.mp hrun with ⟨s, hes, hlast⟩
      have hstep : s.step e = some s₂ := exec_singleton.mp hlast
      rcases ih (fun fault hmem => hfail fault (by simp [hmem])) (fun hmem => hkill (by simp [hmem]))
        hes with ⟨pc, hcall, horphan, hlinear⟩
      have hreach : Reachable Coordination.step (init T) s :=
        ⟨before ++ .start c (.reserve a) :: es, exec_append_eq_some.mpr ⟨s₁, hbefore, hes⟩⟩
      have hinv : Inv s := inv_of_reachable hreach
      by_cases hc : e.id = c
      · subst hc
        rcases reserve_own_step hstep hcall horphan (fun fault heq => hfail fault (by simp [← heq]))
          (fun heq => hkill (by simp [← heq])) with ⟨now, pc', he, hs, hcall', horphan'⟩
        have hown := hinv.reserve_session hcall
        have hmove := reserveStep_move hfits (schemaOk_of_reachable hT hreach) hown hs
        refine ⟨pc', hcall', horphan', ?_⟩
        rw [he] at hstep ⊢
        exact LinearInv.own hes hstep hlinear hmove
      · rcases step_frame hstep (fun heq => hc heq.symm) with ⟨hsame, hsameOrphan⟩
        exact ⟨pc, hsame.trans hcall, hsameOrphan.trans horphan,
          LinearInv.other hinv hes hstep hc hlinear⟩

/-- `reserve` is linearizable.  Whatever the other `reserve` and `complete` calls do, faults of
theirs included, a `reserve` that meets no fault and whose values the schema admits returns
normally, with the result of one atomic reservation taken at one of its own steps; that step has
exactly the effect of the atomic reservation, and no other step of the call changes the tables. -/
theorem reserve_linearizable {T : Tables} (hT : SchemaOk T) {before mid : List (CoordinatorEvent ι)}
    {c : ι} {a : ReserveArgs} (hfits : Fits a) {s₁ s₂ : Coordination ι}
    (hbefore : exec Coordination.step (init T) before = some s₁)
    (hrun : exec Coordination.step s₁ (.start c (.reserve a) :: mid) = some s₂)
    (hfail : ∀ fault, .fail c fault ∉ mid) (hkill : .kill c ∉ mid)
    {r : Except Exc IdempotencyReservation} (hdone : s₂.call c = .reserve a (.done r)) :
    ∃ result, r = .ok result ∧
      ∃ earlier later now m m' time, mid = earlier ++ .step c now :: later ∧
        exec Coordination.step s₁ (.start c (.reserve a) :: earlier) = some m ∧
        m.step (.step c now) = some m' ∧ exec Coordination.step m' later = some s₂ ∧
        reserveAtomic a time m.tables = (result, m'.tables) ∧
        QuietRun c s₁ (.start c (.reserve a) :: earlier) ∧ QuietRun c m' later := by
  rcases linear_run hT hfits hbefore mid hfail hkill hrun with ⟨pc, hcall, _, hlinear⟩
  rw [hdone] at hcall
  cases hcall
  rcases hlinear with ⟨result, hr, earlier, later, now, m, m', time, hsplit, hm, hm', hlater,
    hatomic, hq, hq'⟩
  refine ⟨result, hr, ?_⟩
  cases earlier with
  | nil =>
      cases hsplit
  | cons e earlier =>
      rcases List.cons.inj hsplit with ⟨rfl, hmid⟩
      exact ⟨earlier, later, now, m, m', time, hmid, hm, hm', hlater, hatomic, hq, hq'⟩

/-- Two keys reserve one transaction id: the second waits for the first and is refused. -/
theorem reserve_linearizable_same_id :
    let first : ReserveArgs :=
      { keyHash := List.replicate 64 0x61
        requestFingerprint := List.replicate 64 0x62
        transactionId := py "txn_1"
        merchantId := py "m_1"
        amount := 100
        currency := py "USD" }
    let second : ReserveArgs := { first with keyHash := List.replicate 64 0x63 }
    let before : List (CoordinatorEvent Nat) := [.start 0 (.reserve first), .step 0 1, .step 0 1]
    let mid : List (CoordinatorEvent Nat) :=
      [.step 1 2, .step 0 2, .step 0 2, .step 1 3, .step 1 3, .step 1 3, .step 1 3, .step 1 3]
    ∃ s₁ s₂ result, exec Coordination.step (init emptyTables) before = some s₁ ∧
      exec Coordination.step s₁ (.start 1 (.reserve second) :: mid) = some s₂ ∧
      s₂.call 1 = .reserve second (.done (.ok result)) ∧
      result.status = .transactionIdConflict ∧
      ∃ m m' : Coordination Nat, ∃ time,
        reserveAtomic second time m.tables = (result, m'.tables) := by
  intro first second before mid
  -- the second call waits for the insert of the first, then meets its id
  have hends : (exec Coordination.step (init emptyTables)
      (before ++ .start 1 (.reserve second) :: mid)).any (fun s =>
        match s.call 1 with
        | .reserve a (.done (.ok r)) => a = second && r.status = .transactionIdConflict
        | _ => false) = true := by
    decide +kernel
  rcases (Option.any_eq_true _ _).mp hends with ⟨s₂, hrun, hcall⟩
  rcases exec_append_eq_some.mp hrun with ⟨s₁, hbefore, hmid⟩
  have hfits : Fits second := by
    refine fits_of ?_ ?_ ?_ ?_ ?_ ?_ ?_ ?_ <;> decide +kernel
  split at hcall
  · rename_i a r hdone
    simp only [Bool.and_eq_true, decide_eq_true_eq] at hcall
    rcases hcall with ⟨rfl, hstatus⟩
    rcases reserve_linearizable schemaOk_empty hfits hbefore hmid (by simp [mid]) (by simp [mid])
      hdone with ⟨result, hr, _, _, _, m, m', time, _, _, _, _, hatomic, _, _⟩
    cases hr
    exact ⟨s₁, s₂, r, hbefore, hmid, hdone, hstatus, m, m', time, hatomic⟩
  · cases hcall

end Coordination

end Infrastructure
end TransactionPlatform
