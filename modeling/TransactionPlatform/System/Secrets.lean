import TransactionPlatform.Api.Errors
import TransactionPlatform.System.Alike
import TransactionPlatform.System.Replay
import TransactionPlatform.System.Reservable

/-!
# Secrets — correlation ids, payment tokens and idempotency keys stay out of sight

Two families of requests that differ only in their secrets, with the same equalities between their
keys and between their payloads up to surrogate pairs, cannot be told apart: along one schedule, with one series of faults
and answers of the payment network, every request gets the same response, and the databases agree
except for the two digest columns.  SHA-256 enters by its freedom from collisions on the hashed
texts only.
-/

namespace TransactionPlatform
namespace System

open Text Domain Ports Common Application Api Infrastructure ReadCommitted Transition

/-! ## The two families -/

/-- A request as `create_transaction` hands it on: body and key have been validated. -/
structure Validated (acceptsStr : PyStr → Bool) (request : Request) : Prop where
  body : Admitted acceptsStr request.command
  key : ∃ header, requireIdempotencyKey header = some request.idempotencyKey

/-- The requests differ in correlation ids, tokens and keys only, and the other tokens and keys make
the same requests have equal keys and the same requests have equal payloads, up to surrogate
pairs. -/
structure SameButSecrets (requests requests' : Nat → Request) : Prop where
  transactionId : ∀ r, (requests' r).command.transactionId = (requests r).command.transactionId
  merchantId : ∀ r, (requests' r).command.merchantId = (requests r).command.merchantId
  amount : ∀ r, (requests' r).command.amount = (requests r).command.amount
  currency : ∀ r, (requests' r).command.currency = (requests r).command.currency
  keys : ∀ r q, (requests' r).idempotencyKey = (requests' q).idempotencyKey ↔
    (requests r).idempotencyKey = (requests q).idempotencyKey
  payloads : ∀ r q, (requests' r).payload.joined = (requests' q).payload.joined ↔
    (requests r).payload.joined = (requests q).payload.joined

/-- SHA-256 does not collide on the texts the requests are hashed from. -/
structure CollisionFree (requests : Nat → Request) : Prop where
  keys : ∀ r q, sha256Text (requests r).idempotencyKey = sha256Text (requests q).idempotencyKey →
    (requests r).idempotencyKey = (requests q).idempotencyKey
  payloads : ∀ r q,
    sha256Text (canonicalText (requests r).payload) =
        sha256Text (canonicalText (requests q).payload) →
      canonicalText (requests r).payload = canonicalText (requests q).payload

/-! ## The two databases -/

/-- Every column but the digests is the same. -/
structure SameColumns (P : DigestPairs) (record record' : IdempotencyRecord) : Prop where
  idempotencyKeyHash : P.keyHash record.idempotencyKeyHash record'.idempotencyKeyHash
  requestFingerprint : P.fingerprint record.requestFingerprint record'.requestFingerprint
  processingStatus : record'.processingStatus = record.processingStatus
  transactionId : record'.transactionId = record.transactionId
  storedStatusCode : record'.storedStatusCode = record.storedStatusCode
  storedResponseBody : record'.storedResponseBody = record.storedResponseBody
  storedHeaders : record'.storedHeaders = record.storedHeaders
  createdAt : record'.createdAt = record.createdAt
  updatedAt : record'.updatedAt = record.updatedAt

/-- Two databases with the same rows up to the digests: the pairs match the records up one to
one. -/
structure SameButDigests (P : DigestPairs) (T T' : Tables) : Prop where
  transactions : ∀ id, T' (.transaction id) = T (.transaction id)
  records : ∀ k k', P.keyHash k k' →
    Option.Rel (SameColumns P) (T (.record k)) (T' (.record k'))
  left : ∀ k, (T (.record k)).isSome → ∃ k', P.keyHash k k'
  right : ∀ k', (T' (.record k')).isSome → ∃ k, P.keyHash k k'

/-- A request has a digest that is stored already exactly when its counterpart has the paired
one. -/
structure Compatible (P : DigestPairs) (requests requests' : Nat → Request) : Prop where
  keys : ∀ r k k', P.keyHash k k' →
    (computeKeyHash (requests r).idempotencyKey = .ok k ↔
      computeKeyHash (requests' r).idempotencyKey = .ok k')
  fingerprints : ∀ r f f', P.fingerprint f f' →
    (computeRequestFingerprint (requests r).payload = .ok f ↔
      computeRequestFingerprint (requests' r).payload = .ok f')

/-- The digests of the requests are paired on top of those of `P`. -/
structure Extends (P P' : DigestPairs) (requests requests' : Nat → Request) : Prop where
  keys : ∀ k k', P'.keyHash k k' ↔ P.keyHash k k' ∨
    ∃ r, computeKeyHash (requests r).idempotencyKey = .ok k ∧
      computeKeyHash (requests' r).idempotencyKey = .ok k'
  fingerprints : ∀ f f', P'.fingerprint f f' ↔ P.fingerprint f f' ∨
    ∃ r, computeRequestFingerprint (requests r).payload = .ok f ∧
      computeRequestFingerprint (requests' r).payload = .ok f'

/-! ## Pairing the digests -/

/-- A relation that is one to one stays so with pairs that respect it. -/
theorem biUnique_or {α : Type} {rel new : α → α → Prop} (h : Relator.BiUnique rel)
    (hnew : Relator.BiUnique new)
    (hcompatible : ∀ x x' y y', rel x x' → new y y' → (y = x ↔ y' = x')) :
    Relator.BiUnique fun x x' => rel x x' ∨ new x x' := by
  constructor
  · rintro x z y (hx | hx) (hy | hy)
    · exact h.1 hx hy
    · exact ((hcompatible _ _ _ _ hx hy).mpr rfl).symm
    · exact (hcompatible _ _ _ _ hy hx).mpr rfl
    · exact hnew.1 hx hy
  · rintro x y z (hy | hy) (hz | hz)
    · exact h.2 hy hz
    · exact ((hcompatible _ _ _ _ hy hz).mp rfl).symm
    · exact (hcompatible _ _ _ _ hz hy).mp rfl
    · exact hnew.2 hy hz

section Pairing

variable {acceptsStr : PyStr → Bool} {requests requests' : Nat → Request}

/-- Requests have the same key hash exactly when they have the same key. -/
theorem CollisionFree.key_iff (h : CollisionFree requests) {r q : Nat} {k : PyStr}
    (hr : computeKeyHash (requests r).idempotencyKey = .ok k) :
    computeKeyHash (requests q).idempotencyKey = .ok k ↔
      (requests r).idempotencyKey = (requests q).idempotencyKey := by
  constructor
  · intro hq
    exact h.keys r q (hr.trans hq.symm)
  · intro heq
    rw [← heq]
    exact hr

/-- Requests have the same fingerprint exactly when they have the same payload up to surrogate
pairs. -/
theorem CollisionFree.payload_iff (h : CollisionFree requests) {r q : Nat} {f : PyStr}
    (hr : computeRequestFingerprint (requests r).payload = .ok f) :
    computeRequestFingerprint (requests q).payload = .ok f ↔
      (requests r).payload.joined = (requests q).payload.joined := by
  constructor
  · intro hq
    refine joined_eq_of_fingerprint hr hq ?_
    intro text text' htext htext' hsha
    rw [canonicalJson_eq_some htext, canonicalJson_eq_some htext'] at hsha ⊢
    exact h.payloads r q hsha
  · intro heq
    rw [← computeRequestFingerprint_congr heq]
    exact hr

variable (hvalidated : ∀ r, Validated acceptsStr (requests r))
  (hvalidated' : ∀ r, Validated acceptsStr (requests' r)) (hsame : SameButSecrets requests requests')
  (hsha : CollisionFree requests) (hsha' : CollisionFree requests')

include hsame hsha hsha' in
theorem keyPairs_unique :
    Relator.BiUnique fun k k' => ∃ r, computeKeyHash (requests r).idempotencyKey = .ok k ∧
      computeKeyHash (requests' r).idempotencyKey = .ok k' := by
  constructor
  · rintro k₁ k' k₂ ⟨r, hr, hr'⟩ ⟨q, hq, hq'⟩
    have hkeys := (hsame.keys r q).mp ((hsha'.key_iff hr').mp hq')
    exact Except.ok.inj (((hsha.key_iff hr).mpr hkeys).symm.trans hq)
  · rintro k k₁ k₂ ⟨r, hr, hr'⟩ ⟨q, hq, hq'⟩
    have hkeys := (hsame.keys r q).mpr ((hsha.key_iff hr).mp hq)
    exact Except.ok.inj (((hsha'.key_iff hr').mpr hkeys).symm.trans hq')

include hsame hsha hsha' in
theorem fingerprintPairs_unique :
    Relator.BiUnique fun f f' => ∃ r, computeRequestFingerprint (requests r).payload = .ok f ∧
      computeRequestFingerprint (requests' r).payload = .ok f' := by
  constructor
  · rintro f₁ f' f₂ ⟨r, hr, hr'⟩ ⟨q, hq, hq'⟩
    have hpayloads := (hsame.payloads r q).mp ((hsha'.payload_iff hr').mp hq')
    exact Except.ok.inj (((hsha.payload_iff hr).mpr hpayloads).symm.trans hq)
  · rintro f f₁ f₂ ⟨r, hr, hr'⟩ ⟨q, hq, hq'⟩
    have hpayloads := (hsame.payloads r q).mpr ((hsha.payload_iff hr).mp hq)
    exact Except.ok.inj (((hsha'.payload_iff hr').mpr hpayloads).symm.trans hq')

include hsame hsha hsha' in
/-- All digests in play are paired one to one. -/
theorem exists_extends {P : DigestPairs} (hcompatible : Compatible P requests requests') :
    ∃ P', Extends P P' requests requests' := by
  refine ⟨
    { keyHash := fun k k' => P.keyHash k k' ∨
        ∃ r, computeKeyHash (requests r).idempotencyKey = .ok k ∧
          computeKeyHash (requests' r).idempotencyKey = .ok k'
      fingerprint := fun f f' => P.fingerprint f f' ∨
        ∃ r, computeRequestFingerprint (requests r).payload = .ok f ∧
          computeRequestFingerprint (requests' r).payload = .ok f'
      keyHash_unique := biUnique_or P.keyHash_unique (keyPairs_unique hsame hsha hsha') ?_
      fingerprint_unique := biUnique_or P.fingerprint_unique
        (fingerprintPairs_unique hsame hsha hsha') ?_
      keyHash_digest := ?_
      fingerprint_digest := ?_ }, fun _ _ => Iff.rfl, fun _ _ => Iff.rfl⟩
  · -- an old key hash and a new one are paired on both sides or on neither
    rintro x x' y y' hx ⟨r, hr, hr'⟩
    have hiff := hcompatible.keys r x x' hx
    rw [hr, hr'] at hiff
    simpa using hiff
  · rintro x x' y y' hx ⟨r, hr, hr'⟩
    have hiff := hcompatible.fingerprints r x x' hx
    rw [hr, hr'] at hiff
    simpa using hiff
  · rintro k k' (h | ⟨r, hr, hr'⟩)
    · -- both digests were stored, or both were just computed
      exact P.keyHash_digest k k' h
    · exact ⟨isDigest_sha256Text hr, isDigest_sha256Text hr'⟩
  · rintro f f' (h | ⟨r, hr, hr'⟩)
    · exact P.fingerprint_digest f f' h
    · exact ⟨isDigest_fingerprint hr, isDigest_fingerprint hr'⟩

/-! ## Requests and databases are alike -/

/-- The renaming of a pairing of digests: the clocks are the same, and all rows are in view. -/
def digestRenaming (P : DigestPairs) : Renaming :=
  { P with
    time := Eq
    ids := fun _ => True }

theorem sameColumns_iff {P : DigestPairs} {record record' : IdempotencyRecord} :
    SameColumns P record record' ↔ (digestRenaming P).LikeRecords record record' := by
  constructor
  · intro h
    -- the columns that are not digests are the same on both sides
    have hrecord : record' = { record with
        idempotencyKeyHash := record'.idempotencyKeyHash
        requestFingerprint := record'.requestFingerprint
        createdAt := record.createdAt
        updatedAt := record.updatedAt } := by
      rcases record' with ⟨_, _, _, _, _, _, _, _, _⟩
      have hprocessing := h.processingStatus
      have hid := h.transactionId
      have hcode := h.storedStatusCode
      have hbody := h.storedResponseBody
      have hheaders := h.storedHeaders
      have hcreated := h.createdAt
      have hupdated := h.updatedAt
      dsimp only at hprocessing hid hcode hbody hheaders hcreated hupdated
      subst hprocessing hid hcode hbody hheaders hcreated hupdated
      rfl
    rw [hrecord]
    exact .intro _ _ _ _ h.idempotencyKeyHash h.requestFingerprint rfl rfl
  · intro h
    cases h with
    | intro keyHash requestFingerprint createdAt updatedAt hkey hprint hcreated hupdated =>
        exact ⟨hkey, hprint, rfl, rfl, rfl, rfl, rfl, hcreated.symm, hupdated.symm⟩

theorem likeTransactions_iff {P : DigestPairs} {row row' : TransactionRow} :
    (digestRenaming P).LikeTransactions row row' ↔ row' = row := by
  constructor
  · rintro ⟨createdAt, updatedAt, rfl, rfl⟩
    rfl
  · rintro rfl
    exact .intro _ _ rfl rfl

/-- Stores that correspond hold the same transactions, and paired records with the same columns. -/
theorem stores_iff {P : DigestPairs} {C : CallId → Prop} {T T' : Tables} :
    ((digestRenaming P).likeness C).Stores T T' ↔
      (∀ id, T' (.transaction id) = T (.transaction id)) ∧
        ∀ k k', P.keyHash k k' → Option.Rel (SameColumns P) (T (.record k)) (T' (.record k')) := by
  constructor
  · intro h
    constructor
    · -- transactions are in view under their own id only
      intro id
      have hrel := h (.transaction id) (.transaction id) ⟨rfl, trivial⟩
      rcases rel_cases hrel with ⟨hnone, hnone'⟩ | ⟨row, row', hrow, hrow', hlike⟩
      · rw [hnone, hnone']
      · rw [hrow, hrow', likeTransactions_iff.mp hlike]
    · intro k k' hk
      have hrel := h (.record k) (.record k') hk
      rcases rel_cases hrel with ⟨hnone, hnone'⟩ | ⟨record, record', hrecord, hrecord', hlike⟩
      · rw [hnone, hnone']
        exact .none
      · rw [hrecord, hrecord']
        exact .some (sameColumns_iff.mpr hlike)
  · rintro ⟨htransactions, hrecords⟩ k k' hk
    -- the keys correspond, so both are of one table
    cases k with
    | transaction id =>
        cases k' with
        | transaction id' =>
            rcases hk with ⟨rfl, _⟩
            rw [htransactions id]
            cases T (.transaction id) with
            | none =>
                exact .none
            | some row =>
                exact .some (likeTransactions_iff.mpr rfl)
        | record k' =>
            cases hk
    | record k =>
        cases k' with
        | transaction id' =>
            cases hk
        | record k' =>
            rcases rel_cases (hrecords k k' hk) with
              ⟨hnone, hnone'⟩ | ⟨record, record', hrecord, hrecord', hlike⟩
            · rw [hnone, hnone']
              exact .none
            · rw [hrecord, hrecord']
              exact .some (sameColumns_iff.mp hlike)

section Start

variable {P P' : DigestPairs} (hextends : Extends P P' requests requests')

include hextends hvalidated hvalidated' hsame in
theorem likeRequests (r : Nat) : LikeRequests (digestRenaming P') (requests r) (requests' r) where
  transactionId := hsame.transactionId r
  in_view := trivial
  reserveArgs := by
    rcases (hvalidated r).key with ⟨header, hheader⟩
    rcases (hvalidated' r).key with ⟨header', hheader'⟩
    rcases computeKeyHash_defined hheader with ⟨k, hk⟩
    rcases computeKeyHash_defined hheader' with ⟨k', hk'⟩
    have hpaired : P'.keyHash k k' := (hextends.keys k k').mpr (.inr ⟨r, hk, hk'⟩)
    have hdefined : (canonicalJson (requests' r).payload).isSome =
        (canonicalJson (requests r).payload).isSome := by
      simp only [canonicalJson_eq, Request.payload, hsame.amount r]
      split <;> rfl
    cases hcanonical : canonicalJson (requests r).payload with
    | none =>
        -- both payloads have the amount that cannot be printed
        rw [hcanonical] at hdefined
        have hcanonical' : canonicalJson (requests' r).payload = none := by
          simpa using hdefined
        have hargs : (requests r).reserveArgs = .error (.foreign (py "ValueError")) := by
          simp [Request.reserveArgs, hk, computeRequestFingerprint, hcanonical]
        have hargs' : (requests' r).reserveArgs = .error (.foreign (py "ValueError")) := by
          simp [Request.reserveArgs, hk', computeRequestFingerprint, hcanonical']
        rw [hargs, hargs']
        exact .errorSame _
    | some text =>
        rw [hcanonical] at hdefined
        rcases computeRequestFingerprint_defined (p := (requests r).payload)
          (by rw [hcanonical]; rfl) with ⟨f, hf⟩
        rcases computeRequestFingerprint_defined (p := (requests' r).payload) hdefined
          with ⟨f', hf'⟩
        have hprint : P'.fingerprint f f' := (hextends.fingerprints f f').mpr (.inr ⟨r, hf, hf'⟩)
        unfold Request.reserveArgs
        simp only [hk, hk', hf, hf', hsame.transactionId r, hsame.merchantId r, hsame.amount r,
          hsame.currency r]
        exact .ok (.intro k' f' hpaired hprint trivial fun _ _ => trivial)

include hextends in
/-- The starting databases stay the same up to the digests when those of the requests are added. -/
theorem SameButDigests.extend (hcompatible : Compatible P requests requests') {T T' : Tables}
    (h : SameButDigests P T T') : SameButDigests P' T T' where
  transactions := h.transactions
  records := by
    intro k k' hk
    have hcolumns : ∀ record record', SameColumns P record record' →
        SameColumns P' record record' := fun record record' hrecord =>
      { hrecord with
        idempotencyKeyHash := (hextends.keys _ _).mpr (.inl hrecord.idempotencyKeyHash)
        requestFingerprint := (hextends.fingerprints _ _).mpr (.inl hrecord.requestFingerprint) }
    -- a newly paired key hash is stored on neither side
    have hpaired : P.keyHash k k' ∨ T (.record k) = none ∧ T' (.record k') = none := by
      rcases (hextends.keys k k').mp hk with hold | ⟨r, hr, hr'⟩
      · exact .inl hold
      · -- a stored digest is paired already, and compatibly
        cases hT : T (.record k) with
        | some record =>
            rcases h.left k (by rw [hT]; rfl) with ⟨q', hq⟩
            have hr'' := (hcompatible.keys r k q' hq).mp hr
            have hsame : q' = k' := Except.ok.inj (hr''.symm.trans hr')
            exact .inl (hsame ▸ hq)
        | none =>
            cases hT' : T' (.record k') with
            | some record' =>
                rcases h.right k' (by rw [hT']; rfl) with ⟨q, hq⟩
                have hr'' := (hcompatible.keys r q k' hq).mpr hr'
                have hsame : q = k := Except.ok.inj (hr''.symm.trans hr)
                exact .inl (hsame ▸ hq)
            | none =>
                exact .inr ⟨rfl, rfl⟩
    rcases hpaired with hold | ⟨hnone, hnone'⟩
    · rcases rel_cases (h.records k k' hold) with
        ⟨hnone, hnone'⟩ | ⟨record, record', hrecord, hrecord', hlike⟩
      · rw [hnone, hnone']
        exact .none
      · rw [hrecord, hrecord']
        exact .some (hcolumns _ _ hlike)
    · rw [hnone, hnone']
      exact .none
  left := by
    intro k hk
    rcases h.left k hk with ⟨k', hk'⟩
    exact ⟨k', (hextends.keys k k').mpr (.inl hk')⟩
  right := by
    intro k' hk'
    rcases h.right k' hk' with ⟨k, hk⟩
    exact ⟨k, (hextends.keys k k').mpr (.inl hk)⟩

end Start

end Pairing

namespace Requests

variable {requests : Nat → Request}

/-- A record in the tables was there at the start, or its key hash is a request's. -/
theorem record_source {T : Tables} {s : Requests}
    (hreach : Reachable (Requests.step requests) (init T) s) {k : PyStr}
    (hk : (s.tables (.record k)).isSome) :
    (T (.record k)).isSome ∨ ∃ r, computeKeyHash (requests r).idempotencyKey = .ok k := by
  by_contra hnone
  rw [not_or, not_exists] at hnone
  rcases hnone with ⟨hT, hrequests⟩
  have hsame : s.tables (.record k) = T (.record k) := by
    apply (contents_of_reachable hreach).other_records
    rintro e he row record ⟨a, hcall, _, hrecord⟩ rfl
    rcases log_cases hreach he with ⟨r, a', _, hcall', hargs⟩ | ⟨r, a', _, hcall', _⟩
    · cases hcall.symm.trans hcall'
      rw [recordInsert_keyHash hargs hrecord] at hrequests
      exact hrequests r (reserveArgs_ok hargs).1
    · cases hcall.symm.trans hcall'
  exact hT (hsame ▸ hk)

end Requests

/-! ## Responses -/

/-- What the client of a request has received; `X-Correlation-ID` is added by the middleware. -/
def Phase.response : Phase → Option (Except Exc HttpAnswer)
  | .finished answer => some (createTransaction answer)
  | _ => none

/-- The one message that names a key hash does not reach the client. -/
theorem response_like {R : Renaming} {p p' : Phase} (h : LikePhases R p p') :
    p'.response = p.response := by
  cases h with
  | finished hanswer =>
      cases hanswer with
      | ok henvelope =>
          rw [henvelope]
      | error he =>
          cases he <;> rfl
  | _ =>
      rfl

theorem likeSteps_refl {P : DigestPairs} (e : Event) : LikeSteps (digestRenaming P) e e := by
  cases e with
  | database d =>
      refine .database ?_
      cases d with
      | step c now =>
          exact .step c rfl
      | fail c fault =>
          exact .fail c fault
      | land c =>
          exact .land c
      | reap c =>
          exact .reap c
  | arrive r =>
      exact .arrive r
  | resume r =>
      exact .resume r
  | invoke r =>
      exact .invoke r
  | respond r outcome =>
      exact .respond r outcome
  | finish r =>
      exact .finish r
  | cancel r =>
      exact .cancel r
  | crash r =>
      exact .crash r

namespace Requests

/-- Secrets and correlation ids do not flow into storage or answers.  Two families of validated
requests differ only in their secrets, through a renaming that preserves equality of keys and, up to
surrogate pairs, of payloads, and start on databases that are the same up to paired digests.  Then all digests in play
can be paired one to one so that along every schedule, with the same faults and the same answers of
the network, either both systems can run or neither, every request has the same response in both,
and the databases are the same up to paired digests. -/
theorem secrets_do_not_flow {acceptsStr : PyStr → Bool} {requests requests' : Nat → Request}
    (hvalidated : ∀ r, Validated acceptsStr (requests r))
    (hvalidated' : ∀ r, Validated acceptsStr (requests' r))
    (hsame : SameButSecrets requests requests') (hsha : CollisionFree requests)
    (hsha' : CollisionFree requests') {P : DigestPairs} (hcompatible : Compatible P requests requests')
    {T T' : Tables} (hstart : SameButDigests P T T') :
    ∃ P', Extends P P' requests requests' ∧ ∀ es : List Event,
      Option.Rel
        (fun s s' => (∀ r, (s'.phase r).response = (s.phase r).response) ∧
          SameButDigests P' s.tables s'.tables)
        (exec (Requests.step requests) (init T) es)
        (exec (Requests.step requests') (init T') es) := by
  rcases exists_extends hsame hsha hsha' hcompatible with ⟨P', hextends⟩
  refine ⟨P', hextends, fun es => ?_⟩
  have hstart' := SameButDigests.extend hextends hcompatible hstart
  -- the two systems begin alike, and every event keeps them alike
  have hinit : LikeSystems (digestRenaming P') (fun _ => True) (init T) (init T') :=
    .init (stores_iff.mpr ⟨hstart'.transactions, hstart'.records⟩)
  have hstep : ∀ s s' e e', LikeSystems (digestRenaming P') (fun _ => True) s s' →
      LikeSteps (digestRenaming P') e e' →
      Option.Rel (LikeSystems (digestRenaming P') fun _ => True) (Requests.step requests s e)
        (Requests.step requests' s' e') := fun s s' e e' hs he =>
    hs.step (fun r _ => likeRequests hvalidated hvalidated' hsame hextends r) he trivial
  have hes : List.Forall₂ (LikeSteps (digestRenaming P')) es es :=
    List.forall₂_same.mpr fun e _ => likeSteps_refl e
  rcases rel_cases (exec_rel hstep hes hinit) with ⟨hnone, hnone'⟩ | ⟨s, s', hs, hs', hlike⟩
  · rw [hnone, hnone']
    exact .none
  · rw [hs, hs']
    refine .some ⟨fun r => response_like (hlike.phase r trivial), ?_⟩
    rcases stores_iff.mp hlike.calls.server.committed with ⟨htransactions, hrecords⟩
    refine ⟨htransactions, hrecords, ?_, ?_⟩
    · -- a stored key hash was there at the start, or a request computed it
      intro k hk
      rcases record_source ⟨es, hs⟩ hk with hold | ⟨r, hr⟩
      · exact hstart'.left k hold
      · rcases (hvalidated' r).key with ⟨header, hheader⟩
        rcases computeKeyHash_defined hheader with ⟨k', hk'⟩
        exact ⟨k', (hextends.keys k k').mpr (.inr ⟨r, hr, hk'⟩)⟩
    · intro k' hk'
      rcases record_source ⟨es, hs'⟩ hk' with hold | ⟨r, hr⟩
      · exact hstart'.right k' hold
      · rcases (hvalidated r).key with ⟨header, hheader⟩
        rcases computeKeyHash_defined hheader with ⟨k, hk⟩
        exact ⟨k, (hextends.keys k k').mpr (.inr ⟨r, hk, hr⟩)⟩

/-- The sample request with other secrets. -/
def otherSecrets : Request :=
  { command := { sampleRequest.command with
      paymentToken := py "tok_test_2"
      correlationId := py "c-2" }
    idempotencyKey := py "key-2" }

/-- From empty tables, the sample request and its like with another key, token and correlation
id. -/
theorem secrets_do_not_flow_sample :
    ∃ P', Extends .none P' (fun _ => sampleRequest) (fun _ => otherSecrets) ∧ ∀ es : List Event,
      Option.Rel
        (fun s s' => (∀ r, (s'.phase r).response = (s.phase r).response) ∧
          SameButDigests P' s.tables s'.tables)
        (exec (Requests.step fun _ => sampleRequest) (init emptyTables) es)
        (exec (Requests.step fun _ => otherSecrets) (init emptyTables) es) := by
  have htoken : validatePaymentToken (.str (py "tok_test_2")) = .ok (py "tok_test_2") := rfl
  have hadmitted : Admitted (fun _ => true) otherSecrets.command :=
    (withToken_admitted htoken).withCorrelationId (py "c-2")
  have hkey : requireIdempotencyKey (some (py "key-1")) = some sampleRequest.idempotencyKey := by
    decide
  have hkey' : requireIdempotencyKey (some (py "key-2")) = some otherSecrets.idempotencyKey := by
    decide
  have hsame : SameButSecrets (fun _ => sampleRequest) (fun _ => otherSecrets) :=
    { transactionId := fun _ => rfl
      merchantId := fun _ => rfl
      amount := fun _ => rfl
      currency := fun _ => rfl
      keys := fun _ _ => iff_of_true rfl rfl
      payloads := fun _ _ => iff_of_true rfl rfl }
  have hcompatible : Compatible .none (fun _ => sampleRequest) (fun _ => otherSecrets) :=
    ⟨fun _ _ _ h => h.elim, fun _ _ _ h => h.elim⟩
  have hstart : SameButDigests .none emptyTables emptyTables :=
    { transactions := fun _ => rfl
      records := fun _ _ h => h.elim
      left := fun _ h => absurd h (by simp [emptyTables])
      right := fun _ h => absurd h (by simp [emptyTables]) }
  exact secrets_do_not_flow (fun _ => ⟨sample_admitted, _, hkey⟩)
    (fun _ => ⟨hadmitted, _, hkey'⟩) hsame ⟨fun _ _ _ => rfl, fun _ _ _ => rfl⟩
    ⟨fun _ _ _ => rfl, fun _ _ _ => rfl⟩ hcompatible hstart

/-! ## Surrogate pairs -/

/-- The requests of `emojiRequests` with two tokens of ASCII text. -/
def plainRequests : Nat → Request :=
  tokenRequests (py "tok_test_1") (py "tok_test_2")

theorem plainRequests_admitted (r : Nat) : Admitted (fun _ => true) (plainRequests r).command :=
  tokenRequests_cases (P := fun request => Admitted (fun _ => true) request.command)
    (withToken_admitted rfl) (withToken_admitted rfl) r

/-- The canonical texts of the two emoji payloads are one text. -/
theorem emojiRequests_collisionFree : CollisionFree emojiRequests := by
  have htext : ∀ r, canonicalText (emojiRequests r).payload =
      canonicalText (emojiRequests 0).payload :=
    tokenRequests_cases
      (P := fun request => canonicalText request.payload = canonicalText (emojiRequests 0).payload)
      rfl rfl
  exact ⟨fun _ _ _ => rfl, fun r q _ => (htext r).trans (htext q).symm⟩

theorem plainRequests_collisionFree : CollisionFree plainRequests := by
  have hdiffer : sha256Text (canonicalText (withToken (py "tok_test_1")).payload) ≠
      sha256Text (canonicalText (withToken (py "tok_test_2")).payload) := by
    decide +kernel
  refine ⟨fun _ _ _ => rfl, ?_⟩
  intro r q hsha
  by_cases hr : r = 0 <;> by_cases hq : q = 0 <;>
    simp only [plainRequests, tokenRequests, hr, hq, if_true, if_false] at hsha ⊢
  · exact absurd hsha hdiffer
  · exact absurd hsha.symm hdiffer

/-- A renaming that preserves equality of payloads only: the second emoji request gets the answer of
the first, the second plain one the conflict. -/
theorem surrogatePair_flows :
    let run : List Event := sampleRun ++
      [.respond 0 (.declined (py "05")), .database (.step (.complete 0) 2),
        .database (.step (.complete 0) 2), .database (.step (.complete 0) 2), .finish 0,
        .arrive 1, .database (.step (.reserve 1) 3), .database (.step (.reserve 1) 3), .resume 1]
    (∀ r, Validated (fun _ => true) (emojiRequests r)) ∧
    (∀ r, Validated (fun _ => true) (plainRequests r)) ∧
    (∀ r, ∃ token, plainRequests r =
      ⟨{ (emojiRequests r).command with paymentToken := token }, (emojiRequests r).idempotencyKey⟩) ∧
    (∀ r q, (plainRequests r).payload = (plainRequests q).payload ↔
      (emojiRequests r).payload = (emojiRequests q).payload) ∧
    CollisionFree emojiRequests ∧ CollisionFree plainRequests ∧
    ∃ (s s' : Requests) (answer answer' : HttpAnswer),
      exec (Requests.step emojiRequests) (init emptyTables) run = some s ∧
      exec (Requests.step plainRequests) (init emptyTables) run = some s' ∧
      (s.phase 1).response = some (.ok answer) ∧ answer.statusCode = 201 ∧
      (s'.phase 1).response = some (.ok answer') ∧ answer'.statusCode = 409 := by
  intro run
  have hkey : requireIdempotencyKey (some (py "key-1")) = some (py "key-1") := rfl
  have hany : (exec (Requests.step emojiRequests) (init emptyTables) run).any
      (fun s => (s.phase 1).returned.any fun envelope => envelope.statusCode = 201) = true := by
    decide +kernel
  have hany' : (exec (Requests.step plainRequests) (init emptyTables) run).any
      (fun s => (s.phase 1).returned.any fun envelope => envelope.statusCode = 409) = true := by
    decide +kernel
  refine ⟨fun r => ⟨emojiRequests_admitted r, _, hkey⟩, fun r => ⟨plainRequests_admitted r, _, hkey⟩,
    fun _ => ⟨_, rfl⟩, ?_, emojiRequests_collisionFree, plainRequests_collisionFree, ?_⟩
  · intro r q
    by_cases hr : r = 0 <;> by_cases hq : q = 0 <;>
      simp only [emojiRequests, plainRequests, tokenRequests, hr, hq, if_true, if_false] <;> decide
  · rcases (Option.any_eq_true _ _).mp hany with ⟨s, hrun, hs⟩
    rcases (Option.any_eq_true _ _).mp hs with ⟨envelope, henvelope, hcode⟩
    rcases (Option.any_eq_true _ _).mp hany' with ⟨s', hrun', hs'⟩
    rcases (Option.any_eq_true _ _).mp hs' with ⟨envelope', henvelope', hcode'⟩
    refine ⟨s, s', httpAnswer envelope, httpAnswer envelope', hrun, hrun', ?_, of_decide_eq_true hcode,
      ?_, of_decide_eq_true hcode'⟩
    · rw [Phase.eq_finished henvelope]
      rfl
    · rw [Phase.eq_finished henvelope']
      rfl

end Requests

end System
end TransactionPlatform
