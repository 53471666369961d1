import TransactionPlatform.System.Completion

/-!
# Fingerprints — the same payload under one key

The canonical text of a payload can be read back, so that two payloads of Unicode text share it only
when all five fields agree.  In a run, the record of a key keeps the fingerprint its reservation was
made with, and whoever comes with that key afterwards is compared with it.
-/

namespace TransactionPlatform
namespace System

open Text Domain Ports Common Application Api Infrastructure ReadCommitted Transition

/-! ## The record keeps its fingerprint -/

namespace Requests

variable {requests : Nat → Request}

/-- A committed reservation has put a record with its fingerprint under its key, for good. -/
theorem fingerprint_of_logged {T : Tables} {s : Requests}
    (hreach : Reachable (Requests.step requests) (init T) s) {r : Nat} {a : ReserveArgs}
    {now : Timestamp} (hlogged : ⟨.reserve r, .reserve a, now⟩ ∈ s.calls.log) :
    (requests r).reserveArgs = .ok a ∧ ∃ record : IdempotencyRecord,
      s.tables (.record a.keyHash) = some record ∧
        record.requestFingerprint = a.requestFingerprint := by
  have hargs : (requests r).reserveArgs = .ok a := by
    rcases log_cases hreach hlogged with ⟨r', a', hid, hcall, hargs⟩ | ⟨_, _, hid, _⟩
    · cases hid
      cases hcall
      exact hargs
    · cases hid
  refine ⟨hargs, ?_⟩
  rcases (Coordination.reservationsInv_of_reachable (calls_reachable hreach)).rows _ hlogged a rfl
    with ⟨row, record, a', heq, hrow, hrecord⟩
  cases heq
  have hkey := recordInsert_keyHash hargs hrecord
  have hfingerprint := recordInsert_fingerprint hargs hrecord
  cases (contents_of_reachable hreach).owned r a now row record hlogged hrow hrecord with
  | fresh _ _ hrecordT =>
      rw [hkey] at hrecordT
      exact ⟨record, hrecordT, hfingerprint⟩
  | completed _ _ _ setRecord _ _ hsetRecord _ hrecordT =>
      -- `complete` leaves the fingerprint alone
      rw [hkey] at hrecordT
      have hfields := recordUpdate_fields hsetRecord record
      exact ⟨setRecord record, hrecordT, hfields.2.1.trans hfingerprint⟩

end Requests

/-- The comparison `_classify_existing` begins with decides whether the payload is the same. -/
theorem answerExisting_conflict_iff (record : IdempotencyRecord) (requestFingerprint : PyStr) :
    (answerExisting record requestFingerprint).status = .idempotencyConflict ↔
      record.requestFingerprint ≠ requestFingerprint := by
  by_cases hsame : record.requestFingerprint = requestFingerprint
  · by_cases hprogress : record.processingStatus = py "IN_PROGRESS"
    · simp [answerExisting, hsame, hprogress, reservation]
    · simp [answerExisting, hsame, hprogress]
  · simp [answerExisting, hsame, reservation]

/-! ## Injectivity -/

namespace Requests

/-- The canonical request encoding.

* The text `json.dumps` builds is the canonical text, and it is ASCII; it builds none only for an
  amount with more digits than Python prints.
* Two payloads of Unicode text have the same canonical text exactly when all five fields agree.
* Hence, without a SHA-256 collision on the two texts, once a reservation under a key is committed,
  every request with that key is classified as a conflict exactly when its payload is another one. -/
theorem canonical_encoding_injective :
    (∀ p : Payload,
      (∀ text, canonicalJson p = some text → text = canonicalText p) ∧
      (canonicalJson p = none ↔ maxStrDigits < (textOfNat p.amount.natAbs).length) ∧
      ∀ c ∈ canonicalText p, c.val < 0x80) ∧
    (∀ p p' : Payload, p.isScalar = true → p'.isScalar = true →
      (canonicalText p = canonicalText p' ↔ p = p')) ∧
    (∀ (requests : Nat → Request) (T : Tables) (s : Requests), SchemaOk T →
      Reachable (Requests.step requests) (init T) s →
      ∀ r a now, ⟨.reserve r, .reserve a, now⟩ ∈ s.calls.log →
      ∀ r' a', (requests r').reserveArgs = .ok a' →
        (requests r').idempotencyKey = (requests r).idempotencyKey →
        (requests r).payload.isScalar = true → (requests r').payload.isScalar = true →
        (sha256Text (canonicalText (requests r').payload) =
            sha256Text (canonicalText (requests r).payload) →
          canonicalText (requests r').payload = canonicalText (requests r).payload) →
        ∃ record reservation, s.tables (.record a'.keyHash) = some record ∧
          classifyExisting record a'.requestFingerprint = .ok reservation ∧
          (reservation.status = .idempotencyConflict ↔
            (requests r').payload ≠ (requests r).payload)) := by
  refine ⟨?_, ?_, ?_⟩
  · intro p
    refine ⟨fun text h => canonicalJson_eq_some h, ?_, fun c hc => canonicalText_ascii hc⟩
    rw [canonicalJson_eq]
    split
    · simp only [reduceCtorEq, false_iff]
      omega
    · simp only [true_iff]
      omega
  · intro p p' hp hp'
    constructor
    · exact canonicalText_injective hp hp'
    · rintro rfl
      rfl
  · intro requests T s hT hreach r a now hlogged r' a' hargs' hkey hscalar hscalar' hsha
    rcases fingerprint_of_logged hreach hlogged with ⟨hargs, record, hrecord, hfingerprint⟩
    rcases reserveArgs_ok hargs with ⟨hkeyHash, hprint, _⟩
    rcases reserveArgs_ok hargs' with ⟨hkeyHash', hprint', _⟩
    have hsameKey : a'.keyHash = a.keyHash := by
      rw [hkey] at hkeyHash'
      exact Except.ok.inj (hkeyHash'.symm.trans hkeyHash)
    have hok : record.admitted = true :=
      ((Coordination.schemaOk_of_reachable hT (calls_reachable hreach)).record_ok _ _ hrecord).2
    refine ⟨record, _, by rw [hsameKey]; exact hrecord, classifyExisting_eq hok _, ?_⟩
    rw [answerExisting_conflict_iff, hfingerprint]
    -- equal fingerprints and equal payloads are the same thing
    apply not_congr
    constructor
    · intro hsame
      rcases computeRequestFingerprint_ok hprint with ⟨text, htext, hdigest⟩
      rcases computeRequestFingerprint_ok hprint' with ⟨text', htext', hdigest'⟩
      rw [canonicalJson_eq_some htext] at hdigest
      rw [canonicalJson_eq_some htext'] at hdigest'
      have htexts := hsha (hdigest'.trans (by rw [hdigest, hsame]))
      exact canonicalText_injective hscalar' hscalar htexts
    · intro hpayload
      rw [hpayload] at hprint'
      exact Except.ok.inj (hprint.symm.trans hprint')

/-- Quotes, a backslash before `u`, and a character beyond the BMP: none of them can be taken for
another text. -/
theorem canonical_encoding_injective_escapes :
    canonicalText ⟨1, py "USD", py "\"\\u00e9", py "tok_test_1", py "t"⟩ ≠
      canonicalText ⟨1, py "USD", py "\"é", py "tok_test_1", py "t"⟩ := by
  intro h
  have hequal := (canonical_encoding_injective.2.1
    ⟨1, py "USD", py "\"\\u00e9", py "tok_test_1", py "t"⟩
    ⟨1, py "USD", py "\"é", py "tok_test_1", py "t"⟩ (by decide) (by decide)).mp h
  revert hequal
  decide

end Requests

end System
end TransactionPlatform
