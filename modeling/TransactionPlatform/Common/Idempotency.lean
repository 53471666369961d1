import TransactionPlatform.Lib.JsonText
import TransactionPlatform.Lib.Sha256
import TransactionPlatform.Ports.IdempotencyCoordinator

/-!
# Idempotency — key hashes and request fingerprints

`src/transaction_platform/common/idempotency.py`, and the header check it shares with
`src/transaction_platform/common/correlation.py`.  Both digests are SHA-256 in hexadecimal; the
fingerprint is taken over the canonical JSON text of the five payload fields.
-/

namespace TransactionPlatform
namespace Common

open Text Ports JsonText

/-! ## Headers -/

/-- `[A-Za-z0-9._:-]`. -/
def headerChar (c : CodePoint) : Bool :=
  (0x41 ≤ c.val && c.val ≤ 0x5A) || (0x61 ≤ c.val && c.val ≤ 0x7A) ||
    (0x30 ≤ c.val && c.val ≤ 0x39) || c = 0x2E || c = 0x5F || c = 0x3A || c = 0x2D

theorem headerChar_newline : headerChar 0x0A = false := rfl

theorem headerChar_ascii {c : CodePoint} (h : headerChar c = true) : c.val < 0x80 := by
  simp only [headerChar, Bool.or_eq_true, Bool.and_eq_true, decide_eq_true_eq] at h
  rcases h with (((((h | h) | h) | rfl) | rfl) | rfl) | rfl
  all_goals omega

/-- `IDEMPOTENCY_KEY_REGEX`. -/
def idempotencyKeyRegex : Regex CodePoint :=
  .anchored headerChar 1 128

/-- `CORRELATION_ID_REGEX`. -/
def correlationIdRegex : Regex CodePoint :=
  .anchored headerChar 1 128

/-- A required header of the common format; `none` is the missing-header exception. -/
def requireHeader (value : Option PyStr) : Option PyStr :=
  match value with
  | some s => if matchRepeat headerChar 1 128 s then some s else none
  | none => none

/-- `require_idempotency_key`. -/
def requireIdempotencyKey (idempotencyKey : Option PyStr) : Option PyStr :=
  requireHeader idempotencyKey

/-- `require_correlation_id`. -/
def requireCorrelationId (xCorrelationId : Option PyStr) : Option PyStr :=
  requireHeader xCorrelationId

/-- The test is the match the source makes. -/
theorem requireHeader_eq (s : PyStr) :
    requireHeader (some s) =
      if (Regex.anchored headerChar 1 128).isMatch 0x0A s then some s else none := by
  rw [← matchRepeat_eq_isMatch headerChar_newline]
  rfl

theorem requireIdempotencyKey_eq (idempotencyKey : PyStr) :
    requireIdempotencyKey (some idempotencyKey) =
      if idempotencyKeyRegex.isMatch 0x0A idempotencyKey then some idempotencyKey else none :=
  requireHeader_eq idempotencyKey

theorem requireCorrelationId_eq (xCorrelationId : PyStr) :
    requireCorrelationId (some xCorrelationId) =
      if correlationIdRegex.isMatch 0x0A xCorrelationId then some xCorrelationId else none :=
  requireHeader_eq xCorrelationId

/-! ## Digests -/

/-- `hashlib.sha256(text.encode("utf-8")).hexdigest()`. -/
def sha256Text (text : PyStr) : Except Exc PyStr :=
  match encodeUtf8 text with
  | some data => .ok (Sha256.hexdigest data)
  | none => .error .unicodeEncode

/-- `compute_key_hash`. -/
def computeKeyHash (idempotencyKey : PyStr) : Except Exc PyStr :=
  sha256Text idempotencyKey

/-- The arguments of `compute_request_fingerprint`. -/
structure Payload where
  amount : Int
  currency : PyStr
  merchantId : PyStr
  paymentToken : PyStr
  transactionId : PyStr
  deriving DecidableEq, Repr

/-- The canonical JSON text of a payload; `none` is the `ValueError` of `json.dumps` on an integer
of too many digits. -/
def canonicalJson (p : Payload) : Option PyStr :=
  dumps
    [(py "amount", .int p.amount), (py "currency", .str p.currency),
      (py "merchant_id", .str p.merchantId), (py "payment_token", .str p.paymentToken),
      (py "transaction_id", .str p.transactionId)]

/-- `compute_request_fingerprint`. -/
def computeRequestFingerprint (p : Payload) : Except Exc PyStr :=
  match canonicalJson p with
  | some text => sha256Text text
  | none => .error (.foreign (py "ValueError"))

/-! ## Format of the digests -/

/-- Only a surrogate cannot be encoded, so every other text has a digest. -/
theorem sha256Text_defined {text : PyStr} (h : text.all Text.isScalar = true) :
    ∃ digest, sha256Text text = .ok digest := by
  refine ⟨Sha256.hexdigest (text.flatMap utf8Char), ?_⟩
  simp [sha256Text, encodeUtf8, h]

theorem sha256Text_length {text digest : PyStr} (h : sha256Text text = .ok digest) :
    digest.length = 64 := by
  unfold sha256Text at h
  split at h
  · cases h
    exact Sha256.hexdigest_length _
  · cases h

theorem mem_sha256Text {text digest : PyStr} (h : sha256Text text = .ok digest) {c : CodePoint}
    (hc : c ∈ digest) : (0x30 ≤ c.val ∧ c.val ≤ 0x39) ∨ (0x61 ≤ c.val ∧ c.val ≤ 0x66) := by
  unfold sha256Text at h
  split at h
  · cases h
    exact Sha256.mem_hexdigest hc
  · cases h

theorem computeRequestFingerprint_ok {p : Payload} {digest : PyStr}
    (h : computeRequestFingerprint p = .ok digest) :
    ∃ text, canonicalJson p = some text ∧ sha256Text text = .ok digest := by
  unfold computeRequestFingerprint at h
  split at h
  · rename_i text htext
    exact ⟨text, htext, h⟩
  · cases h

/-! ## The canonical text determines the payload -/

/-- All four texts of a payload are sequences of Unicode scalar values. -/
def Payload.isScalar (p : Payload) : Bool :=
  p.currency.all Text.isScalar && p.merchantId.all Text.isScalar &&
    p.paymentToken.all Text.isScalar && p.transactionId.all Text.isScalar

/-- The canonical text with every digit of the amount, however many there are. -/
def canonicalText (p : Payload) : PyStr :=
  0x7B :: (encodeString (py "amount") ++ 0x3A :: (textOfInt p.amount ++ 0x2C ::
    (encodeString (py "currency") ++ 0x3A :: (encodeString p.currency ++ 0x2C ::
      (encodeString (py "merchant_id") ++ 0x3A :: (encodeString p.merchantId ++ 0x2C ::
        (encodeString (py "payment_token") ++ 0x3A :: (encodeString p.paymentToken ++ 0x2C ::
          (encodeString (py "transaction_id") ++ 0x3A ::
            (encodeString p.transactionId ++ [0x7D]))))))))))

/-- The members come out in the order in which the source lists them. -/
theorem canonicalJson_eq (p : Payload) :
    canonicalJson p =
      if (textOfNat p.amount.natAbs).length ≤ maxStrDigits then some (canonicalText p) else none := by
  have hsorted : ∀ members : Dict Scalar, members =
      [(py "amount", .int p.amount), (py "currency", .str p.currency),
        (py "merchant_id", .str p.merchantId), (py "payment_token", .str p.paymentToken),
        (py "transaction_id", .str p.transactionId)] → sortKeys members = members := by
    rintro members rfl
    rfl
  have hstr : ∀ key text, dumpsMember (key, .str text) =
      some (encodeString key ++ 0x3A :: encodeString text) := fun _ _ => rfl
  unfold canonicalJson dumps
  rw [hsorted _ rfl]
  by_cases hdigits : (textOfNat p.amount.natAbs).length ≤ maxStrDigits
  · have hamount : dumpsMember (py "amount", .int p.amount) =
        some (encodeString (py "amount") ++ 0x3A :: textOfInt p.amount) := by
      simp [dumpsMember, dumpsScalar, hdigits]
    simp [List.mapM_cons, hamount, hstr, joinMembers, hdigits, canonicalText]
  · have hamount : dumpsMember (py "amount", .int p.amount) = none := by
      simp [dumpsMember, dumpsScalar, hdigits]
    simp [List.mapM_cons, hamount, hdigits]

theorem canonicalJson_eq_some {p : Payload} {text : PyStr} (h : canonicalJson p = some text) :
    text = canonicalText p := by
  rw [canonicalJson_eq] at h
  split at h
  · exact (Option.some.inj h).symm
  · cases h

/-- The canonical text is ASCII, whatever the payload. -/
theorem canonicalText_ascii {p : Payload} {c : CodePoint} (hc : c ∈ canonicalText p) :
    c.val < 0x80 := by
  have hdigits : ∀ c ∈ textOfInt p.amount, c.val < 0x80 := by
    intro c hc
    have hrange := mem_textOfInt hc
    omega
  -- the text is made of punctuation, encoded strings and the digits of the amount
  simp only [canonicalText, List.mem_cons, List.mem_append, List.not_mem_nil, or_false] at hc
  rcases hc with rfl | hc | rfl | hc | rfl | hc | rfl | hc | rfl | hc | rfl | hc | rfl | hc | rfl |
    hc | rfl | hc | rfl | hc | rfl | hc | rfl
  all_goals first | decide | exact mem_encodeString hc | exact hdigits c hc

/-- A payload whose amount `json.dumps` can print has a fingerprint. -/
theorem computeRequestFingerprint_defined {p : Payload} (h : (canonicalJson p).isSome = true) :
    ∃ digest, computeRequestFingerprint p = .ok digest := by
  rcases Option.isSome_iff_exists.mp h with ⟨text, htext⟩
  have hascii : ∀ c ∈ text, c.val < 0x80 := by
    intro c hc
    rw [canonicalJson_eq_some htext] at hc
    exact canonicalText_ascii hc
  rcases sha256Text_defined (all_isScalar_of_ascii hascii) with ⟨digest, hdigest⟩
  exact ⟨digest, by simp [computeRequestFingerprint, htext, hdigest]⟩

/-- A payload with every surrogate pair of its texts replaced by the character it encodes. -/
def Payload.joined (p : Payload) : Payload :=
  { amount := p.amount
    currency := joinPairs p.currency
    merchantId := joinPairs p.merchantId
    paymentToken := joinPairs p.paymentToken
    transactionId := joinPairs p.transactionId }

theorem Payload.joined_of_isScalar {p : Payload} (h : p.isScalar = true) : p.joined = p := by
  simp only [Payload.isScalar, Bool.and_eq_true] at h
  rcases h with ⟨⟨⟨hcurrency, hmerchant⟩, htoken⟩, hid⟩
  rw [Payload.joined, joinPairs_of_isScalar hcurrency, joinPairs_of_isScalar hmerchant,
    joinPairs_of_isScalar htoken, joinPairs_of_isScalar hid]

theorem canonicalText_joined (p : Payload) : canonicalText p.joined = canonicalText p := by
  simp only [canonicalText, Payload.joined, encodeString_joinPairs]

/-- Two payloads have the same canonical text only if they agree up to surrogate pairs. -/
theorem joined_eq_of_canonicalText {p p' : Payload} (h : canonicalText p = canonicalText p') :
    p.joined = p'.joined := by
  -- read the members off from left to right
  rcases textOfInt_append_inj (List.cons.inj (List.append_cancel_left (List.cons.inj h).2)).2
    with ⟨hamounts, hrest⟩
  rcases encodeString_append_inj (List.cons.inj (List.append_cancel_left hrest)).2
    with ⟨hcurrencies, hrest⟩
  rcases encodeString_append_inj
    (List.cons.inj (List.append_cancel_left (List.cons.inj hrest).2)).2 with ⟨hmerchants, hrest⟩
  rcases encodeString_append_inj
    (List.cons.inj (List.append_cancel_left (List.cons.inj hrest).2)).2 with ⟨htokens, hrest⟩
  rcases encodeString_append_inj
    (List.cons.inj (List.append_cancel_left (List.cons.inj hrest).2)).2 with ⟨hids, _⟩
  rw [Payload.joined, Payload.joined, hamounts, hcurrencies, hmerchants, htokens, hids]

theorem canonicalText_eq_iff {p p' : Payload} :
    canonicalText p = canonicalText p' ↔ p.joined = p'.joined := by
  constructor
  · exact joined_eq_of_canonicalText
  · intro h
    rw [← canonicalText_joined p, h, canonicalText_joined]

/-- Two payloads of Unicode text with the same canonical text are equal. -/
theorem canonicalText_injective {p p' : Payload} (hp : p.isScalar = true) (hp' : p'.isScalar = true)
    (h : canonicalText p = canonicalText p') : p = p' := by
  have hjoined := joined_eq_of_canonicalText h
  rwa [Payload.joined_of_isScalar hp, Payload.joined_of_isScalar hp'] at hjoined

/-- Payloads that agree up to surrogate pairs have one fingerprint. -/
theorem computeRequestFingerprint_congr {p p' : Payload} (h : p.joined = p'.joined) :
    computeRequestFingerprint p = computeRequestFingerprint p' := by
  have hamount : p.joined.amount = p'.joined.amount := by rw [h]
  change p.amount = p'.amount at hamount
  unfold computeRequestFingerprint
  rw [canonicalJson_eq, canonicalJson_eq, canonicalText_eq_iff.mpr h, hamount]

/-- Without a SHA-256 collision between their canonical texts, payloads with equal fingerprints agree
up to surrogate pairs. -/
theorem joined_eq_of_fingerprint {p p' : Payload} {digest : PyStr}
    (h : computeRequestFingerprint p = .ok digest) (h' : computeRequestFingerprint p' = .ok digest)
    (hsha : ∀ text text', canonicalJson p = some text → canonicalJson p' = some text' →
      sha256Text text = sha256Text text' → text = text') : p.joined = p'.joined := by
  rcases computeRequestFingerprint_ok h with ⟨text, htext, hdigest⟩
  rcases computeRequestFingerprint_ok h' with ⟨text', htext', hdigest'⟩
  have hsame : text = text' := hsha text text' htext htext' (hdigest.trans hdigest'.symm)
  subst hsame
  exact joined_eq_of_canonicalText
    ((canonicalJson_eq_some htext).symm.trans (canonicalJson_eq_some htext'))

end Common
end TransactionPlatform
