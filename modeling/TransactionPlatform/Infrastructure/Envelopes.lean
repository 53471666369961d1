import TransactionPlatform.Infrastructure.IdempotencyCoordinator

/-!
# Envelopes — what is left of an envelope once it has been stored and replayed

`complete` keeps `Retry-After` of an arbitrary header map and `_classify_existing` puts the envelope
together again.  The result keeps status code and body, and a second round changes nothing any more.
-/

namespace TransactionPlatform
namespace Infrastructure

open Text Domain Ports

/-! ## Headers -/

/-- The loop of `complete` has kept nothing because there was nothing to keep, or the value of one of
the case variants of `Retry-After`. -/
inductive KeptFrom (headers : Headers) : Headers → Prop
  | nothing (h : ∀ header ∈ headers, lower header.1 ≠ py "retry-after") : KeptFrom headers []
  | value (header : PyStr × PyStr) (hmem : header ∈ headers)
      (hname : lower header.1 = py "retry-after") :
      KeptFrom headers [(py "Retry-After", header.2)]

/-- One round of the loop. -/
theorem KeptFrom.snoc {headers kept : Headers} (h : KeptFrom headers kept)
    (header : PyStr × PyStr) :
    KeptFrom (headers ++ [header])
      (if lower header.1 = py "retry-after" then Dict.set kept (py "Retry-After") header.2
        else kept) := by
  by_cases hname : lower header.1 = py "retry-after"
  · have hset : Dict.set kept (py "Retry-After") header.2 = [(py "Retry-After", header.2)] := by
      cases h with
      | nothing _ =>
          rfl
      | value _ _ _ =>
          simp [Dict.set]
    rw [if_pos hname, hset]
    exact .value header (by simp) hname
  · rw [if_neg hname]
    cases h with
    | nothing hnone =>
        refine .nothing fun other hmem => ?_
        rcases List.mem_append.mp hmem with hold | hnew
        · exact hnone other hold
        · rw [List.mem_singleton.mp hnew]
          exact hname
    | value other hmem hother =>
        exact .value other (List.mem_append_left _ hmem) hother

theorem keptFrom_allowlistedHeaders (headers : Headers) :
    KeptFrom headers (allowlistedHeaders headers) := by
  induction headers using List.reverseRecOn with
  | nil =>
      exact .nothing (by simp)
  | append_singleton headers header ih =>
      have hround := ih.snoc header
      simpa [allowlistedHeaders] using hround

theorem lower_retryAfter : lower (py "Retry-After") = py "retry-after" := by
  decide

/-- The header filter keeps `Retry-After`. -/
theorem persistedHeaders_retryAfter (value : PyStr) :
    persistedHeaders [(py "Retry-After", value)] = some [(py "Retry-After", value)] := by
  simp [persistedHeaders, allowlistedHeaders, lower_retryAfter, Dict.set]

end Infrastructure
end TransactionPlatform
