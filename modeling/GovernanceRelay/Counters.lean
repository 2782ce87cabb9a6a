/-!
# Counters

What one run of the program has done, counted, and the text in which the counts are exported: for
each counter a line that explains it, a line with its kind and a line with its value, the counters
in the order of their names.
-/

set_option autoImplicit false

namespace GovernanceRelay

/-- The counts of one run. -/
structure Counters where
  /-- Batches that were put to the review. -/
  reviewed : Nat
  /-- Batches that passed. -/
  forwarded : Nat
  /-- Batches that did not pass. -/
  rejected : Nat
  /-- Mediators that were set. -/
  mediatorUpdates : Nat
  /-- Entries of the allow-list that were applied. -/
  policyUpdates : Nat
  /-- Byte strings that were no batch. -/
  decodeFailures : Nat
deriving DecidableEq, Repr

namespace Counters

/-- Nothing has happened. -/
def zero : Counters := ⟨0, 0, 0, 0, 0, 0⟩

/-- Count a review and what became of its batch. -/
def countReview (counters : Counters) (isForwarded : Bool) : Counters :=
  if isForwarded then
    { counters with reviewed := counters.reviewed + 1, forwarded := counters.forwarded + 1 }
  else { counters with reviewed := counters.reviewed + 1, rejected := counters.rejected + 1 }

/-- Count a mediator that was set. -/
def countMediator (counters : Counters) : Counters :=
  { counters with mediatorUpdates := counters.mediatorUpdates + 1 }

/-- Count entries of the allow-list that were applied. -/
def countPolicies (counters : Counters) (applied : Nat) : Counters :=
  { counters with policyUpdates := counters.policyUpdates + applied }

/-- Count a byte string that is no batch. -/
def countDecodeFailure (counters : Counters) : Counters :=
  { counters with decodeFailures := counters.decodeFailures + 1 }

/-- The lines of one counter. -/
def exportOne (name explanation : String) (value : Nat) : String :=
  let name := "relaygate_" ++ name ++ "_total"
  "# HELP " ++ name ++ " " ++ explanation ++ "\n# TYPE " ++ name ++ " counter\n" ++ name ++ " "
    ++ toString value ++ "\n"

/-- The exported text. -/
def toText (counters : Counters) : String :=
  exportOne "batches_forwarded" "Batches forwarded to the timelock" counters.forwarded
    ++ exportOne "batches_rejected" "Batches rejected by the guard" counters.rejected
    ++ exportOne "batches_reviewed" "Batches submitted to the guard" counters.reviewed
    ++ exportOne "decode_failures" "Command buffers that failed to decode" counters.decodeFailures
    ++ exportOne "mediator_updates" "Mediator registry updates" counters.mediatorUpdates
    ++ exportOne "policy_updates" "Selector policy entries applied" counters.policyUpdates

end Counters

end GovernanceRelay
