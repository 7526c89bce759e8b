import Notary.Number.Checked

namespace Notary

/-!
Waiting after failures: each failure of a streak doubles the delay, up to a ceiling, until the
budget of failures is spent. Jitter is added to each delay, so that callers do not return at once.
-/

structure Backoff where
  base : Nat
  ceiling : Nat
  budget : Nat
  failures : Nat := 0
  deriving DecidableEq, Repr, Inhabited

namespace Backoff

/-- The delay before an attempt, in milliseconds and without jitter; the first attempt is 1. -/
def delay (base ceiling attempt : Nat) : Nat :=
  if attempt = 0 then 0
  else min (Checked.saturatingMul 64 base (Checked.saturatingPowTwo 64 (attempt - 1))) ceiling

/-- The most jitter that a delay can have: it is less than a tenth of the delay, or none. -/
def mostJitter (delay : Nat) : Nat :=
  delay / 10 - 1

/-- The delay before an attempt, with jitter. -/
def jittered (base ceiling attempt jitter : Nat) : Except Fault Nat :=
  Checked.add 64 (delay base ceiling attempt) jitter

/-- Counts a failure. The delay to the next attempt, or `none` once the budget is spent. -/
def fail (backoff : Backoff) (jitter : Nat) : Except Fault (Option Nat) × Backoff :=
  match Checked.add 32 backoff.failures 1 with
  | .error fault => (.error fault, backoff)
  | .ok failures =>
      let next := { backoff with failures }
      if backoff.budget < failures then (.ok none, next)
      else ((jittered backoff.base backoff.ceiling failures jitter).map some, next)

def reset (backoff : Backoff) : Backoff :=
  { backoff with failures := 0 }

end Backoff

end Notary
