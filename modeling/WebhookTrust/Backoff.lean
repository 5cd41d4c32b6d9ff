import WebhookTrust.Log

/-!
# Trying again with growing pauses

Two loops share a profile of pauses: one repeats an operation until it succeeds, the other asks for
a condition until it holds. The pauses grow by a factor up to a bound, and each is stretched or cut
by a random factor, so that many that wait for the same thing do not all come back at once.

## Numbers

Delays are exact. They are fractions of nanoseconds that are never rounded, as short and as long as
the profile makes them, and the factor is any fraction. Numbers of a machine are narrower: a factor
of 64 binary digits may be infinite or no number at all, a product may be lost for being too small,
and durations end at 2 ^ 64 seconds. None of this is here, so a loop ends without a result in two
cases only: a delay would be negative, or there are more attempts than 32 binary digits can count.
Where an event tells a pause in milliseconds, what is left of the last one is cut off.
-/

namespace WebhookTrust

/-- A profile of pauses. Delays are in nanoseconds; a profile with no attempts at all does not limit
them. -/
structure Backoff where
  maxAttempts : Nat
  initialDelay : Nat
  maxDelay : Nat
  multiplier : Rat
deriving DecidableEq, Repr, Inhabited

namespace Backoff

/-! ### Profiles -/

/-- The number of nanoseconds in a millisecond. -/
def millisecond : Nat := 1000 * 1000

/-- The number of nanoseconds in a second. -/
def second : Nat := 1000 * millisecond

/-- Unlimited attempts, from a tenth of a second up to half a minute. -/
def unlimited : Backoff := ⟨0, 100 * millisecond, 30 * second, 2⟩

/-- As many attempts as given, with the pauses of `unlimited`. -/
def limited (attempts : Nat) : Backoff := { unlimited with maxAttempts := attempts }

/-- For checks of the certificates: ten attempts, from ten milliseconds up to a minute. -/
def refresh : Backoff := ⟨10, 10 * millisecond, 60 * second, 2⟩

/-- For waiting until certificates are in place: ten attempts, from a second up to a quarter of an
hour. -/
def readiness : Backoff := ⟨10, second, 15 * 60 * second, 2⟩

/-! ### Pauses -/

/-- Was this attempt the last one? -/
def isExhausted (config : Backoff) (attempt : Nat) : Bool :=
  config.maxAttempts ≠ 0 && config.maxAttempts ≤ attempt

/-- The pause that follows a pause, if it is not negative. -/
def nextDelay? (config : Backoff) (delay : Rat) : Option Rat :=
  let grown := delay * config.multiplier
  let next := if (config.maxDelay : Rat) < grown then (config.maxDelay : Rat) else grown
  if next < 0 then none else some next

/-- Attempts are counted with 32 binary digits. -/
def attemptBound : Nat := Nat.pow 2 32 - 1

end Backoff

/-! ### Surroundings -/

/-- What the loops need from where they run. -/
class MonadBackoff (m : Type → Type) where
  /-- A random factor, at least a half and less than one and a half. -/
  jitter : m Rat
  /-- Waits for that many nanoseconds. -/
  pause : Rat → m Unit
  log : LogEvent → m Unit
  /-- Ends everything without a result. -/
  crash {α : Type} : m α

namespace Backoff

open MonadBackoff

variable {m : Type → Type} [Monad m] [MonadBackoff m] {ε α : Type}

/-! ### Repeating an operation -/

/-- The field that gives a pause in whole milliseconds. -/
def delayField (ns : Rat) : String × LogValue :=
  ("delay_ms", .number (ns / millisecond).floor.toNat)

/-- The event of an attempt that is followed by another after a pause. -/
def retrying (operation : String) (attempt : Nat) (error : String) (ns : Rat) : LogEvent :=
  ⟨.warn, "Operation failed, retrying",
    [("operation", .text operation), ("attempt", .number attempt), ("error", .text error),
      delayField ns]⟩

/-- The event of the last attempt. -/
def gaveUp (operation : String) (attempt : Nat) (error : String) : LogEvent :=
  ⟨.error, "Operation failed after max retries",
    [("operation", .text operation), ("attempt", .number attempt), ("error", .text error)]⟩

/-- Repeats an operation, with `attempt` attempts behind and at most `remaining` left to count. -/
def retryFrom (config : Backoff) (name : String) (describe : ε → String)
    (operation : m (Except ε α)) : Nat → Nat → Rat → m (Except ε α)
  | 0, _, _ => crash
  | remaining + 1, attempt, delay => do
    match ← operation with
    | .ok result => return .ok result
    | .error e =>
      if config.isExhausted (attempt + 1) then
        log (gaveUp name (attempt + 1) (describe e))
        return .error e
      else
        let ns := delay * (← jitter)
        log (retrying name (attempt + 1) (describe e) ns)
        pause ns
        match config.nextDelay? delay with
        | some next =>
          retryFrom config name describe operation remaining (attempt + 1) next
        | none => crash

/-- Repeats an operation until it succeeds or the attempts are used up; then the last error
stands. -/
def retry (config : Backoff) (name : String) (describe : ε → String)
    (operation : m (Except ε α)) : m (Except ε α) :=
  retryFrom config name describe operation attemptBound 0 config.initialDelay

/-! ### Waiting for a condition -/

/-- The event of a question that is followed by another after a pause. -/
def polling (condition : String) (attempt : Nat) (ns : Rat) : LogEvent :=
  ⟨.debug, "Condition not met, polling again",
    [("condition", .text condition), ("attempt", .number attempt), delayField ns]⟩

/-- Asks for a condition, with `attempt` questions behind and at most `remaining` left to count. -/
def pollFrom (config : Backoff) (name : String) (condition : m Bool) : Nat → Nat → Rat → m Bool
  | 0, _, _ => crash
  | remaining + 1, attempt, delay => do
    if ← condition then return true
    else if config.isExhausted (attempt + 1) then return false
    else
      let ns := delay * (← jitter)
      log (polling name (attempt + 1) ns)
      pause ns
      match config.nextDelay? delay with
      | some next => pollFrom config name condition remaining (attempt + 1) next
      | none => crash

/-- Asks for a condition until it holds or the attempts are used up, and says which. -/
def poll (config : Backoff) (name : String) (condition : m Bool) : m Bool :=
  pollFrom config name condition attemptBound 0 config.initialDelay

end Backoff

end WebhookTrust
