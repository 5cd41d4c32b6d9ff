import WebhookTrust.Rotation.Refresh

/-!
# The control loop

A rotator starts with a check that has to succeed. From then on it checks at a fixed period, until
it is stopped or it turns out that serving cannot begin. Later checks may fail without ending the
loop.

The waiting of the loop is one effect (`Effect.wait`), which is answered with what concerns the
loop: a tick, a request to stop, or the failure signal of a poller. Each failure of a check is
counted where it is reported, by its phase.

A loop has no end of its own, and procedures have to; so the rounds are bounded
(`Rotator.roundBound`), by more than there are ticks. That the bound is never reached is shown in
`WebhookTrust.Proofs.ControlLoop`.
-/

namespace WebhookTrust.Rotator

open Procedure

/-- The loop does not go through more rounds than this, since the clock has no more ticks. -/
def roundBound : Nat := Nat.pow 2 128

/-- Can the clock tell a time that is this many nanoseconds ahead? Its seconds have 63 binary
digits. -/
def isRepresentable (period : Nat) : Bool := period / Backoff.second < Nat.pow 2 63

/-- A check at its time. -/
def periodicCheck (rotator : Rotator) : Procedure Unit := do
  match ← rotator.refresh with
  | .ok _ => return
  | .error e =>
    log .error "error rotating certs" [("error", .text e.message)]
    perform (.record (.rotationError .periodic))

/-- What ends the loop, and with which result; a tick does not. -/
def resultOf? : Wake → Option (Except Error Unit)
  | .tick => none
  | .stop => some (.ok ())
  | .unmountable => some (.error (.terminal .neverMounted))
  | .injectionFailed => some (.error (.terminal .neverInjected))

/-- Goes through at most `rounds` rounds. -/
def serve (rotator : Rotator) : Nat → Procedure (Except Error Unit)
  | 0 => .stop .crashed
  | rounds + 1 => do
    match resultOf? (← perform .wait) with
    | none =>
      rotator.periodicCheck
      serve rotator rounds
    | some result =>
      log .info "stopping cert rotator" []
      return result

/-- The first check. -/
def bootstrap (rotator : Rotator) : Procedure (Except Error Unit) := do
  log .info "starting cert rotator" [("secret", .text rotator.config.secretKey.text)]
  match ← rotator.refresh with
  | .ok _ => return .ok ()
  | .error e =>
    log .error "could not refresh cert on startup" [("error", .text e.message)]
    perform (.record (.rotationError .bootstrap))
    return .error e

/-- Runs a rotator until it is stopped or fails. There is no loop without a period that the clock
can tell. -/
def start (rotator : Rotator) : Procedure (Except Error Unit) :=
  rotator.bootstrap.andThen fun () ↦ do
    perform .spawnPollers
    let period := rotator.config.checkPeriod
    if period = 0 ∨ !isRepresentable period then .stop .crashed
    else
      perform (.startTicker period)
      rotator.serve roundBound

end WebhookTrust.Rotator
