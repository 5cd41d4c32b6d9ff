import WebhookTrust.Calendar
import WebhookTrust.Crypto.Rsa
import WebhookTrust.Log
import WebhookTrust.Metrics
import WebhookTrust.Store.Call

/-!
# Effects

All that the program does to the world is one of these effects, and all that it learns is in their
replies. Most are answered at once; pauses, signals that have not fired and the waiting of the
control loop take time.

The replies are typed by the effect (`Effect.Reply`). Of these only calls to the store and the
making of keys can fail; that a pause is cut short or a log is lost is not modelled. Time is read as
an instant; how much of it an effect takes is for the surroundings to say
(`WebhookTrust.Simulation.Scheduler`).
-/

namespace WebhookTrust

/-! ### What effects speak of -/

/-- What a check of the certificates did. -/
inductive RotationOutcome where
  | unchanged | rotatedLeaf | rotatedCa
deriving DecidableEq, Repr, Inhabited

namespace RotationOutcome

/-- The name of an outcome. -/
def text : RotationOutcome → String
  | .unchanged => "Unchanged"
  | .rotatedLeaf => "RotatedLeaf"
  | .rotatedCa => "RotatedCa"

/-- Was the Secret written? -/
def wroteSecret : RotationOutcome → Bool
  | .unchanged => false
  | .rotatedLeaf | .rotatedCa => true

end RotationOutcome

/-- The signals that tell how far a rotator has come. -/
inductive ReadinessSignal where
  /-- The serving certificate is mounted. -/
  | mounted
  /-- The serving certificate was never mounted. -/
  | unmountable
  /-- The authority was never injected. -/
  | injectionFailed
  /-- Certificates are mounted and the authority is injected. -/
  | ready
deriving DecidableEq, Repr, Inhabited

/-- What ends the waiting of the control loop. -/
inductive Wake where
  /-- It is time for a check. -/
  | tick
  /-- The loop is to stop. -/
  | stop
  /-- The certificate is never going to be mounted. -/
  | unmountable
  /-- The authority is never going to be injected. -/
  | injectionFailed
deriving DecidableEq, Repr, Inhabited

/-! ### Effects and replies -/

/-- An effect. -/
inductive Effect where
  | store (call : StoreCall)
  /-- What time is it? -/
  | now
  /-- Makes a new key. -/
  | newKey
  /-- Draws a factor of at least a half and less than one and a half. -/
  | jitter
  /-- Waits for that many nanoseconds. -/
  | sleep (ns : Rat)
  | log (event : LogEvent)
  | record (measurement : Measurement)
  /-- Tells whoever listens that the Secret was written. -/
  | notify (outcome : RotationOutcome)
  /-- Is there a file at the path? -/
  | fileExists (path : String)
  /-- Was the authority injected into the consumers? -/
  | isInjected
  /-- Marks the authority as injected. -/
  | setInjected
  | fire (signal : ReadinessSignal)
  /-- Waits until a signal has fired. -/
  | await (signal : ReadinessSignal)
  /-- Starts the tasks that find out whether the rotator is ready. They end with the task that
  starts them. -/
  | spawnPollers
  /-- From now on it is time for a check whenever that many nanoseconds have passed. -/
  | startTicker (period : Nat)
  /-- Waits for something that concerns the control loop. -/
  | wait
deriving DecidableEq, Repr

/-- The reply to an effect. -/
def Effect.Reply : Effect → Type
  | .store call => call.Reply
  | .now => Instant
  | .newKey => Except KeyFault Rsa.PrivateKey
  | .jitter => Rat
  | .fileExists _ | .isInjected => Bool
  | .wait => Wake
  | .sleep _ | .log _ | .record _ | .notify _ | .setInjected | .fire _ | .await _
  | .spawnPollers | .startTicker _ => Unit

end WebhookTrust
