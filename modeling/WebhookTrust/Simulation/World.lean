import WebhookTrust.Rotation.ControlLoop
import WebhookTrust.Rotation.Readiness
import WebhookTrust.Store.Memory

/-!
# A world in memory

A process with its store, its clocks and its mounted directory, all in memory. Rotators can be
started anew over the same store; each has signals and a directory of its own. Everything that is
random is settled: factors of pauses are one, and keys come from a numbered source.

Calls to the store can be made to fail by descriptions of them (`Simulation.Fault`), each so many
times; such a call is not carried out. Every effect has one answer (`Simulation.World.answer`);
effects that take time are answered as if their time had come, and
`WebhookTrust.Simulation.Scheduler` sees to it that it has.

Theorems are not about this world alone. It is one of the surroundings in which they hold, and the
one in which their samples run.
-/

namespace WebhookTrust.Simulation

/-- What does not change in a world. -/
structure Setting where
  config : Config
  scheme : SignatureScheme
  hook : RotationHook
  /-- The time of day. -/
  clock : Instant
  /-- The keys that are made, by number. -/
  keys : Nat → Except KeyFault Rsa.PrivateKey
  /-- Can the certificate file be created? -/
  hasDirectory : Bool

/-- Calls of a description that are to fail: with a target if there is one in the description. -/
structure Fault where
  call : String
  times : Nat
  error : Error
deriving DecidableEq, Repr

/-- How far a rotator has come. -/
structure RotatorState where
  isMounted : Bool
  isInjected : Bool
  isStopped : Bool
  fired : List ReadinessSignal
  /-- When it is time for the next check, in nanoseconds. -/
  nextTick : Nat
  period : Nat
deriving DecidableEq, Repr, Inhabited

/-- Nothing has happened yet. -/
def RotatorState.fresh : RotatorState := ⟨false, false, false, [], 0, 0⟩

/-- Whose flags and signals are meant: those of a reconciler of its own, or those of a rotator. -/
inductive Site where
  | separate
  | rotator (index : Nat)
deriving DecidableEq, Repr, Inhabited

/-- A task that runs in the background. -/
structure Task where
  site : Site
  /-- The task with which this one ends. -/
  parent : Option Nat
  /-- When a sleep ends, in milliseconds. -/
  due : Option Nat
  rest : Procedure (Except Error Unit)

/-- The state of a world. Times are in milliseconds since its beginning; what happened last stands
first. -/
structure World where
  time : Nat
  keysMade : Nat
  store : MemoryStore
  faults : List Fault
  metrics : Metrics
  calls : List StoreCall
  log : List LogEvent
  notified : List RotationOutcome
  separateInjected : Bool
  rotators : List RotatorState
  tasks : List Task
  /-- The number of the task of the control loop. -/
  loop : Option Nat
  hasExited : Bool

namespace World

/-- The world in the beginning. -/
def fresh : World where
  time := 0
  keysMade := 0
  store := .empty
  faults := []
  metrics := .empty
  calls := []
  log := []
  notified := []
  separateInjected := false
  rotators := [.fresh]
  tasks := []
  loop := none
  hasExited := false

/-! ### Rotators -/

/-- The site of the rotator that was started last. -/
def current (world : World) : Site := .rotator (world.rotators.length - 1)

/-- The state of the rotator at a site. -/
def rotatorAt (world : World) : Site → RotatorState
  | .separate => { RotatorState.fresh with isInjected := world.separateInjected }
  | .rotator index => world.rotators.getD index .fresh

/-- Changes the state of the rotator at a site. -/
def setRotator (world : World) (state : RotatorState) : Site → World
  | .separate => { world with separateInjected := state.isInjected }
  | .rotator index => { world with rotators := world.rotators.set index state }

/-- Is a signal of the rotator at a site fired? -/
def isFired (world : World) (site : Site) (signal : ReadinessSignal) : Bool :=
  signal ∈ (world.rotatorAt site).fired

/-! ### Failing calls -/

/-- The first of the faults for calls of a description, and what is left of all of them. -/
def takeFault (call : String) : List Fault → Option (Error × List Fault)
  | [] => none
  | fault :: rest =>
    if fault.call = call ∧ fault.times ≠ 0 then
      some (fault.error, { fault with times := fault.times - 1 } :: rest)
    else (takeFault call rest).map fun (e, rest) ↦ (e, fault :: rest)

/-- Makes a call, unless it is to fail. A fault for calls with the target of this one goes first. -/
def answerCall (world : World) (call : StoreCall) : call.Reply × World :=
  let world := { world with calls := call :: world.calls }
  match (takeFault call.text world.faults).or (takeFault call.verb world.faults) with
  | some (e, faults) => (.error e, { world with faults })
  | none =>
    let (reply, store) := world.store.answer call
    (reply, { world with store })

/-! ### The control loop's waiting -/

/-- The number of nanoseconds in a millisecond. -/
def tickLength : Nat := Backoff.millisecond

/-- The first whole millisecond that is not before a number of nanoseconds. -/
def milliseconds (ns : Nat) : Nat := (ns + tickLength - 1) / tickLength

/-- How late a check may be, in nanoseconds, without delaying the ones after it. -/
def tolerance : Nat := 5 * tickLength

/-- The time of the check after this one: a period later, counted from when this one was to be, or
from now if that is long ago. -/
def followingTick (world : World) (state : RotatorState) : Nat :=
  let now := world.time * tickLength
  if state.nextTick + tolerance < now then now + state.period else state.nextTick + state.period

/-- What concerns the control loop at a site now, if anything does. -/
def wake? (world : World) (site : Site) : Option Wake :=
  let state := world.rotatorAt site
  if milliseconds state.nextTick ≤ world.time then some .tick
  else if state.isStopped then some .stop
  else if .unmountable ∈ state.fired then some .unmountable
  else if .injectionFailed ∈ state.fired then some .injectionFailed
  else none

/-- The world after the control loop at a site was woken. -/
def afterWake (world : World) (site : Site) (wake : Wake) : World :=
  let state := world.rotatorAt site
  match wake with
  | .tick => world.setRotator { state with nextTick := world.followingTick state } site
  | .stop | .unmountable | .injectionFailed => world

/-! ### Effects that take no time -/

/-- The pollers of a rotator. -/
def pollers (setting : Setting) (site : Site) (parent : Option Nat) : List Task :=
  [Readiness.ensureMounted setting.config, Readiness.ensureInjected setting.config].map
    fun poller ↦ ⟨site, parent, none, poller.bind fun () ↦ .pure (.ok ())⟩

/-- Answers an effect, as the task of a number at a site. Effects that take time are answered as if
it had passed. -/
def answer (setting : Setting) (site : Site) (task : Option Nat) (world : World) :
    (effect : Effect) → effect.Reply × World
  | .store call => world.answerCall call
  | .now => (setting.clock, world)
  | .newKey => (setting.keys world.keysMade, { world with keysMade := world.keysMade + 1 })
  | .jitter => ((1 : Rat), world)
  | .sleep _ => ((), world)
  | .log event => ((), { world with log := event :: world.log })
  | .record measurement => ((), { world with metrics := world.metrics.record measurement })
  | .notify outcome => ((), { world with notified := outcome :: world.notified })
  | .fileExists _ => ((world.rotatorAt site).isMounted, world)
  | .isInjected => ((world.rotatorAt site).isInjected, world)
  | .setInjected =>
    ((), world.setRotator { world.rotatorAt site with isInjected := true } site)
  | .fire signal =>
    let state := world.rotatorAt site
    if signal ∈ state.fired then ((), world)
    else ((), world.setRotator { state with fired := signal :: state.fired } site)
  | .await _ => ((), world)
  | .spawnPollers => ((), { world with tasks := world.tasks ++ pollers setting site task })
  | .startTicker period =>
    let state := world.rotatorAt site
    ((), world.setRotator
      { state with nextTick := world.time * tickLength + period, period } site)
  | .wait =>
    let wake := (world.wake? site).getD .stop
    (wake, world.afterWake site wake)

end World

end WebhookTrust.Simulation
