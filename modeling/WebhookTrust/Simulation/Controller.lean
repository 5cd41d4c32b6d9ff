import WebhookTrust.Controller.Watch
import WebhookTrust.Store.ApiServer

/-!
# A controller at work

A controller follows the changes of an API server through its watches, and makes a pass when one is
due. Several reasons for a pass at different times become one pass at the earliest of them; a pass
is made only for a Secret that the watches have shown.

* `ControllerRun.follow`: all changes are followed, in the order in which they were made, each by
  all watches;
* `ControllerRun.pass`: a pass that fails is due again after a delay, and a change in between may
  bring it forward.

Passes have no effects that take time here, so nothing happens while one is made.
-/

namespace WebhookTrust.Simulation

/-- A controller and the server that it works against. Times are in milliseconds. -/
structure ControllerRun where
  reconciler : Reconciler
  server : ApiServer
  time : Nat
  /-- The Secrets that exist, as far as the watches have shown. -/
  known : List (SecretKey × Metadata)
  /-- The Secrets for which a pass is due, with the time. -/
  due : List (SecretKey × Nat)
  isInjected : Bool
  isStopped : Bool
  /-- The requests for single objects, the last one first. -/
  requests : List ApiRequest
  log : List LogEvent

namespace ControllerRun

/-- A controller that has seen nothing yet. -/
def fresh (reconciler : Reconciler) (server : ApiServer) : ControllerRun :=
  ⟨reconciler, server, 0, [], [], false, false, [], []⟩

/-! ### Becoming due -/

/-- Makes a pass due at a time, unless one is due before. -/
def schedule (run : ControllerRun) (key : SecretKey) (time : Nat) : ControllerRun :=
  let earliest := ((Assoc.get? key run.due).map (min time)).getD time
  { run with due := Assoc.put key earliest run.due }

/-- The collection that the object at a path belongs to. -/
def collectionOf (path : String) : String :=
  String.ofList ((path.toList.reverse.dropWhile (· ≠ '/')).drop 1).reverse

/-- Takes note of a Secret that is there or is there no longer. -/
def noteSecret (run : ControllerRun) (isDeletion : Bool) (metadata : Metadata) : ControllerRun :=
  let key := Reconciler.subjectOf metadata
  if isDeletion then { run with known := Assoc.erase key run.known }
  else { run with known := Assoc.put key metadata run.known }.schedule key run.time

/-- What a watch makes of a change. -/
def observe (change : ApiChange) (run : ControllerRun) (watch : Watch) : ControllerRun :=
  match (change.object.get? "metadata").bind Metadata.ofJson? with
  | none => run
  | some metadata =>
    if collectionOf change.path = watch.collection ∧ watch.admits metadata.displayName then
      match watch.subject with
      | .secret => run.noteSecret change.isDeletion metadata
      | .consumers kind =>
        match run.reconciler.trigger? kind metadata with
        | some key => run.schedule key run.time
        | none => run
    else run

/-- Follows all changes that have not been followed, in the order in which they were made. -/
def follow (run : ControllerRun) : ControllerRun :=
  let start := { run with server := { run.server with changes := [] } }
  run.server.changes.reverse.foldl
    (fun run change ↦ run.reconciler.watches.foldl (observe change) run) start

/-! ### Passes -/

/-- A request to the server, taken down. -/
def request (request : ApiRequest) (run : ControllerRun) : ApiResponse × ControllerRun :=
  let (response, server) := run.server.respond request
  (response, { run with server, requests := request :: run.requests })

/-- Answers an effect of a pass. A pass has no other effects than the first five. -/
def answer (effect : Effect) (run : ControllerRun) : effect.Reply × ControllerRun :=
  match effect with
  | .store call => ApiClient.answer request call run
  | .setInjected => ((), { run with isInjected := true })
  | .isInjected => (run.isInjected, run)
  | .log event => ((), { run with log := event :: run.log })
  | .record _ => ((), run)
  | .now => (⟨0, 0⟩, run)
  | .newKey => (.error .generation, run)
  | .jitter => ((1 : Rat), run)
  | .fileExists _ => (false, run)
  | .wait => (.stop, run)
  | .sleep _ | .notify _ | .fire _ | .await _ | .spawnPollers | .startTicker _ => ((), run)

/-- Makes the pass that is due for a Secret, if it exists; after a failure another is due later. -/
def pass (run : ControllerRun) (key : SecretKey) : ControllerRun :=
  let run := { run with due := Assoc.erase key run.due }
  match Assoc.get? key run.known with
  | none => run
  | some metadata =>
    let (result, run) := (run.reconciler.dispatch metadata).run answer run
    match result with
    | .ok (.ok ()) => run
    | .ok (.error _) | .error _ => run.schedule key (run.time + Reconciler.retryDelay)

/-- The Secret for which a pass is due first, with the time. -/
def nextDue? (run : ControllerRun) : Option (SecretKey × Nat) :=
  run.due.foldl (fun first item ↦
    if first.all (item.2 < ·.2) then some item else first) none

/-- The controller works until a moment has come; `fuel` bounds how many passes it makes. -/
def runUntil (moment : Nat) : Nat → ControllerRun → ControllerRun
  | 0, run => run
  | fuel + 1, run =>
    if run.isStopped then { run with time := moment }
    else
      let run := run.follow
      match run.nextDue? with
      | none => { run with time := moment }
      | some (key, time) =>
        if time < moment then
          runUntil moment fuel ({ run with time := max run.time time }.pass key)
        else { run with time := moment }

/-- The number of passes that are made at most. -/
def passBound : Nat := Nat.pow 2 30

/-- Lets some milliseconds pass. -/
def advance (run : ControllerRun) (ms : Nat) : ControllerRun :=
  runUntil (run.time + ms) passBound run

end ControllerRun

end WebhookTrust.Simulation
