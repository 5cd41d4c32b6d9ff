import WebhookTrust.Reconciliation
import WebhookTrust.Simulation.World

/-!
# Time passing in a world

Tasks in the background run one at a time, each until it has to wait. When all of them wait, time
jumps to the first moment that one of them waits for. What the process itself does goes first: tasks
run only while it waits.

Times are whole milliseconds; a sleep ends in the first one that is not before its end. A tick that
was missed by more than a tolerance moves those after it (`Simulation.World.followingTick`). The
recursion over turns is bounded, by more turns than a run of any length that is asked for has.
-/

namespace WebhookTrust.Simulation

/-- The millisecond in which a sleep that begins in one ends. Sleeps are cut to whole nanoseconds,
to the nearest. -/
def wakeTime (now : Nat) (ns : Rat) : Nat := now + World.milliseconds (ns + 1 / 2).floor.toNat

/-! ### Tasks -/

/-- Has the task ended? -/
def Task.hasEnded (task : Task) : Bool :=
  match task.rest with
  | .pure _ | .stop _ => true
  | .step .. => false

/-- Can the task go on in a world? -/
def Task.canRun (world : World) (task : Task) : Bool :=
  match task.rest with
  | .pure _ | .stop _ => false
  | .step (.sleep _) _ => task.due.all (· ≤ world.time)
  | .step (.await signal) _ => world.isFired task.site signal
  | .step .wait _ => (world.wake? task.site).isSome
  | .step .. => true

/-- The millisecond that the task waits for, if it waits for one. -/
def Task.due? (world : World) (task : Task) : Option Nat :=
  match task.rest with
  | .step (.sleep _) _ => task.due
  | .step .wait _ => some (World.milliseconds (world.rotatorAt task.site).nextTick)
  | _ => none

/-- Runs a task of a number until it has to wait. A sleep that has an end has begun before. -/
def advance (setting : Setting) (site : Site) (number : Nat) :
    Procedure (Except Error Unit) → Option Nat → World →
      Procedure (Except Error Unit) × Option Nat × World
  | .pure result, _, world => (.pure result, none, world)
  | .stop halt, _, world =>
    (.stop halt, none, { world with hasExited := world.hasExited || halt = .exited })
  | .step (.sleep ns) next, due, world =>
    let due := due.getD (wakeTime world.time ns)
    if due ≤ world.time then advance setting site number (next ()) none world
    else (.step (.sleep ns) next, some due, world)
  | .step (.await signal) next, _, world =>
    if world.isFired site signal then advance setting site number (next ()) none world
    else (.step (.await signal) next, none, world)
  | .step .wait next, _, world =>
    match world.wake? site with
    | some wake => advance setting site number (next wake) none (world.afterWake site wake)
    | none => (.step .wait next, none, world)
  | .step effect next, _, world =>
    let (reply, world) := world.answer setting site (some number) effect
    advance setting site number (next reply) none world

/-- Ends the tasks that end with a task. -/
def endChildren (number : Nat) (tasks : List Task) : List Task :=
  tasks.map fun task ↦
    if task.parent = some number then { task with rest := .pure (.ok ()) } else task

/-- Runs the task of a number. -/
def runTask (setting : Setting) (world : World) (number : Nat) : World :=
  match world.tasks[number]? with
  | none => world
  | some task =>
    let (rest, due, world) := advance setting task.site number task.rest task.due world
    let task := { task with rest, due }
    let tasks := world.tasks.set number task
    { world with tasks := if task.hasEnded then endChildren number tasks else tasks }

/-! ### Time -/

/-- The first moment that a task waits for. -/
def nextDue? (world : World) : Option Nat :=
  (world.tasks.filterMap (·.due? world)).min?

/-- The tasks run until something is the case or a moment has come; `fuel` bounds how often they are
turned to. -/
def runUntil (setting : Setting) (isDone : World → Bool) (moment : Nat) : Nat → World → World
  | 0, world => world
  | fuel + 1, world =>
    if isDone world || world.hasExited then world
    else
      match world.tasks.findIdx? (·.canRun world) with
      | some number => runUntil setting isDone moment fuel (runTask setting world number)
      | none =>
        let next := (nextDue? world).getD moment
        if next < moment then
          runUntil setting isDone moment fuel { world with time := max world.time next }
        else { world with time := max world.time moment }

/-- The number of times that tasks are turned to at most. -/
def turnBound : Nat := Nat.pow 2 40

/-- Lets some milliseconds pass. -/
def sleep (setting : Setting) (ms : Nat) (world : World) : World :=
  runUntil setting (fun _ ↦ false) (world.time + ms) turnBound world

/-! ### The process itself -/

/-- Answers an effect of the process itself; while it sleeps, time passes. -/
def answerMain (setting : Setting) (site : Site) : (effect : Effect) → World → effect.Reply × World
  | .sleep ns, world =>
    ((), sleep setting (wakeTime world.time ns - world.time) world)
  | effect, world => world.answer setting site none effect

/-- Runs a procedure as the process itself. -/
def runMain {α : Type} (setting : Setting) (site : Site) (procedure : Procedure α)
    (world : World) : Except Halt α × World :=
  let (result, world) := procedure.run (answerMain setting site) world
  match result with
  | .error .exited => (result, { world with hasExited := true })
  | _ => (result, world)

/-! ### Operations -/

/-- The rotator of a setting. -/
def Setting.rotator (setting : Setting) : Rotator := ⟨setting.config, setting.scheme, setting.hook⟩

/-- The reconciler of a setting. -/
def Setting.reconciler (setting : Setting) : Reconciler := .ofConfig setting.config

/-- Starts the control loop of the current rotator. -/
def start (setting : Setting) (world : World) : World :=
  { world with
    tasks := world.tasks ++ [⟨world.current, none, none, setting.rotator.start⟩]
    loop := some world.tasks.length }

/-- Stops the current rotator. -/
def stop (world : World) : World :=
  let site := world.current
  world.setRotator { world.rotatorAt site with isStopped := true } site

/-- Makes or removes the certificate file of the current rotator, and says whether that worked. -/
def setMounted (setting : Setting) (isMounted : Bool) (world : World) : Bool × World :=
  let site := world.current
  let state := world.rotatorAt site
  if setting.hasDirectory && (isMounted || state.isMounted) then
    (true, world.setRotator { state with isMounted } site)
  else (false, world)

/-- A new rotator takes the place of the current one. -/
def restart (world : World) : World :=
  { world with rotators := world.rotators ++ [.fresh], separateInjected := false }

/-- The task of the control loop. -/
def loopTask? (world : World) : Option Task := world.loop.bind fun number ↦ world.tasks[number]?

/-- Is the control loop still running? -/
def isRunning? (world : World) : Option Bool := (loopTask? world).map (!·.hasEnded)

/-- How long the end of the control loop is waited for, in milliseconds: thirty days. -/
def patience : Nat := 30 * 24 * 60 * 60 * 1000

/-- Waits for the control loop to end. -/
def join (setting : Setting) (world : World) : Option (Except Halt (Except Error Unit)) × World :=
  let isDone := fun world ↦ isRunning? world != some true
  let world := runUntil setting isDone (world.time + patience) turnBound world
  let result := (loopTask? world).bind fun task ↦ match task.rest with
    | .pure result => some (.ok result)
    | .stop halt => some (.error halt)
    | .step .. => none
  (result, { world with loop := none })

end WebhookTrust.Simulation
