import Mathlib.Logic.Function.Basic
import WebhookTrust.Proofs.Conduct
import WebhookTrust.Proofs.Interference
import WebhookTrust.Rotation.Readiness

/-!
# A rotator in service

All that concerns one start of a rotator: its signals and its flag, its two pollers, any number of
passes over the consumers, the certificate file, the request to stop, and the ticks of its clock.
Everything takes its turns in any order, one effect at a time, and calls to the store may be
answered with anything.

A service remembers what no program does: what the pollers were answered, which Secret a pass has
found, and how many ticks there were. Signals and flags are not told these things; the memory is
there to say what a signal means, and no program reads it.

The programs themselves are those that run. The control loop is the procedure whose turns are told
by `Procedure.Comes`, while the pollers and the passes are tasks of the state, each with what is
left for it to do. So a poller can be in the middle of a pause while a pass is between its read and
its write, and the loop waits for a tick.

What is proved here is only what an effect leaves alone: a turn of one task is not a turn of another
(`Service.pass_next`, `Service.poller_next`), and a signal that was fired stays fired
(`Service.fired_subset_next`). What the tasks may do is in `WebhookTrust.Proofs.Tasks`, and what
holds of all of them together in `WebhookTrust.Proofs.Readiness`.
-/

namespace WebhookTrust

/-! ### Tasks -/

/-- The tasks that find out whether a rotator is ready. -/
inductive Poller where
  /-- Looks for the certificate file. -/
  | mount
  /-- Asks whether the authority was injected. -/
  | injection
deriving DecidableEq, Repr

namespace Poller

/-- What a poller does. -/
def task (config : Config) : Poller → Procedure Unit
  | .mount => Readiness.ensureMounted config
  | .injection => Readiness.ensureInjected config

/-- The signal that a poller fires when it was answered that it is so. -/
def success : Poller → ReadinessSignal
  | .mount => .mounted
  | .injection => .ready

/-- The signal that a poller fires when it has asked in vain. -/
def failure : Poller → ReadinessSignal
  | .mount => .unmountable
  | .injection => .injectionFailed

theorem success_ne_failure (k : Poller) : k.success ≠ k.failure := by cases k <;> decide

end Poller

/-- A pass over the consumers on its way. -/
structure Pass where
  rest : Procedure (Except Error Unit)
  /-- The Secret that it has found. -/
  found : Option Secret

namespace Pass

/-- A pass that has not begun. -/
def fresh (config : Config) : Pass := ⟨(Reconciler.ofConfig config).reconcile, none⟩

/-- The pass after the reply to an effect. -/
def goOn (pass : Pass) (rest : Procedure (Except Error Unit)) :
    (effect : Effect) → effect.Reply → Pass
  | .store (.getSecret _), .ok found => ⟨rest, found⟩
  | _, _ => { pass with rest }

end Pass

/-! ### States -/

/-- The state of a service. -/
structure Service where
  /-- Is there a certificate file? -/
  isMounted : Bool
  isInjected : Bool
  isStopped : Bool
  isTicking : Bool
  ticks : Nat
  fired : List ReadinessSignal
  metrics : Metrics
  /-- What the pollers still have to do, once they were started. -/
  poller : Poller → Option (Procedure Unit)
  /-- What the pollers were answered, in order. -/
  polls : Poller → List Bool
  pass : Nat → Pass

namespace Service

/-- Nothing has happened yet, apart from what other rotators of the process have recorded. There may
be a certificate file, and the rotator may be asked to stop before it is started. -/
structure IsFresh (config : Config) (service : Service) : Prop where
  isInjected : service.isInjected = false
  isTicking : service.isTicking = false
  ticks : service.ticks = 0
  fired : service.fired = []
  ready : service.metrics.ready ≠ some true
  poller : service.poller = fun _ ↦ none
  polls : service.polls = fun _ ↦ []
  pass : service.pass = fun _ ↦ .fresh config

/-- The first service of a process, before the certificate file appears. -/
def fresh (config : Config) : Service where
  isMounted := false
  isInjected := false
  isStopped := false
  isTicking := false
  ticks := 0
  fired := []
  metrics := .empty
  poller _ := none
  polls _ := []
  pass _ := .fresh config

theorem isFresh_fresh (config : Config) : (fresh config).IsFresh config :=
  ⟨rfl, rfl, rfl, rfl, nofun, rfl, rfl, rfl⟩

/-- The service after a poller was answered. -/
def afterPoll (service : Service) (k : Poller) (answer : Bool) : Service :=
  { service with polls := Function.update service.polls k (service.polls k ++ [answer]) }

theorem polls_afterPoll (service : Service) (k : Poller) (answer : Bool) :
    (service.afterPoll k answer).polls k = service.polls k ++ [answer] :=
  Function.update_self ..

theorem mem_or_eq_of_mem_afterPoll {service : Service} {k : Poller} {answer answer' : Bool}
    (h : answer' ∈ (service.afterPoll k answer).polls k) :
    answer' ∈ service.polls k ∨ answer' = answer := by
  rw [polls_afterPoll, List.mem_append, List.mem_singleton] at h
  exact h

/-- The service in which a poller has something else to do. -/
def setPoller (service : Service) (k : Poller) (rest : Procedure Unit) : Service :=
  { service with poller := Function.update service.poller k (some rest) }

/-- The service in which a pass has come further. -/
def setPass (service : Service) (i : Nat) (pass : Pass) : Service :=
  { service with pass := Function.update service.pass i pass }

section Set

variable (service : Service) {k k' : Poller} {i j : Nat}

theorem poller_setPoller_self (rest : Procedure Unit) :
    (service.setPoller k rest).poller k = some rest :=
  Function.update_self ..

theorem poller_setPoller_of_ne (h : k' ≠ k) (rest : Procedure Unit) :
    (service.setPoller k rest).poller k' = service.poller k' :=
  Function.update_of_ne h ..

theorem pass_setPass_self (pass : Pass) : (service.setPass i pass).pass i = pass :=
  Function.update_self ..

theorem pass_setPass_of_ne (h : j ≠ i) (pass : Pass) :
    (service.setPass i pass).pass j = service.pass j :=
  Function.update_of_ne h ..

end Set

/-! ### Turns -/

/-- May the waiting of the control loop end so? Ticks are due at times that differ, all of which the
clock can tell. -/
def mayWake (service : Service) : Wake → Prop
  | .tick => service.isTicking = true ∧ Rotator.isRepresentable (service.ticks + 1) = true
  | .stop => service.isStopped = true
  | .unmountable => .unmountable ∈ service.fired
  | .injectionFailed => .injectionFailed ∈ service.fired

/-- May an effect be answered so? -/
def mayReply (config : Config) (service : Service) : (effect : Effect) → effect.Reply → Prop
  | .fileExists path, answer => path = config.certFile → answer = service.isMounted
  | .isInjected, answer => answer = service.isInjected
  | .await signal, _ => signal ∈ service.fired
  | .wait, wake => service.mayWake wake
  | _, _ => True

/-- The service after an effect was answered. -/
def next (config : Config) (service : Service) : (effect : Effect) → effect.Reply → Service
  | .record measurement, _ => { service with metrics := service.metrics.record measurement }
  | .fileExists _, answer => service.afterPoll .mount answer
  | .isInjected, answer => service.afterPoll .injection answer
  | .setInjected, _ => { service with isInjected := true }
  | .fire signal, _ => { service with fired := service.fired.insert signal }
  | .spawnPollers, _ => { service with poller := fun k ↦ some (k.task config) }
  | .startTicker _, _ => { service with isTicking := true }
  | .wait, .tick => { service with ticks := service.ticks + 1 }
  | _, _ => service

section Next

variable {config : Config} {service : Service} {effect : Effect} {reply : effect.Reply}

/-- What tasks have to do changes with their own turns only. -/
theorem pass_next : (service.next config effect reply).pass = service.pass := by
  cases effect with
  | wait => cases reply <;> rfl
  | _ => rfl

/-- An effect of the loop leaves the pollers as they are, unless it starts them. -/
theorem poller_next (h : effect ≠ .spawnPollers) :
    (service.next config effect reply).poller = service.poller := by
  cases effect with
  | spawnPollers => exact absurd rfl h
  | wait => cases reply <;> rfl
  | _ => rfl

theorem isStopped_next : (service.next config effect reply).isStopped = service.isStopped := by
  cases effect with
  | wait => cases reply <;> rfl
  | _ => rfl

/-- An effect leaves the flag as it is, unless it sets it. -/
theorem isInjected_next (h : effect ≠ .setInjected) :
    (service.next config effect reply).isInjected = service.isInjected := by
  cases effect with
  | setInjected => exact absurd rfl h
  | wait => cases reply <;> rfl
  | _ => rfl

/-- **A signal that was fired stays fired.** -/
theorem fired_subset_next : service.fired ⊆ (service.next config effect reply).fired := by
  cases effect with
  | fire signal => exact fun _ ↦ List.mem_insert_of_mem
  | wait => cases reply <;> exact List.Subset.refl _
  | _ => exact List.Subset.refl _

end Next

/-- What may happen between two effects of the control loop. -/
inductive Moves (config : Config) (service : Service) : Service → Prop
  /-- A poller has an effect. -/
  | poller {k : Poller} {effect : Effect} {rest : effect.Reply → Procedure Unit}
    {reply : effect.Reply} (hrest : service.poller k = some (.step effect rest))
    (hreply : service.mayReply config effect reply) :
    Moves config service ((service.next config effect reply).setPoller k (rest reply))
  /-- A pass has an effect. -/
  | pass {i : Nat} {effect : Effect} {rest : effect.Reply → Procedure (Except Error Unit)}
    {reply : effect.Reply} (hrest : (service.pass i).rest = .step effect rest)
    (hreply : service.mayReply config effect reply) :
    Moves config service ((service.next config effect reply).setPass i
      ((service.pass i).goOn (rest reply) effect reply))
  /-- The certificate file appears or disappears. -/
  | file (isMounted : Bool) : Moves config service { service with isMounted }
  /-- The rotator is asked to stop. -/
  | stop : Moves config service { service with isStopped := true }

/-- What the control loop of a rotator is among. That the pollers end with the loop is a way of not
taking their turns. -/
def surroundings (config : Config) : Surroundings Service where
  moves := Moves config
  answers service effect reply after :=
    service.mayReply config effect reply ∧ after = service.next config effect reply

end Service

end WebhookTrust
