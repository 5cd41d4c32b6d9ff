import WebhookTrust.Proofs.Boundary
import WebhookTrust.Proofs.Tasks

/-!
# What a service may come to

What may never happen is only worth saying of what can happen at all. Here tasks are given turns and
replies that bring them to where they are to come: a check may have every result that its procedure
yields, a poller is answered that it is so, a pass finds a Secret with an authority.

The turns are chosen, so none of this says that a rotator is ready after some time. It says that the
conditions of the other theorems can be met together, and by which replies.

## The theorems, and what each rests on

* `Service.exists_comes_of_yields`: a check among others comes to what it may yield, and has counted
  what it did. Every reply may be given to a check (`Service.mayReply_of_isChecking`), so the
  replies that lead there may.
* `Service.exists_drifts_ready`: once the pollers are started, the rotator may become ready. Three
  tasks take part, in the order of the data: the file is there and is seen, a pass sets the flag,
  and the flag is seen.
* `Rotator.exists_comes_loop`: a rotator whose first check may succeed may come to serve. It asks
  for a period that a ticker can tell.
* `Simulation.exists_comes_ready_sample`: the sample may come to serve and to be ready.
-/

namespace WebhookTrust

open Procedure

variable {config : Config} {service : Service}

/-! ### Replies -/

/-- What a procedure comes to in a run, it may yield. -/
theorem Procedure.yields_run {α σ : Type} (answer : (effect : Effect) → σ → effect.Reply × σ)
    (procedure : Procedure α) (real : σ) : procedure.Yields (procedure.run answer real).1 := by
  induction procedure generalizing real with
  | pure value => rfl
  | stop halt => rfl
  | step effect next ih => exact ⟨(answer effect real).1, ih _ _⟩

/-- A composition may yield what its second part yields after a result of the first. -/
theorem Procedure.Yields.bind {α β : Type} {first : Procedure α} {next : α → Procedure β}
    {value : α} {result : Except Halt β} (h : first.Yields (.ok value))
    (hnext : (next value).Yields result) : (first.bind next).Yields result := by
  induction first with
  | pure value' =>
    cases h
    exact hnext
  | stop halt => cases h
  | step effect rest ih =>
    obtain ⟨reply, h⟩ := h
    exact ⟨reply, ih reply h⟩

/-- Consumers that are missing do not keep a pass from succeeding. -/
theorem Reconciler.yields_ensureAll (reconciler : Reconciler) (caPem : Bytes) :
    (reconciler.ensureAll caPem).Yields (.ok (.ok ())) := by
  have hfrom : ∀ consumers, (ensureFrom caPem consumers none).Yields (.ok (.ok ())) := by
    intro consumers
    induction consumers with
    | nil => rfl
    | cons consumer consumers ih =>
      have hmissing : (ensure caPem consumer).Yields (.ok (.ok ())) := ⟨.ok none, (), rfl⟩
      exact hmissing.bind ih
  exact hfrom reconciler.consumers

namespace Reconciler

/-- A pass is counted. -/
def count (result : Except Error Unit) : Procedure (Except Error Unit) :=
  .step (.record (.reconciliation result.isOk)) fun _ ↦ .pure result

/-- What a pass does after it has tried to bring the consumers up to date. -/
def finish : Except Error Unit → Procedure (Except Error Unit)
  | .ok () => .step .setInjected fun _ ↦ count (.ok ())
  | .error e => count (.error e)

/-- A pass that has found an authority tries to bring the consumers up to date. -/
theorem propagate_bind_count (reconciler : Reconciler) {secret : Secret} {ca : KeyPair}
    (hpresent : secret.metadata.isDeleting = false) (hauthority : secret.authority = .ok ca) :
    (reconciler.propagate secret).bind count = (reconciler.ensureAll ca.certPem).bind finish := by
  rw [reconciler.propagate_of_loaded hpresent hauthority]
  refine (Procedure.bind_assoc _ _ _).trans (congrArg _ (funext fun result ↦ ?_))
  cases result <;> rfl

end Reconciler

/-- Asking comes first, and an answer in the affirmative is the last. -/
theorem Backoff.exists_poll_eq (backoff : Backoff) (name : String) (condition : Procedure Bool) :
    ∃ next, backoff.poll name condition = condition.bind next ∧ next true = .pure true := by
  have hbound : attemptBound = Nat.pow 2 32 - 2 + 1 := by decide
  rw [poll, hbound, pollFrom]
  exact ⟨_, rfl, rfl⟩

namespace Service

/-! ### The control loop's turns -/

/-- Everything may be replied to the effects of a check. -/
theorem mayReply_of_isChecking {effect : Effect} (h : effect.IsChecking) (reply : effect.Reply) :
    service.mayReply config effect reply := by
  cases effect with
  | fileExists | isInjected | await | wait => exact h.elim
  | _ => trivial

/-- A check counts what it does. -/
theorem exists_metrics_next {effect : Effect} (h : effect.IsChecking) (reply : effect.Reply) :
    ∃ metrics, service.next config effect reply = { service with metrics } := by
  cases effect with
  | record measurement => exact ⟨_, rfl⟩
  | fileExists | isInjected | setInjected | fire | spawnPollers | startTicker | wait =>
    exact h.elim
  | _ => exact ⟨service.metrics, rfl⟩

/-- An event is logged, and nothing else is different. -/
theorem comes_log {α : Type} {level : LogLevel} {message : String}
    {fields : List (String × LogValue)} {next : Unit → Procedure α} :
    ((log level message fields).bind next).Comes (surroundings config) service (next ()) service :=
  Comes.start.step ⟨trivial, rfl⟩

/-- **A check comes to what it may yield**, and has counted what it did. -/
theorem exists_comes_of_yields {α : Type} (service : Service) {procedure : Procedure α} {value : α}
    (honly : procedure.Only Effect.IsChecking) (h : procedure.Yields (.ok value)) :
    ∃ metrics, procedure.Comes (surroundings config) service (.pure value)
      { service with metrics } := by
  induction procedure generalizing service with
  | pure value' =>
    cases h
    exact ⟨service.metrics, .start⟩
  | stop halt => cases h
  | step effect next ih =>
    obtain ⟨reply, h⟩ := h
    obtain ⟨between, hnext⟩ : ∃ metrics, service.next config effect reply =
        { service with metrics } := exists_metrics_next honly.1 reply
    obtain ⟨metrics, hcomes⟩ := ih reply { service with metrics := between } (honly.2 reply) h
    have hfirst : (Procedure.step effect next).Comes (surroundings config) service (next reply)
        { service with metrics := between } :=
      Comes.start.step ⟨mayReply_of_isChecking honly.1 reply, hnext.symm⟩
    exact ⟨metrics, hfirst.trans hcomes⟩

/-! ### Turns of others -/

section Turns

variable {k : Poller} {i : Nat} {found : Option Secret}

theorem setPoller_self {rest : Procedure Unit} (h : service.poller k = some rest) :
    service.setPoller k rest = service := by
  rw [setPoller, ← h, Function.update_eq_self]

theorem setPass_self {pass : Pass} (h : service.pass i = pass) :
    service.setPass i pass = service := by
  rw [setPass, ← h, Function.update_eq_self]

/-- **A poller has an effect.** -/
theorem drifts_setPoller (effect : Effect) {rest : effect.Reply → Procedure Unit}
    (reply : effect.Reply) (hspawn : effect ≠ .spawnPollers)
    (hreply : service.mayReply config effect reply) :
    (surroundings config).Drifts (service.setPoller k (.step effect rest))
      ((service.next config effect reply).setPoller k (rest reply)) := by
  have hmove : (service.setPoller k (.step effect rest)).Moves config _ :=
    .poller (service.poller_setPoller_self _) (show mayReply config _ effect reply by
      cases effect <;> exact hreply)
  have hnext : ((service.setPoller k (.step effect rest)).next config effect reply).setPoller k
      (rest reply) = (service.next config effect reply).setPoller k (rest reply) := by
    cases effect with
    | spawnPollers => exact absurd rfl hspawn
    | wait => cases reply <;> simp [next, setPoller]
    | _ => simp [next, setPoller, afterPoll]
  exact .single (hnext ▸ hmove)

/-- **A pass has an effect.** -/
theorem drifts_setPass (effect : Effect) {rest : effect.Reply → Procedure (Except Error Unit)}
    (reply : effect.Reply) (hreply : service.mayReply config effect reply) :
    (surroundings config).Drifts (service.setPass i ⟨.step effect rest, found⟩)
      ((service.next config effect reply).setPass i
        (Pass.goOn ⟨.step effect rest, found⟩ (rest reply) effect reply)) := by
  have hpass := service.pass_setPass_self (i := i) ⟨.step effect rest, found⟩
  have hmove : (service.setPass i ⟨.step effect rest, found⟩).Moves config _ :=
    .pass (congrArg Pass.rest hpass) (show mayReply config _ effect reply by
      cases effect <;> exact hreply)
  rw [hpass] at hmove
  have hnext : ∀ pass pass' : Pass, ((service.setPass i pass).next config effect reply).setPass i
      pass' = (service.next config effect reply).setPass i pass' := by
    intro pass pass'
    cases effect with
    | wait => cases reply <;> simp [next, setPass]
    | _ => simp [next, setPass, afterPoll]
  exact .single (hnext _ _ ▸ hmove)

/-- A pass comes to what may be done for the consumers. -/
theorem drifts_of_yields {α : Type} {procedure : Procedure α}
    {next : α → Procedure (Except Error Unit)} {value : α}
    (honly : procedure.Only Effect.IsInjecting) (h : procedure.Yields (.ok value)) :
    (surroundings config).Drifts (service.setPass i ⟨procedure.bind next, found⟩)
      (service.setPass i ⟨next value, found⟩) := by
  induction procedure with
  | pure value' =>
    cases h
    exact .refl
  | stop halt => cases h
  | step effect rest ih =>
    obtain ⟨reply, h⟩ := h
    have hturn : (surroundings config).Drifts
        (service.setPass i ⟨(Procedure.step effect rest).bind next, found⟩)
        (service.setPass i ⟨(rest reply).bind next, found⟩) := by
      cases effect with
      | store call =>
        cases call with
        | getConsumer | replaceConsumer => exact drifts_setPass (.store _) reply trivial
        | getSecret | createSecret | replaceSecret => exact honly.1.elim
      | log event => exact drifts_setPass (.log event) reply trivial
      | _ => exact honly.1.elim
    exact .trans hturn (ih reply (honly.2 reply) h)

end Turns

/-! ### Becoming ready -/

/-- A poller that is answered that it is so asks no more. -/
theorem drifts_poll {k : Poller} (name : String) (hmount : k = .mount → service.isMounted = true)
    (hinjection : k = .injection → service.isInjected = true) :
    (surroundings config).Drifts
      (service.setPoller k
        ((config.readinessBackoff.poll name (k.ask config)).bind (k.report config)))
      ((service.afterPoll k true).setPoller k (k.report config true)) := by
  obtain ⟨next, hpoll, htrue⟩ := config.readinessBackoff.exists_poll_eq name (k.ask config)
  have hasks : (surroundings config).Drifts
      (service.setPoller k (((k.ask config).bind next).bind (k.report config)))
      ((service.afterPoll k true).setPoller k ((next true).bind (k.report config))) := by
    cases k with
    | mount =>
      exact drifts_setPoller (.fileExists config.certFile) true nofun fun _ ↦ (hmount rfl).symm
    | injection => exact drifts_setPoller .isInjected true nofun (hinjection rfl).symm
  rw [← hpoll, htrue] at hasks
  exact hasks

/-- The certificate is mounted and the mount poller sees it. -/
theorem exists_drifts_mounted (hpoller : service.poller .mount = some (Poller.task config .mount)) :
    ∃ after, (surroundings config).Drifts service after ∧ .mounted ∈ after.fired ∧
      after.poller .injection = service.poller .injection ∧ after.pass = service.pass := by
  let mounted : Service := { service with isMounted := true }
  let seen : Service := mounted.afterPoll .mount true
  let done : Service := { seen with fired := seen.fired.insert .mounted }
  have hmounted : (surroundings config).Drifts service mounted := .single (.file true)
  have hself : mounted.setPoller .mount (Poller.task config .mount) = mounted :=
    setPoller_self hpoller
  have hseen : (surroundings config).Drifts mounted
      (seen.setPoller .mount (Poller.report config .mount true)) := by
    rw [← hself, Poller.task_mount]
    exact drifts_poll "certs_mounted" (fun _ ↦ rfl) nofun
  have hlogged : (surroundings config).Drifts
      (seen.setPoller .mount (Poller.report config .mount true))
      (seen.setPoller .mount (perform (.fire .mounted))) :=
    drifts_setPoller (.log _) () nofun trivial
  have hdone : (surroundings config).Drifts (seen.setPoller .mount (perform (.fire .mounted)))
      (done.setPoller .mount (.pure ())) :=
    drifts_setPoller (.fire .mounted) () nofun trivial
  refine ⟨_, ((hmounted.trans hseen).trans hlogged).trans hdone, List.mem_insert_self, ?_, rfl⟩
  exact done.poller_setPoller_of_ne (by decide) _

/-- A pass finds an authority and brings all consumers up to date. -/
theorem exists_drifts_injected {i : Nat} {secret : Secret} {ca : KeyPair}
    (hpass : service.pass i = .fresh config) (hpresent : secret.metadata.isDeleting = false)
    (hauthority : secret.authority = .ok ca) :
    ∃ after, (surroundings config).Drifts service after ∧ after.isInjected = true ∧
      after.fired = service.fired ∧ after.poller = service.poller := by
  let reconciler := Reconciler.ofConfig config
  have hread : (surroundings config).Drifts service (service.setPass i
      ⟨(reconciler.ensureAll ca.certPem).bind Reconciler.finish, some secret⟩) := by
    have hturn : (surroundings config).Drifts (service.setPass i (.fresh config)) _ :=
      drifts_setPass (.store (.getSecret config.secretKey)) (.ok (some secret)) trivial
    rw [setPass_self hpass] at hturn
    rw [← reconciler.propagate_bind_count hpresent hauthority]
    exact hturn
  have hdone : (surroundings config).Drifts
      (service.setPass i ⟨(reconciler.ensureAll ca.certPem).bind Reconciler.finish, some secret⟩)
      (service.setPass i ⟨Reconciler.finish (.ok ()), some secret⟩) :=
    drifts_of_yields (reconciler.only_ensureAll ca.certPem)
      (reconciler.yields_ensureAll ca.certPem)
  have hset : (surroundings config).Drifts
      (service.setPass i ⟨Reconciler.finish (.ok ()), some secret⟩)
      (({ service with isInjected := true } : Service).setPass i
        ⟨Reconciler.count (.ok ()), some secret⟩) :=
    drifts_setPass .setInjected () trivial
  exact ⟨_, (hread.trans hdone).trans hset, rfl, rfl, rfl⟩

/-- The injection poller sees that all is done. -/
theorem exists_drifts_announced
    (hpoller : service.poller .injection = some (Poller.task config .injection))
    (hmounted : .mounted ∈ service.fired) (hinjected : service.isInjected = true) :
    ∃ after, (surroundings config).Drifts service after ∧ .ready ∈ after.fired := by
  let polling := (config.readinessBackoff.poll "ca_injected" (Poller.ask config .injection)).bind
    (Poller.report config .injection)
  let seen : Service := service.afterPoll .injection true
  let gauged : Service := { seen with metrics := seen.metrics.record (.ready true) }
  have hawaited : (surroundings config).Drifts service (service.setPoller .injection polling) := by
    have hturn : (surroundings config).Drifts
        (service.setPoller .injection ((perform (.await .mounted)).bind fun _ ↦ polling))
        (service.setPoller .injection polling) :=
      drifts_setPoller (.await .mounted) () nofun hmounted
    rw [← Poller.task_injection, setPoller_self hpoller] at hturn
    exact hturn
  have hseen : (surroundings config).Drifts (service.setPoller .injection polling)
      (seen.setPoller .injection (Poller.report config .injection true)) :=
    drifts_poll "ca_injected" nofun fun _ ↦ hinjected
  have hlogged : (surroundings config).Drifts
      (seen.setPoller .injection (Poller.report config .injection true))
      (seen.setPoller .injection ((perform (.record (.ready true))).bind fun _ ↦
        perform (.fire .ready))) :=
    drifts_setPoller (.log _) () nofun trivial
  have hgauged : (surroundings config).Drifts
      (seen.setPoller .injection ((perform (.record (.ready true))).bind fun _ ↦
        perform (.fire .ready)))
      (gauged.setPoller .injection (perform (.fire .ready))) :=
    drifts_setPoller (.record (.ready true)) () nofun trivial
  have hfired : (surroundings config).Drifts (gauged.setPoller .injection (perform (.fire .ready)))
      (({ gauged with fired := gauged.fired.insert .ready } : Service).setPoller .injection
        (.pure ())) :=
    drifts_setPoller (.fire .ready) () nofun trivial
  exact ⟨_, (((hawaited.trans hseen).trans hlogged).trans hgauged).trans hfired,
    List.mem_insert_self⟩

/-- **Once the pollers are started, the rotator may become ready.** -/
theorem exists_drifts_ready (service : Service) {i : Nat} {secret : Secret} {ca : KeyPair}
    (hpoller : ∀ k, service.poller k = some (Poller.task config k))
    (hpass : service.pass i = .fresh config) (hpresent : secret.metadata.isDeleting = false)
    (hauthority : secret.authority = .ok ca) :
    ∃ after, (surroundings config).Drifts service after ∧ .ready ∈ after.fired := by
  obtain ⟨mounted, hmounts, hfired, hunchanged, hpasses⟩ := exists_drifts_mounted (hpoller .mount)
  obtain ⟨injected, hinjects, hflag, hkept, hpollers⟩ :=
    exists_drifts_injected ((congrFun hpasses i).trans hpass) hpresent hauthority
  have hinjection : injected.poller .injection = some (Poller.task config .injection) := by
    rw [hpollers, hunchanged, hpoller]
  obtain ⟨ready, hannounces, hready⟩ :=
    exists_drifts_announced hinjection (hkept ▸ hfired) hflag
  exact ⟨ready, (hmounts.trans hinjects).trans hannounces, hready⟩

end Service

/-! ### Serving -/

namespace Rotator

open Service

variable {rotator : Rotator}

/-- **A rotator whose first check may succeed may come to serve.** -/
theorem exists_comes_loop (hhook : ∀ outcome, (rotator.hook outcome).Only Effect.IsChecking)
    {outcome : RotationOutcome} (h : rotator.refresh.Yields (.ok (.ok outcome)))
    (service : Service) :
    ∃ metrics, rotator.start.Comes (surroundings rotator.config) service rotator.loop
      { service with metrics, poller := fun k ↦ some (k.task rotator.config) } := by
  obtain ⟨metrics, hcheck⟩ := exists_comes_of_yields service (only_refresh hhook) h
  have hlogged : rotator.start.Comes (surroundings rotator.config) service
      (rotator.refresh.bind rotator.afterFirst) service := by
    rw [start_eq]
    exact comes_log
  have hspawning : rotator.start.Comes (surroundings rotator.config) service
      (.step .spawnPollers fun _ ↦ rotator.loop) { service with metrics } :=
    hlogged.trans (hcheck.bind rotator.afterFirst)
  have hspawns : (surroundings rotator.config).answers { service with metrics } .spawnPollers ()
      { service with metrics, poller := fun k ↦ some (k.task rotator.config) } := ⟨trivial, rfl⟩
  exact ⟨metrics, hspawning.step hspawns⟩

/-- A rotator that serves may be asked to stop, and then ends. -/
theorem exists_comes_stopped (hperiod : rotator.config.checkPeriod ≠ 0)
    (hrepresentable : isRepresentable rotator.config.checkPeriod = true) (service : Service) :
    ∃ after, rotator.loop.Comes (surroundings rotator.config) service (.pure (.ok ())) after := by
  let ticking : Service := { service with isTicking := true }
  let stopped : Service := { ticking with isStopped := true }
  have hbound : roundBound = Nat.pow 2 128 - 1 + 1 := by decide
  have hticks : (surroundings rotator.config).answers service
      (.startTicker rotator.config.checkPeriod) () ticking := ⟨trivial, rfl⟩
  have hwakes : (surroundings rotator.config).answers stopped .wait .stop stopped := ⟨rfl, rfl⟩
  have hserves : rotator.loop.Comes (surroundings rotator.config) service
      (rotator.serve roundBound) ticking := by
    rw [loop_eq hperiod hrepresentable]
    exact Comes.start.step hticks
  have hstopping := hserves.move (.stop : ticking.Moves rotator.config stopped)
  rw [hbound, serve_succ] at hstopping
  exact ⟨stopped, (hstopping.step hwakes).trans comes_log⟩

end Rotator

namespace Simulation

/-- The first check of the sample succeeds in the world in memory. -/
theorem yields_refresh_sample : sampleRotator.refresh.Yields (.ok (.ok .rotatedCa)) := by
  have hplace : sampleRotator.IsPlaced (sampleScene none) := rfl
  obtain ⟨-, -, -, -, hends, -⟩ := (Rotator.ensures_refresh_of_rotatedCa isRegular_sample
    isReliableSource_sample hplace (by rintro _ rfl; constructor <;> decide)
    fun _ _ ↦ Rotator.verdict_new _).run (keptBy_sample (.rotator 0) ⟨0, 0⟩) (shows_sample none)
  rw [← eq_of_endsWith_sample hends]
  exact yields_run _ _ _

/-- **The sample may come to serve and to be ready.** -/
theorem exists_comes_ready_sample :
    ∃ service, sampleRotator.start.Comes (Service.surroundings sampleRotator.config)
      (.fresh sampleRotator.config) sampleRotator.loop service ∧ .ready ∈ service.fired := by
  have hwindow : Issuance.IsWritableWindow (.standard ⟨0, 0⟩) := by constructor <;> decide
  have hload := (Rotator.load_newAuthority isRegular_sample.toIsPlain Rsa.isFit_pierpontKey
    hwindow).1
  let ca := sampleRotator.newAuthority ⟨0, 0⟩ Rsa.pierpontKey
  let secret :=
    (Secret.new sampleRotator.config.secretKey).withCertificates ca ⟨ca.certPem, ca.keyPem⟩
  obtain ⟨metrics, hserves⟩ := sampleRotator.exists_comes_loop RotationHook.only_silent
    yields_refresh_sample (.fresh sampleRotator.config)
  have hpresent : secret.metadata.isDeleting = false := rfl
  have hauthority : secret.authority = .ok ca := Secret.authority_withCertificates hload
  let spawned : Service := { Service.fresh sampleRotator.config with
    metrics
    poller := fun k ↦ some (k.task sampleRotator.config) }
  have hpass : spawned.pass 0 = .fresh sampleRotator.config := rfl
  obtain ⟨service, hdrifts, hready⟩ :=
    spawned.exists_drifts_ready (fun _ ↦ rfl) hpass hpresent hauthority
  exact ⟨service, hserves.drift hdrifts, hready⟩

end Simulation

end WebhookTrust
