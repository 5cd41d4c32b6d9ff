import WebhookTrust.Proofs.Numbering
import WebhookTrust.Rotation.Readiness

/-!
# Errands and the calls that they make

Checks and passes are called: by themselves, or a check by the control loop, which does something
about its result. A procedure does not show where a call begins and ends. Work (`Work`) does: it is
what a task still has to do, with the call that it is in.

* `Errand.procedure_work`: **nothing is done but what the errand is.** Work without its calls is the
  procedure of the errand, so nothing of what a task does is made up here. It goes by the parts of
  the control loop (`Rotator.procedure_served`, `Rotator.procedure_started`).
* `Pool.Reaches`: in a pool any number of tasks take turns, one effect at a time, on one store and
  one set of instruments. A call to the store is answered as it should be or refused; a task can be
  dropped whenever it waits; others may change the store without a write that is counted; and what
  calls have returned is kept.
* `Pool.Reaches.exists_of_procedure`, `Pool.Reaches.exists_run`: **what a task does while the others
  rest can come about**, whatever the surroundings answer of what a pool may answer. So the pools of
  this module are not fewer than the runs of the program.

A hook of the user is taken to have effects that take no time and are not counted
(`RotationHook.IsPrompt`), and to end or exit; those that a configuration can ask for are such
(`RotationHook.isPrompt_ofConfig`). Tasks are dropped only where they wait, since in between no
other task has a turn. What is due of a task in between is in `WebhookTrust.Proofs.Booking`.
-/

namespace WebhookTrust

open Procedure

/-! ### Calls -/

/-- A call of a check or of a pass. The control loop calls a check first at the start, and then
periodically; other checks are called by themselves. -/
inductive Call where
  | check (phase : Option RotationPhase)
  | pass
deriving DecidableEq

/-- What a call returns. -/
abbrev Call.Result : Call → Type
  | .check _ => Except Error RotationOutcome
  | .pass => Except Error Unit

/-! ### Work -/

/-- What a task still has to do. -/
inductive Work where
  | done
  | halted (halt : Halt)
  | step (effect : Effect) (next : effect.Reply → Work)
  /-- A call has not returned yet, and what is left of it has to be done first. -/
  | inCall (call : Call) (rest : Procedure call.Result) (next : call.Result → Work)

namespace Work

/-- What has to be done, without the calls. -/
def procedure : Work → Procedure Unit
  | done => .pure ()
  | halted halt => .stop halt
  | step effect next => .step effect fun reply ↦ (next reply).procedure
  | inCall _ rest next => rest.bind fun result ↦ (next result).procedure

/-- A procedure that is no call, and then more. -/
def first {α : Type} : Procedure α → (α → Work) → Work
  | .pure result, next => next result
  | .stop halt, _ => halted halt
  | .step effect rest, next => step effect fun reply ↦ first (rest reply) next

/-- What has to be done first is done first. -/
theorem procedure_first {α : Type} (procedure : Procedure α) (next : α → Work) :
    (first procedure next).procedure = procedure.bind fun result ↦ (next result).procedure := by
  induction procedure with
  | pure result => rfl
  | stop halt => rfl
  | step effect rest ih => exact congrArg (Procedure.step effect) (funext ih)

end Work

/-! ### The control loop -/

namespace Rotator

/-- The rounds of the loop, with their checks as calls. -/
def served (rotator : Rotator) : Nat → Work
  | 0 => .halted .crashed
  | rounds + 1 => .step .wait fun wake ↦
    match resultOf? wake with
    | none => .inCall (.check (some .periodic)) rotator.refresh fun result ↦
      .first (report result) fun _ ↦ served rotator rounds
    | some result => .first (stopping result) fun _ ↦ .done

/-- What is done after the first check has a result. -/
def workAfterFirst (rotator : Rotator) : Except Error RotationOutcome → Work
  | .ok _ => .step .spawnPollers fun _ ↦
    if rotator.config.checkPeriod = 0 ∨ !isRepresentable rotator.config.checkPeriod then
      .halted .crashed
    else .step (.startTicker rotator.config.checkPeriod) fun _ ↦ rotator.served roundBound
  | .error e => .first (rotator.afterFirst (.error e)) fun _ ↦ .done

/-- The control loop, with its checks as calls. -/
def started (rotator : Rotator) : Work :=
  .first (log .info "starting cert rotator" [("secret", .text rotator.config.secretKey.text)])
    fun _ ↦ .inCall (.check (some .bootstrap)) rotator.refresh rotator.workAfterFirst

/-- The rounds of the loop, with their checks as calls, are the rounds of the loop. -/
theorem procedure_served (rotator : Rotator) (rounds : Nat) :
    (rotator.served rounds).procedure = (rotator.serve rounds).bind fun _ ↦ .pure () := by
  induction rounds with
  | zero => rfl
  | succ rounds ih =>
    rw [serve_succ]
    refine congrArg (Procedure.step .wait) (funext fun wake ↦ ?_)
    cases hresult : resultOf? wake with
    | some result =>
      simp only [hresult]
      exact Work.procedure_first (stopping result) _
    | none =>
      simp only [hresult, Work.procedure, Work.procedure_first, ih, periodicCheck_eq, bind_assoc]

/-- Nor is anything else done after the first check. -/
theorem procedure_workAfterFirst (rotator : Rotator) (result : Except Error RotationOutcome) :
    (rotator.workAfterFirst result).procedure =
      (rotator.afterFirst result).bind fun _ ↦ .pure () := by
  cases result with
  | error e => exact Work.procedure_first _ _
  | ok outcome =>
    refine congrArg (Procedure.step .spawnPollers) (funext fun _ ↦ ?_)
    dsimp only [loop]
    split
    · rfl
    · exact congrArg (Procedure.step _) (funext fun _ ↦ rotator.procedure_served roundBound)

/-- So the control loop with its checks as calls is the control loop. -/
theorem procedure_started (rotator : Rotator) :
    rotator.started.procedure = rotator.start.bind fun _ ↦ .pure () := by
  rw [started, Work.procedure_first, start_eq, bind_assoc]
  refine congrArg (Procedure.bind _) (funext fun _ ↦ ?_)
  rw [bind_assoc]
  exact congrArg rotator.refresh.bind (funext rotator.procedure_workAfterFirst)

end Rotator

/-! ### Errands -/

/-- What a task can be sent to do. -/
inductive Errand where
  | refresh (rotator : Rotator)
  | reconcile (reconciler : Reconciler)
  | start (rotator : Rotator)
  /-- The two tasks that find out whether a rotator is ready. -/
  | ensureMounted (config : Config)
  | ensureInjected (config : Config)

namespace Errand

/-- What is done on the errand. -/
def procedure : Errand → Procedure Unit
  | refresh rotator => rotator.refresh.bind fun _ ↦ .pure ()
  | reconcile reconciler => reconciler.reconcile.bind fun _ ↦ .pure ()
  | start rotator => rotator.start.bind fun _ ↦ .pure ()
  | ensureMounted config => Readiness.ensureMounted config
  | ensureInjected config => Readiness.ensureInjected config

/-- What is done on the errand, with the calls. -/
def work : Errand → Work
  | refresh rotator => .inCall (.check none) rotator.refresh fun _ ↦ .done
  | reconcile reconciler => .inCall .pass reconciler.reconcile fun _ ↦ .done
  | start rotator => rotator.started
  | ensureMounted config => .first (Readiness.ensureMounted config) fun _ ↦ .done
  | ensureInjected config => .first (Readiness.ensureInjected config) fun _ ↦ .done

/-- **Nothing is done but what the errand is.** -/
theorem procedure_work (errand : Errand) : errand.work.procedure = errand.procedure := by
  cases errand with
  | refresh | reconcile => rfl
  | start rotator => exact rotator.procedure_started
  | ensureMounted | ensureInjected => exact (Work.procedure_first _ _).trans (bind_pure _)

end Errand

/-! ### Waiting -/

/-- Does the effect take time, so that others have their turns? -/
def Effect.IsAwaited : Effect → Prop
  | .store _ | .newKey | .sleep _ | .await _ | .wait => True
  | .now | .jitter | .log _ | .record _ | .notify _ | .fileExists _ | .isInjected | .setInjected
  | .fire _ | .spawnPollers | .startTicker _ => False

/-- Does the effect take no time and record nothing? -/
def Effect.IsPrompt : Effect → Prop
  | .now | .jitter | .log _ | .notify _ | .fileExists _ | .isInjected | .setInjected | .fire _
  | .spawnPollers | .startTicker _ => True
  | .store _ | .newKey | .sleep _ | .await _ | .wait | .record _ => False

/-- Does a hook take no time and record nothing, and then go on or end the process? -/
def RotationHook.IsPrompt (hook : RotationHook) : Prop :=
  ∀ outcome, (hook outcome).Only Effect.IsPrompt ∧ ¬ (hook outcome).Yields (.error .crashed)

namespace RotationHook

theorem isPrompt_silent : silent.IsPrompt := fun _ ↦ ⟨trivial, nofun⟩

theorem isPrompt_exiting : exiting.IsPrompt :=
  fun _ ↦ ⟨⟨trivial, fun _ ↦ trivial⟩, fun ⟨_, h⟩ ↦ nomatch h⟩

/-- Every hook that a configuration asks for is prompt. -/
theorem isPrompt_ofConfig (config : Config) : (ofConfig config).IsPrompt := by
  rw [ofConfig]
  split
  · exact isPrompt_exiting
  · exact isPrompt_silent

end RotationHook

/-- Is the hook of the errand, if it has one, prompt? -/
def Errand.IsPrompt : Errand → Prop
  | .refresh rotator | .start rotator => rotator.hook.IsPrompt
  | .reconcile _ | .ensureMounted _ | .ensureInjected _ => True

/-- Does the task wait, or has it ended? A task that has ended the process does neither. -/
def Work.IsAtRest : Work → Prop
  | .done | .halted .crashed => True
  | .step effect _ | .inCall _ (.step effect _) _ => effect.IsAwaited
  | .halted .exited | .inCall _ (.pure _) _ | .inCall _ (.stop _) _ => False

/-! ### Pools -/

/-- A call that returned, and its result. -/
structure Return where
  call : Call
  result : call.Result

/-- What all tasks share, and the calls that have returned to them, the last one first. -/
structure Shared where
  store : MemoryStore
  metrics : Metrics
  returns : List Return

/-- An effect is answered. A call to the store that fails is not carried out. -/
def Shared.Answers (shared : Shared) (effect : Effect) (reply : effect.Reply) (shared' : Shared) :
    Prop :=
  match effect, reply with
  | .store call, reply => ∃ store, shared.store.MayAnswer call reply store ∧
    (∀ e, reply = .error e → store = shared.store) ∧ shared' = { shared with store }
  | .record measurement, _ => shared' = { shared with metrics := shared.metrics.record measurement }
  | _, _ => shared' = shared

/-- A task has its turn. -/
inductive Turn (shared : Shared) : Work → Work → Shared → Prop
  | step {effect : Effect} {next : effect.Reply → Work} {reply : effect.Reply} {shared' : Shared}
    (hanswers : shared.Answers effect reply shared') :
    Turn shared (.step effect next) (next reply) shared'
  | inCall {call : Call} {effect : Effect} {rest : effect.Reply → Procedure call.Result}
    {next : call.Result → Work} {reply : effect.Reply} {shared' : Shared}
    (hanswers : shared.Answers effect reply shared') :
    Turn shared (.inCall call (.step effect rest) next) (.inCall call (rest reply) next) shared'
  | returns {call : Call} {result : call.Result} {next : call.Result → Work} :
    Turn shared (.inCall call (.pure result) next) (next result)
      { shared with returns := ⟨call, result⟩ :: shared.returns }
  | halts {call : Call} {halt : Halt} {next : call.Result → Work} :
    Turn shared (.inCall call (.stop halt) next) (.halted halt) shared
  /-- The task is dropped, with the calls that it is in. -/
  | drop {work : Work} (hrest : work.IsAtRest) : Turn shared work .done shared

/-- Tasks, and what they share. -/
structure Pool where
  shared : Shared
  tasks : List Work

namespace Pool

/-- Something happens: a task is sent on an errand, or has its turn, or others change the store
without a write that is counted. -/
inductive Step (pool : Pool) : Pool → Prop
  | send (errand : Errand) (hprompt : errand.IsPrompt) :
    Step pool { pool with tasks := errand.work :: pool.tasks }
  | turn {before behind : List Work} {work work' : Work} {shared : Shared}
    (htasks : pool.tasks = before ++ work :: behind) (hturn : Turn pool.shared work work' shared) :
    Step pool ⟨shared, before ++ work' :: behind⟩
  | others {store : MemoryStore} (hwrites : store.secretWrites = pool.shared.store.secretWrites) :
    Step pool { pool with shared := { pool.shared with store } }

/-- Pools that can come about. -/
def Reaches : Pool → Pool → Prop := Relation.ReflTransGen Step

/-- The pool of a store, before anything happens. -/
def opening (store : MemoryStore) : Pool := ⟨⟨store, .empty, []⟩, []⟩

end Pool

/-! ### What can come about -/

/-- What has returned before has no influence on answers. -/
theorem Shared.Answers.withReturns {shared shared' : Shared} {effect : Effect}
    {reply : effect.Reply} (h : shared.Answers effect reply shared') (returns : List Return) :
    { shared with returns }.Answers effect reply { shared' with returns } := by
  cases effect with
  | store call =>
    obtain ⟨store, hmay, hfailed, rfl⟩ := h
    exact ⟨store, hmay, hfailed, rfl⟩
  | _ =>
    obtain rfl := h
    rfl

/-- **Whatever a procedure can do in a pool, the work that it is can do**, once calls that are at
their end have returned. -/
theorem Pool.Reaches.exists_of_procedure {first pool : Pool} {front behind : List Work}
    {work : Work} {effect : Effect} {next : effect.Reply → Procedure Unit} {reply : effect.Reply}
    {shared : Shared} (h : first.Reaches pool) (htasks : pool.tasks = front ++ work :: behind)
    (hwork : work.procedure = .step effect next)
    (hanswers : pool.shared.Answers effect reply shared) :
    ∃ pool' work', first.Reaches pool' ∧ pool'.tasks = front ++ work' :: behind ∧
      work'.procedure = next reply ∧ pool'.shared.store = shared.store ∧
        pool'.shared.metrics = shared.metrics := by
  induction work generalizing pool shared with
  | done => cases hwork
  | halted halt => cases hwork
  | step effect' rest =>
    cases hwork
    exact ⟨_, _, h.tail (.turn htasks (.step hanswers)), rfl, rfl, rfl, rfl⟩
  | inCall call rest after ih =>
    cases rest with
    | pure result =>
      -- the call returns, and what follows it may itself be a call at its end
      obtain ⟨pool', work', hreaches, htasks', hwork', hstore, hmetrics⟩ :=
        ih result (h.tail (.turn htasks .returns)) rfl hwork (hanswers.withReturns _)
      exact ⟨pool', work', hreaches, htasks', hwork', hstore, hmetrics⟩
    | stop halt => cases hwork
    | step effect' rest =>
      cases hwork
      exact ⟨_, _, h.tail (.turn htasks (.inCall hanswers)), rfl, rfl, rfl, rfl⟩

/-- The world in memory answers as it may, if nothing goes on by itself. -/
theorem Simulation.exists_answers (setting : Setting) (site : Site) {world : World}
    {shared : Shared} {effect : Effect} (hchecking : effect.IsChecking)
    (hstore : world.store = shared.store) (htasks : world.tasks = []) :
    ∃ shared', shared.Answers effect (answerMain setting site effect world).1 shared' ∧
      shared'.returns = shared.returns ∧
      (answerMain setting site effect world).2.store = shared'.store ∧
      (answerMain setting site effect world).2.tasks = [] := by
  have hsame (hapart : effect.IsApart) :
      (answerMain setting site effect world).2.store = shared.store ∧
        (answerMain setting site effect world).2.tasks = [] := by
    have hsame := sameStore_answerMain setting site htasks hapart
    exact ⟨hsame.store.trans hstore, hsame.tasks⟩
  cases effect with
  | store call =>
    rcases answerCall_cases world call with ⟨e, faults, hfault, -⟩ | hanswer
    · refine ⟨shared, ⟨shared.store, ?_, fun _ _ ↦ rfl, rfl⟩, rfl, ?_, ?_⟩ <;>
        simp only [answerMain, World.answer, hfault]
      · exact .refused e
      · exact hstore
      · exact htasks
    · rw [hstore] at hanswer
      refine ⟨{ shared with store := (shared.store.answer call).2 }, ⟨_, ?_, ?_, rfl⟩, rfl,
        ?_, ?_⟩ <;> simp only [answerMain, World.answer, hanswer]
      · exact .answered
      · exact fun e ↦ shared.store.answer_of_error
      · exact htasks
  | record measurement => exact ⟨_, rfl, rfl, hsame trivial⟩
  | notify => exact ⟨shared, rfl, rfl, hstore, htasks⟩
  | spawnPollers => exact hchecking.elim
  | _ => exact ⟨shared, rfl, rfl, hsame trivial⟩

/-- **What a task does while the others rest can come about.** -/
theorem Pool.Reaches.exists_run {setting : Simulation.Setting} {site : Simulation.Site}
    {world : Simulation.World} {first pool : Pool} {front behind : List Work} {call : Call}
    {rest : Procedure call.Result} {next : call.Result → Work} {result : call.Result}
    (h : first.Reaches pool) (htasks : pool.tasks = front ++ .inCall call rest next :: behind)
    (honly : rest.Only Effect.IsChecking) (hstore : world.store = pool.shared.store)
    (hquiet : world.tasks = [])
    (hresult : (rest.run (Simulation.answerMain setting site) world).1 = .ok result) :
    ∃ pool', first.Reaches pool' ∧ pool'.tasks = front ++ next result :: behind ∧
      pool'.shared.returns = ⟨call, result⟩ :: pool.shared.returns := by
  induction rest generalizing world pool with
  | pure given =>
    obtain rfl : given = result := Except.ok.inj hresult
    exact ⟨_, h.tail (.turn htasks .returns), rfl, rfl⟩
  | stop halt => cases hresult
  | step effect rest ih =>
    obtain ⟨shared, hanswers, hreturns, hstore', hquiet'⟩ :=
      Simulation.exists_answers setting site honly.1 hstore hquiet
    obtain ⟨pool', hreaches, htasks', hreturns'⟩ := ih _ (h.tail (.turn htasks (.inCall hanswers)))
      rfl (honly.2 _) hstore' hquiet' hresult
    exact ⟨pool', hreaches, htasks', hreturns'.trans (congrArg _ hreturns)⟩

end WebhookTrust
