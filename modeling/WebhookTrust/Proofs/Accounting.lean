import WebhookTrust.Proofs.Boundary
import WebhookTrust.Proofs.Booking

/-!
# What the instruments count

However many tasks check certificates, run control loops and bring consumers up to date on one
store, and however often it refuses a call, what the instruments show can be told from what the
store and the callers have seen. A rotation is a write of a Secret that took effect and a check that
returned it; an injection, and a time taken, is a pass that returned; an error is a check in a
control loop that returned an error. A call that is dropped counts nowhere.

A task that is neither at rest nor has ended may be one step behind, with one thing due. So all
accounts balance outright when all tasks wait, and up to what is due at every moment between.

## The theorems, and what each rests on

* `Shared.Balances.answers`, `Shared.Balances.returns`: an effect that is permitted and a return
  keep the balance. Only the task that has its turn matters (`Shared.Balances.replace`), so these
  are equations about what is due of one task before and after.
* `Turn.balances`, `Pool.Inv.step`: so does whatever happens. That the effect is permitted is what
  `Errand.settles_work` says of the task; one that is sent on an errand has nothing due, and one
  that is dropped was at rest.
* `Pool.accounts_of_reaches`: **the instruments count what the store and the callers have seen**, by
  induction on how the pool came about, stated by the names of the instruments. When every task is
  at rest nothing is due (`Work.Settles.eq_nothing`), and the accounts are equations.

The store counts its own writes, and of these only the ones of Secrets are compared; that it counts
exactly those that succeed is shown in `WebhookTrust.Proofs.Numbering`. Times taken are counted, not
measured.
-/

namespace WebhookTrust

open Procedure

/-! ### Books -/

/-- A Secret was written just if a call to write one succeeded. -/
theorem MemoryStore.MayAnswer.secretWrites_eq {store store' : MemoryStore} {call : StoreCall}
    {reply : call.Reply} (h : store.MayAnswer call reply store')
    (hfailed : ∀ e, reply = .error e → store' = store) :
    store'.secretWrites =
      store.secretWrites + [Due.nothing.afterCall call reply].count .written := by
  cases h with
  | refused e | lost e =>
    rw [hfailed e rfl]
    cases call <;> rfl
  | answered =>
    cases call with
    | getSecret key => rfl
    | createSecret secret =>
      rcases store.answer_createSecret_cases secret with ⟨e, h⟩ | ⟨key, -, -, h⟩ <;> rw [h] <;> rfl
    | replaceSecret secret =>
      rcases store.answer_replaceSecret_cases secret with ⟨e, h⟩ | ⟨key, -, -, h⟩ <;> rw [h] <;> rfl
    | getConsumer consumer =>
      rcases store.answer_getConsumer_cases consumer with ⟨e, h⟩ | h <;> rw [h] <;> rfl
    | replaceConsumer consumer object =>
      rcases store.answer_replaceConsumer_cases consumer object with ⟨e, h⟩ | ⟨-, h⟩ <;>
        rw [h] <;> rfl

namespace Shared

/-- How many calls have returned of which that has to be counted. -/
def returned (shared : Shared) (measurement : Measurement) : Nat :=
  shared.returns.countP fun entry ↦ entry.call.measurement? entry.result = some measurement

/-- The books are right, up to what is due. -/
structure Balances (before : MemoryStore) (shared : Shared) (dues : List Due) : Prop where
  writes : before.secretWrites + shared.metrics.count (.rotation .ca) +
    shared.metrics.count (.rotation .leaf) + dues.count .written = shared.store.secretWrites
  counted : ∀ measurement, measurement.IsCounted →
    shared.metrics.count measurement + dues.countP (·.unrecorded? = some measurement) =
      shared.returned measurement + dues.countP (·.recorded? = some measurement)
  timed : ∀ success,
    shared.metrics.timed success = shared.metrics.count (.reconciliation success)

namespace Balances

variable {before : MemoryStore} {shared shared' : Shared} {due due' : Due} {dues dues' : List Due}

/-- It does not matter in which order tasks are listed. -/
theorem perm (h : shared.Balances before dues) (hperm : dues.Perm dues') :
    shared.Balances before dues' where
  writes := hperm.count_eq .written ▸ h.writes
  counted measurement hcounted := by
    rw [← hperm.countP_eq, ← hperm.countP_eq]
    exact h.counted measurement hcounted
  timed := h.timed

theorem cons_nothing (h : shared.Balances before dues) :
    shared.Balances before (.nothing :: dues) where
  writes := h.writes
  counted := h.counted
  timed := h.timed

/-- If one task makes up for what it changes, the books stay right. -/
theorem replace (h : shared.Balances before (due :: dues))
    (hwrites : shared'.metrics.count (.rotation .ca) + shared'.metrics.count (.rotation .leaf) +
        [due'].count .written + shared.store.secretWrites =
      shared.metrics.count (.rotation .ca) + shared.metrics.count (.rotation .leaf) +
        [due].count .written + shared'.store.secretWrites)
    (hcounted : ∀ measurement, measurement.IsCounted →
      shared'.metrics.count measurement + [due'].countP (·.unrecorded? = some measurement) +
          (shared.returned measurement + [due].countP (·.recorded? = some measurement)) =
        shared.metrics.count measurement + [due].countP (·.unrecorded? = some measurement) +
          (shared'.returned measurement + [due'].countP (·.recorded? = some measurement)))
    (htimed : ∀ success,
      shared'.metrics.timed success = shared'.metrics.count (.reconciliation success)) :
    shared'.Balances before (due' :: dues) := by
  have hcons (due : Due) (p : Due → Bool) :
      (due :: dues).countP p = [due].countP p + dues.countP p := by
    rw [← List.singleton_append, List.countP_append]
  obtain ⟨hwrites', hcounted', -⟩ := h
  simp only [List.count, hcons] at hwrites hwrites' hcounted'
  refine ⟨?_, fun measurement hmeasurement ↦ ?_, htimed⟩
  · simp only [List.count, hcons]
    omega
  · have := hcounted measurement hmeasurement
    have := hcounted' measurement hmeasurement
    rw [hcons, hcons]
    omega

/-- A record that makes up for what was due. -/
theorem record {measurement : Measurement} (h : shared.Balances before (due :: dues))
    (hwritten : (if measurement = .rotation .ca then 1 else 0) +
      (if measurement = .rotation .leaf then 1 else 0) + [due'].count .written =
        [due].count .written)
    (hcounted : ∀ other, other.IsCounted →
      (if measurement = other then 1 else 0) + [due'].countP (·.unrecorded? = some other) +
          [due].countP (·.recorded? = some other) =
        [due].countP (·.unrecorded? = some other) + [due'].countP (·.recorded? = some other)) :
    Balances before { shared with metrics := shared.metrics.record measurement }
      (due' :: dues) := by
  have hrecord := shared.metrics.count_record measurement
  have hca := hrecord (.rotation .ca) trivial
  have hleaf := hrecord (.rotation .leaf) trivial
  refine h.replace ?_ (fun other hother ↦ ?_) fun success ↦
    Metrics.timed_record (h.timed success) measurement
  · simp only [hca, hleaf]
    omega
  · have := hcounted other hother
    simp only [hrecord other hother, Shared.returned]
    omega

/-- **An effect that is permitted leaves the books right.** -/
theorem answers {effect : Effect} {reply : effect.Reply} (h : shared.Balances before (due :: dues))
    (hpermits : due.permits effect) (hanswers : shared.Answers effect reply shared') :
    shared'.Balances before (due.next effect reply :: dues) := by
  cases effect with
  | store call =>
    obtain ⟨store, hmay, hfailed, rfl⟩ := hanswers
    obtain rfl := hpermits trivial
    refine h.replace ?_ (fun measurement _ ↦ ?_) h.timed
    · have hnothing : [Due.nothing].count .written = 0 := rfl
      simp only [hmay.secretWrites_eq hfailed, hnothing, Due.next]
      omega
    · rcases Due.nothing.afterCall_eq call reply with hdue | hdue <;>
        simp [Due.next, hdue, Shared.returned, Due.recorded?, Due.unrecorded?]
  | record measurement =>
    obtain rfl := hanswers
    cases measurement with
    | rotation scope =>
      obtain rfl := hpermits
      exact h.record (by cases scope <;> rfl) fun _ _ ↦ by
        simp [Due.next, List.countP_singleton, Due.recorded?, Due.unrecorded?]
    | reconciliation success =>
      obtain rfl := hpermits
      exact h.record rfl fun _ _ ↦ by
        simp [Due.next, List.countP_singleton, Due.recorded?, Due.unrecorded?]
    | rotationError phase =>
      obtain rfl := hpermits
      exact h.record rfl fun _ _ ↦ by
        simp [Due.next, List.countP_singleton, Due.recorded?, Due.unrecorded?]
    | ready value =>
      refine h.record (by simp [Due.next]) fun other hother ↦ ?_
      rw [if_neg (by rintro rfl; exact hother), Nat.zero_add]
      rfl
  | _ =>
    obtain rfl := hanswers
    exact h

/-- **A call returns counted**, or what it was is due from then on. -/
theorem returns {call : Call} {result : call.Result}
    (h : shared.Balances before (.beforeReturn (call.measurement? result) :: dues)) :
    Balances before { shared with returns := ⟨call, result⟩ :: shared.returns }
      (.afterReturn (call.measurement? result) :: dues) := by
  have hreturned (other : Measurement) :
      returned { shared with returns := ⟨call, result⟩ :: shared.returns } other =
        shared.returned other + if call.measurement? result = some other then 1 else 0 := by
    simp [returned, List.countP_cons]
  refine h.replace ?_ (fun other hother ↦ ?_) h.timed
  · rcases call.measurement? result with _ | (_ | _ | _ | _) <;> rfl
  · simp only [hreturned, List.countP_singleton]
    rcases call.measurement? result with _ | (scope | phase | success | value)
    · rfl
    · simp [Due.beforeReturn, Due.afterReturn, Due.recorded?, Due.unrecorded?]
    · simp [Due.beforeReturn, Due.afterReturn, Due.recorded?, Due.unrecorded?]
      omega
    · simp [Due.beforeReturn, Due.afterReturn, Due.recorded?, Due.unrecorded?]
    · have hne : some (Measurement.ready value) ≠ some other := by
        rintro ⟨⟩
        exact hother
      rw [if_neg hne]
      rfl

end Balances

end Shared

/-! ### Turns -/

/-- **A task that has its turn leaves the books right**, and still settles what is due. -/
theorem Turn.balances {before : MemoryStore} {shared shared' : Shared} {work work' : Work}
    {due : Due} {dues : List Due} (h : Turn shared work work' shared') (hsettles : work.Settles due)
    (hbalances : shared.Balances before (due :: dues)) :
    ∃ due', work'.Settles due' ∧ shared'.Balances before (due' :: dues) := by
  cases h with
  | step hanswers => exact ⟨_, hsettles.2 _, hbalances.answers hsettles.1 hanswers⟩
  | inCall hanswers =>
    obtain ⟨⟨hpermits, hrest⟩, hnext⟩ := hsettles
    exact ⟨_, ⟨hrest _ _ rfl, hnext⟩, hbalances.answers hpermits hanswers⟩
  | returns =>
    obtain ⟨rfl, hnext⟩ := hsettles
    exact ⟨_, hnext _, hbalances.returns⟩
  | @halts call halt next =>
    refine ⟨due, ?_, hbalances⟩
    cases halt <;> exact hsettles.1
  | drop hrest =>
    -- so a call that is dropped takes nothing with it that is counted by halves
    obtain rfl := hsettles.eq_nothing hrest
    exact ⟨.nothing, rfl, hbalances⟩

/-- One of the tasks, with what it has to settle. -/
theorem exists_append_of_forall₂ {α β : Type} {r : α → β → Prop} {front behind : List α} {a : α}
    {others : List β} (h : List.Forall₂ r (front ++ a :: behind) others) :
    ∃ front' b behind', others = front' ++ b :: behind' ∧ List.Forall₂ r front front' ∧ r a b ∧
      List.Forall₂ r behind behind' := by
  induction front generalizing others with
  | nil =>
    obtain _ | ⟨hr, hbehind⟩ := h
    exact ⟨[], _, _, rfl, .nil, hr, hbehind⟩
  | cons first front ih =>
    obtain _ | ⟨hfirst, hrest⟩ := h
    obtain ⟨front', b, behind', rfl, hfront, hr, hbehind⟩ := ih hrest
    exact ⟨_ :: front', b, behind', rfl, .cons hfirst hfront, hr, hbehind⟩

namespace Pool

/-- The books of a pool are right, and every task settles what is due. -/
structure Inv (before : MemoryStore) (pool : Pool) (dues : List Due) : Prop where
  settles : List.Forall₂ Work.Settles pool.tasks dues
  balances : pool.shared.Balances before dues

variable {before : MemoryStore} {pool pool' : Pool} {dues : List Due}

/-- Before anything has happened the books are right. -/
theorem inv_opening (store : MemoryStore) : (opening store).Inv store [] where
  settles := .nil
  balances :=
    { writes := rfl
      counted measurement _ := by rcases measurement with (_ | _) | (_ | _) | (_ | _) | _ <;> rfl
      timed success := by cases success <;> rfl }

/-- **Whatever happens leaves the books right.** -/
theorem Inv.step (h : pool.Inv before dues) (hstep : pool.Step pool') :
    ∃ dues', pool'.Inv before dues' := by
  cases hstep with
  | send errand hprompt =>
    exact ⟨.nothing :: dues, .cons (errand.settles_work hprompt) h.settles, h.balances.cons_nothing⟩
  | turn htasks hturn =>
    obtain ⟨hsettles, hbalances⟩ := h
    rw [htasks] at hsettles
    obtain ⟨front, due, behind, rfl, hfront, hdue, hbehind⟩ := exists_append_of_forall₂ hsettles
    obtain ⟨due', hdue', hbalances'⟩ := hturn.balances hdue (hbalances.perm List.perm_middle)
    exact ⟨front ++ due' :: behind, List.rel_append hfront (.cons hdue' hbehind),
      hbalances'.perm List.perm_middle.symm⟩
  | others hwrites =>
    exact ⟨dues, h.settles, hwrites ▸ h.balances.writes, h.balances.counted, h.balances.timed⟩

/-- So they are right in every pool that can come about. -/
theorem inv_of_reaches (h : (opening before).Reaches pool) : ∃ dues, pool.Inv before dues := by
  induction h with
  | refl => exact ⟨[], inv_opening before⟩
  | tail _ hstep ih =>
    obtain ⟨dues, hinv⟩ := ih
    exact hinv.step hstep

end Pool

/-! ### Accounts -/

/-- What the instruments show is what the store and the callers have seen, up to what is due. -/
structure Shared.Accounts (before : MemoryStore) (shared : Shared) (dues : List Due) : Prop where
  /-- The rotations are the writes of Secrets that took effect. -/
  writes : before.secretWrites +
    shared.metrics.value "certwarden_cert_rotations_total" "scope=ca" +
    shared.metrics.value "certwarden_cert_rotations_total" "scope=leaf" +
    dues.count .written = shared.store.secretWrites
  /-- In each scope they are the checks that returned such a rotation. -/
  rotations : ∀ scope : RotationScope,
    shared.metrics.value "certwarden_cert_rotations_total" ("scope=" ++ scope.text) =
      shared.returned (.rotation scope) + dues.count (.rotated scope)
  /-- The injections are the passes that returned, by their results. -/
  passes : ∀ success,
    shared.metrics.value "certwarden_ca_injections_total" (Metrics.resultLabel success) =
      shared.returned (.reconciliation success) + dues.count (.passed success)
  /-- As many passes had their time taken. -/
  durations : ∀ success,
    shared.metrics.value "certwarden_reconcile_duration_seconds" (Metrics.resultLabel success) =
      shared.metrics.value "certwarden_ca_injections_total" (Metrics.resultLabel success)
  /-- The errors are the checks of the control loop that returned an error, by their phases. -/
  errors : ∀ phase : RotationPhase,
    shared.metrics.value "certwarden_rotation_errors_total" ("phase=" ++ phase.text) +
      dues.count (.failed phase) = shared.returned (.rotationError phase)

namespace Shared.Balances

variable {before : MemoryStore} {shared : Shared} {due : Due} {dues : List Due}
  {measurement : Measurement}

/-- What is counted when a call is about to return. -/
theorem count_of_recorded (h : shared.Balances before dues)
    (hdue : due.recorded? = some measurement) :
    shared.metrics.count measurement = shared.returned measurement + dues.count due := by
  have hcounted : measurement.IsCounted := by cases due <;> cases hdue <;> trivial
  have hrecorded : dues.countP (·.recorded? = some measurement) = dues.count due := by
    refine List.countP_congr fun other _ ↦ ?_
    cases due <;> cases hdue <;> cases other <;> simp [Due.recorded?]
  have hunrecorded : dues.countP (·.unrecorded? = some measurement) = 0 := by
    refine List.countP_eq_zero.2 fun other _ ↦ ?_
    cases due <;> cases hdue <;> cases other <;> simp [Due.unrecorded?]
  have := h.counted measurement hcounted
  omega

/-- What is counted after a call has returned. -/
theorem count_of_unrecorded (h : shared.Balances before dues)
    (hdue : due.unrecorded? = some measurement) :
    shared.metrics.count measurement + dues.count due = shared.returned measurement := by
  have hcounted : measurement.IsCounted := by cases due <;> cases hdue; trivial
  have hunrecorded : dues.countP (·.unrecorded? = some measurement) = dues.count due := by
    refine List.countP_congr fun other _ ↦ ?_
    cases due <;> cases hdue; cases other <;> simp [Due.unrecorded?]
  have hrecorded : dues.countP (·.recorded? = some measurement) = 0 := by
    refine List.countP_eq_zero.2 fun other _ ↦ ?_
    cases due <;> cases hdue; cases other <;> simp [Due.recorded?]
  have := h.counted measurement hcounted
  omega

/-- Books that are right say what the instruments show. -/
theorem accounts (h : shared.Balances before dues) : shared.Accounts before dues where
  writes := by
    have hca := shared.metrics.value_rotations .ca
    have hleaf := shared.metrics.value_rotations .leaf
    simp only [RotationScope.text] at hca hleaf
    exact hca ▸ hleaf ▸ h.writes
  rotations scope := by
    rw [Metrics.value_rotations]
    exact h.count_of_recorded rfl
  passes success := by
    rw [Metrics.value_injections]
    exact h.count_of_recorded rfl
  durations success := by
    rw [Metrics.value_durations, Metrics.value_injections, h.timed]
  errors phase := by
    rw [Metrics.value_errors]
    exact h.count_of_unrecorded rfl

/-- If every task is at rest, it does not matter how many there are. -/
theorem of_atRest {tasks : List Work} (h : shared.Balances before dues)
    (hdues : List.Forall₂ (fun work due ↦ work.IsAtRest → due = .nothing) tasks dues)
    (hrest : ∀ work ∈ tasks, work.IsAtRest) : shared.Balances before [] := by
  induction hdues with
  | nil => exact h
  | cons hdue _ ih =>
    rw [List.forall_mem_cons] at hrest
    obtain rfl := hdue hrest.1
    exact ih ⟨h.writes, h.counted, h.timed⟩ hrest.2

end Shared.Balances

/-- **The instruments count what the store and the callers have seen.** -/
theorem Pool.accounts_of_reaches {before : MemoryStore} {pool : Pool}
    (h : (opening before).Reaches pool) :
    (∃ dues, List.Forall₂ (fun work due ↦ work.IsAtRest → due = .nothing) pool.tasks dues ∧
      pool.shared.Accounts before dues) ∧
    ((∀ work ∈ pool.tasks, work.IsAtRest) → pool.shared.Accounts before []) := by
  obtain ⟨dues, hinv⟩ := inv_of_reaches h
  have hdues : List.Forall₂ (fun work due ↦ work.IsAtRest → due = .nothing) pool.tasks dues :=
    hinv.settles.imp fun _ _ hsettles ↦ hsettles.eq_nothing
  exact ⟨⟨dues, hdues, hinv.balances.accounts⟩,
    fun hrest ↦ (hinv.balances.of_atRest hdues hrest).accounts⟩

/-- A check of a store without a Secret is counted once, as a rotation of everything. -/
theorem Pool.accounts_of_reaches_absent :
    ∃ pool, (opening (Simulation.sampleWorld none).store).Reaches pool ∧ pool.tasks = [.done] ∧
      pool.shared.Accounts (Simulation.sampleWorld none).store [] ∧
      pool.shared.metrics.value "certwarden_cert_rotations_total" "scope=ca" = 1 := by
  have hplace : Simulation.sampleRotator.IsPlaced (Simulation.sampleScene none) := rfl
  obtain ⟨-, -, -, -, hends, -⟩ := (Rotator.ensures_refresh_of_rotatedCa
    Simulation.isRegular_sample Simulation.isReliableSource_sample hplace
    (by rintro _ rfl; constructor <;> decide) fun _ _ ↦ Rotator.verdict_new _).run
      (Simulation.keptBy_sample (.rotator 0) ⟨0, 0⟩) (Simulation.shows_sample none)
  have honly : Simulation.sampleRotator.refresh.Only Effect.IsChecking :=
    Rotator.only_refresh RotationHook.only_silent
  let sent : Pool := { opening (Simulation.sampleWorld none).store with
    tasks := [(Errand.refresh Simulation.sampleRotator).work] }
  have hsent : (opening (Simulation.sampleWorld none).store).Reaches sent :=
    .single (.send (.refresh Simulation.sampleRotator) RotationHook.isPrompt_silent)
  have htasks : sent.tasks =
      [] ++ .inCall (.check none) Simulation.sampleRotator.refresh (fun _ ↦ .done) :: [] := rfl
  obtain ⟨pool, hreaches, hdone, hreturns⟩ := hsent.exists_run htasks honly rfl rfl
    (Simulation.eq_of_endsWith_sample hends)
  have haccounts := (accounts_of_reaches hreaches).2 (by simp [hdone, Work.IsAtRest])
  refine ⟨pool, hreaches, hdone, haccounts, ?_⟩
  have hreturned : pool.shared.returned (.rotation .ca) = 1 := by
    rw [Shared.returned, hreturns]
    rfl
  exact (haccounts.rotations .ca).trans hreturned

end WebhookTrust
