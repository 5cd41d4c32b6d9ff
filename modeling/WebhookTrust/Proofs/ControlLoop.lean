import WebhookTrust.Proofs.Readiness

/-!
# How a rotator starts, serves and ends

Where one start of a rotator may come to, in whatever order the loop, the pollers, the passes and
the rest of the world take their turns. There are three ways to stand: the first check has not
ended, or it has failed (`Rotator.HasFailed`), or the rotator serves (`Rotator.IsServing`), which
means that any number of later checks have ended in any way (`Rotator.Serves`) and that the loop is
in the round after them (`Rotator.IsInRound`).

## The theorems, and what each rests on

* `Rotator.isLooping_of_comes`: the rounds of the loop follow each other. It goes by induction on
  the rounds that remain; the bound on their number is not reached, since every round takes a tick
  of the clock and the ticks are bounded as well (`Rotator.lt_roundBound`).
* `Rotator.Serves.counts`: **every failed check is counted once.** Nobody but the control loop
  counts (`Service.Inv.counts`, `Service.Inv.drifts`), and it counts where it reports a failure
  (`Rotator.inv_and_counts_of_report`), in the first check as in later ones.
* `Rotator.IsInRound.explains`: **a loop ends only for a reason**, which is a request to stop, or
  the failure signal of a poller. What the signals mean is said in `WebhookTrust.Proofs.Readiness`.
* `Rotator.standing_of_comes`: **however things turn out, a rotator starts, has failed, or serves.**
  The start is taken apart into the first check, the start of the pollers, and the loop, and each
  part is followed by what its own theorem says.

The hook may do what a check may do, and nothing of what is counted. For how long things take see
`WebhookTrust.Proofs.Schedule`.
-/

namespace WebhookTrust

open Procedure

variable {config : Config} {service : Service} {effect : Effect} {reply : effect.Reply}

/-! ### Counts -/

/-- Does the effect change what is counted of checks? -/
def Effect.IsCounted : Effect → Prop
  | .record (.rotationError _) | .wait => True
  | _ => False

theorem Effect.IsChecking.not_isCounted (h : effect.IsChecking) : ¬ effect.IsCounted := by
  cases effect with
  | record measurement => cases measurement <;> first | exact id | exact h.elim
  | wait => exact h.elim
  | _ => exact id

/-- A poller counts nothing of checks. -/
theorem PollerView.not_isCounted {view : PollerView} {k : Poller}
    (h : view.permits config k effect) : ¬ effect.IsCounted := by
  cases effect with
  | record measurement =>
    obtain ⟨-, rfl, -⟩ := h
    exact id
  | wait => exact h.elim
  | _ => exact id

theorem PassView.not_isCounted {view : PassView} (h : view.permits effect) :
    ¬ effect.IsCounted := by
  unfold permits at h
  split at h <;> first | exact id | exact h.elim

namespace Service

/-- In between, so many first and so many later checks were counted as failures, and so many
ticks. -/
structure Counts (before : Service) (firsts failures ticks : Nat) (after : Service) : Prop where
  bootstrapErrors : after.metrics.bootstrapErrors = before.metrics.bootstrapErrors + firsts
  periodicErrors : after.metrics.periodicErrors = before.metrics.periodicErrors + failures
  ticks : after.ticks = before.ticks + ticks

theorem Counts.refl (service : Service) : service.Counts 0 0 0 service := ⟨rfl, rfl, rfl⟩

/-- What is counted adds up. -/
theorem Counts.trans {first second third : Service}
    {firsts firsts' failures failures' ticks ticks' : Nat}
    (h : first.Counts firsts failures ticks second)
    (h' : second.Counts firsts' failures' ticks' third) :
    first.Counts (firsts + firsts') (failures + failures') (ticks + ticks') third where
  bootstrapErrors := by rw [h'.bootstrapErrors, h.bootstrapErrors, Nat.add_assoc]
  periodicErrors := by rw [h'.periodicErrors, h.periodicErrors, Nat.add_assoc]
  ticks := by rw [h'.ticks, h.ticks, Nat.add_assoc]

/-- What is not counted leaves the counts as they are. -/
theorem counts_next (h : ¬ effect.IsCounted) :
    service.Counts 0 0 0 (service.next config effect reply) := by
  cases effect with
  | record measurement =>
    cases measurement with
    | rotation scope => cases scope <;> exact ⟨rfl, rfl, rfl⟩
    | rotationError phase => exact absurd trivial h
    | reconciliation isSuccess => cases isSuccess <;> exact ⟨rfl, rfl, rfl⟩
    | ready value => exact ⟨rfl, rfl, rfl⟩
  | wait => exact absurd trivial h
  | _ => exact ⟨rfl, rfl, rfl⟩

variable {after : Service}

/-- Others count nothing of checks. -/
theorem Inv.counts (h : service.Inv config) (hmove : service.Moves config after) :
    service.Counts 0 0 0 after := by
  cases hmove with
  | @poller k effect rest reply hrest hreply =>
    obtain ⟨hasAwaited, hpoller⟩ := h.poller k
    have hcounts : service.Counts 0 0 0 (service.next config effect reply) :=
      counts_next (PollerView.not_isCounted (hpoller.ensures hrest).1)
    exact ⟨hcounts.bootstrapErrors, hcounts.periodicErrors, hcounts.ticks⟩
  | @pass i effect rest reply hrest hreply =>
    obtain ⟨isDone, isCounted, hensures⟩ := h.pass i
    rw [hrest] at hensures
    have hcounts : service.Counts 0 0 0 (service.next config effect reply) :=
      counts_next (PassView.not_isCounted hensures.1)
    exact ⟨hcounts.bootstrapErrors, hcounts.periodicErrors, hcounts.ticks⟩
  | file | stop => exact ⟨rfl, rfl, rfl⟩

/-- Nor do they when they take any number of turns. -/
theorem Inv.drifts (h : service.Inv config) (hdrifts : (surroundings config).Drifts service after) :
    after.Inv config ∧ service.Counts 0 0 0 after :=
  hdrifts.keeps (fun after ↦ after.Inv config ∧ service.Counts 0 0 0 after)
    (fun h hmove ↦ ⟨h.1.moves hmove, h.2.trans (h.1.counts hmove)⟩) ⟨h, .refl service⟩

/-- Nor does a check. -/
theorem Inv.comes {α : Type} {procedure rest : Procedure α} (h : service.Inv config)
    (hcomes : procedure.Comes (surroundings config) service rest after)
    (honly : procedure.Only Effect.IsChecking) :
    after.Inv config ∧ service.Counts 0 0 0 after := by
  refine (hcomes.keeps_of_only (fun after ↦ after.Inv config ∧ service.Counts 0 0 0 after)
    honly (fun h hmove ↦ ⟨h.1.moves hmove, h.2.trans (h.1.counts hmove)⟩)
    (fun heffect h hanswer ↦ ?_) ⟨h, .refl service⟩).2
  obtain ⟨hreply, rfl⟩ := hanswer
  exact ⟨h.1.next hreply heffect.isControlling, h.2.trans (counts_next heffect.not_isCounted)⟩

/-- The waiting of the control loop ends. -/
def Wakes (config : Config) (before : Service) (wake : Wake) (woken : Service) : Prop :=
  ∃ now, (surroundings config).Drifts before now ∧ now.mayWake wake ∧
    woken = now.next config .wait wake

end Service

/-! ### Rounds -/

namespace Rotator

open Service

variable {rotator : Rotator} {before woken after : Service} {rounds : Nat}
  {rest : Procedure (Except Error Unit)}

/-- A round of the loop with a check of that result. -/
def Round (rotator : Rotator) (before : Service) (result : Except Error RotationOutcome)
    (after : Service) : Prop :=
  ∃ woken checked, before.Wakes rotator.config .tick woken ∧
    rotator.refresh.Comes (surroundings rotator.config) woken (.pure result) checked ∧
    (report result).Comes (surroundings rotator.config) checked (.pure ()) after

/-- Rounds of the loop with checks of these results. -/
inductive Serves (rotator : Rotator) :
    Service → List (Except Error RotationOutcome) → Service → Prop
  | nil (service : Service) : Serves rotator service [] service
  | cons {before between after : Service} {result : Except Error RotationOutcome}
    {results : List (Except Error RotationOutcome)} (hround : rotator.Round before result between)
    (hserves : Serves rotator between results after) :
    Serves rotator before (result :: results) after

/-- What the loop still has to do in a round that has begun in a state, if as many rounds remain
after this one. -/
inductive IsInRound (rotator : Rotator) (remaining : Nat) (before : Service) :
    Procedure (Except Error Unit) → Service → Prop
  /-- The loop waits. -/
  | waiting {service : Service} (h : (surroundings rotator.config).Drifts before service) :
    IsInRound rotator remaining before (rotator.serve (remaining + 1)) service
  /-- A check has not ended yet; after it, the loop goes on. -/
  | checking {woken service : Service} {part : Procedure Unit}
    (hwakes : before.Wakes rotator.config .tick woken)
    (h : rotator.periodicCheck.Comes (surroundings rotator.config) woken part service)
    (hpart : part ≠ .pure ()) :
    IsInRound rotator remaining before (part.bind fun _ ↦ rotator.serve remaining) service
  /-- The loop ends with a result. -/
  | ending {woken service : Service} {wake : Wake} {result : Except Error Unit}
    {rest : Procedure (Except Error Unit)} (hwakes : before.Wakes rotator.config wake woken)
    (hresult : resultOf? wake = some result)
    (h : (stopping result).Comes (surroundings rotator.config) woken rest service) :
    IsInRound rotator remaining before rest service

/-- The loop has gone through rounds and is in the one after them, or has used up its rounds. -/
def IsLooping (rotator : Rotator) (rounds : Nat) (before : Service)
    (rest : Procedure (Except Error Unit)) (service : Service) : Prop :=
  ∃ results between, rotator.Serves before results between ∧
    (results.length = rounds ∧ rest = .stop .crashed ∨
      ∃ remaining, results.length + remaining + 1 = rounds ∧
        rotator.IsInRound remaining between rest service)

theorem IsInRound.isLooping (h : rotator.IsInRound rounds before rest service) :
    rotator.IsLooping (rounds + 1) before rest service :=
  ⟨[], before, .nil before, .inr ⟨rounds, by simp, h⟩⟩

/-- One round first. -/
theorem IsLooping.cons {result : Except Error RotationOutcome}
    (hround : rotator.Round before result after)
    (h : rotator.IsLooping rounds after rest service) :
    rotator.IsLooping (rounds + 1) before rest service := by
  obtain ⟨results, between, hserves, hwhere⟩ := h
  refine ⟨result :: results, between, .cons hround hserves, ?_⟩
  rcases hwhere with ⟨hlength, hcrashed⟩ | ⟨remaining, hlength, hround⟩
  · exact .inl ⟨by rw [List.length_cons, hlength], hcrashed⟩
  · exact .inr ⟨remaining, by rw [List.length_cons]; omega, hround⟩

/-- A check after a tick is a round. -/
theorem Round.of_periodicCheck (hwakes : before.Wakes rotator.config .tick woken)
    (h : rotator.periodicCheck.Comes (surroundings rotator.config) woken (.pure ()) after) :
    ∃ result, rotator.Round before result after := by
  rw [periodicCheck_eq] at h
  rcases h.of_bind with ⟨part, hcheck, hpure⟩ | ⟨result, checked, hcheck, hreport⟩
  · -- the check has ended, and there is nothing to report
    cases part with
    | pure result => exact ⟨result, woken, after, hwakes, hcheck, hpure ▸ .start⟩
    | stop halt => cases hpure
    | step effect next => cases hpure
  · exact ⟨result, woken, checked, hwakes, hcheck, hreport⟩

/-- **Rounds follow each other.** -/
theorem isLooping_of_comes
    (h : (rotator.serve rounds).Comes (surroundings rotator.config) before rest service) :
    rotator.IsLooping rounds before rest service := by
  induction rounds generalizing before with
  | zero => exact ⟨[], before, .nil before, .inl ⟨rfl, h.of_stop.1⟩⟩
  | succ rounds ih =>
    rw [serve_succ] at h
    rcases h.of_step with ⟨rfl, hdrifts⟩ | ⟨now, wake, woken, hdrifts, hanswer, hcomes⟩
    · exact (IsInRound.waiting hdrifts).isLooping
    · have hwakes : before.Wakes rotator.config wake woken := ⟨now, hdrifts, hanswer⟩
      cases wake with
      | tick =>
        rcases Comes.of_bind hcomes with ⟨part, hcheck, rfl⟩ | ⟨⟨⟩, checked, hcheck, hcomes⟩
        · by_cases hpart : part = .pure ()
          · subst hpart
            obtain ⟨result, hround⟩ := Round.of_periodicCheck hwakes hcheck
            exact .cons hround (ih .start)
          · exact (IsInRound.checking hwakes hcheck hpart).isLooping
        · obtain ⟨result, hround⟩ := Round.of_periodicCheck hwakes hcheck
          exact .cons hround (ih hcomes)
      | stop | unmountable | injectionFailed =>
        exact (IsInRound.ending hwakes rfl hcomes).isLooping

/-! ### What is counted -/

/-- The number of checks that have failed. -/
def failures (results : List (Except Error RotationOutcome)) : Nat :=
  results.countP fun result ↦ !result.isOk

theorem failures_cons (result : Except Error RotationOutcome)
    (results : List (Except Error RotationOutcome)) :
    failures (result :: results) = failures [result] + failures results := by
  rw [failures, failures, failures, ← List.singleton_append, List.countP_append]

/-- **A failure that is reported is counted once**, after it was logged. -/
theorem inv_and_counts_of_report {α : Type} {level : LogLevel} {message : String}
    {fields : List (String × LogValue)} {phase : RotationPhase} {result : α} {rest : Procedure α}
    (hinv : before.Inv config)
    (h : ((log level message fields).bind fun _ ↦ .step (.record (.rotationError phase)) fun _ ↦
      .pure result).Comes (surroundings config) before rest after) :
    after.Inv config ∧
      (before.Counts 0 0 0 after ∧
          (rest = ((log level message fields).bind fun _ ↦
              .step (.record (.rotationError phase)) fun _ ↦ .pure result) ∨
            rest = .step (.record (.rotationError phase)) fun _ ↦ .pure result) ∨
        before.Counts (if phase = .bootstrap then 1 else 0) (if phase = .periodic then 1 else 0) 0
          after ∧ rest = .pure result) := by
  rcases comes_of_log h with ⟨hlog, hdrifts⟩ | ⟨now, hdrifts, hcomes⟩
  · obtain ⟨hinv, hcounts⟩ := hinv.drifts hdrifts
    exact ⟨hinv, .inl ⟨hcounts, .inl hlog⟩⟩
  · obtain ⟨hinv, hcounts⟩ := hinv.drifts hdrifts
    rcases Comes.of_step hcomes with ⟨hrecord, hdrifts⟩ |
      ⟨now', ⟨⟩, recorded, hdrifts, ⟨-, rfl⟩, hcomes⟩
    · obtain ⟨hinv, hcounts'⟩ := hinv.drifts hdrifts
      exact ⟨hinv, .inl ⟨hcounts.trans hcounts', .inr hrecord⟩⟩
    · obtain ⟨hinv, hcounts'⟩ := hinv.drifts hdrifts
      obtain ⟨hpure, hdrifts⟩ := hcomes.of_pure
      have hrecorded : now'.Counts (if phase = .bootstrap then 1 else 0)
          (if phase = .periodic then 1 else 0) 0
          (now'.next config (.record (.rotationError phase)) ()) := by
        cases phase <;> exact ⟨rfl, rfl, rfl⟩
      have hinv' : (now'.next config (.record (.rotationError phase)) ()).Inv config :=
        hinv.next trivial trivial
      obtain ⟨hinv, hcounts''⟩ := hinv'.drifts hdrifts
      have hall := ((hcounts.trans hcounts').trans hrecorded).trans hcounts''
      simp only [Nat.zero_add, Nat.add_zero] at hall
      exact ⟨hinv, .inr ⟨hall, hpure⟩⟩

/-- **A later check that has failed is counted once.** -/
theorem report_counts {result : Except Error RotationOutcome} (hinv : before.Inv config)
    (h : (report result).Comes (surroundings config) before (.pure ()) after) :
    after.Inv config ∧ before.Counts 0 (failures [result]) 0 after := by
  cases result with
  | ok outcome => exact hinv.drifts h.of_pure.2
  | error e =>
    rw [report] at h
    obtain ⟨hinv, ⟨-, hlog | hrecord⟩ | ⟨hcounts, -⟩⟩ := inv_and_counts_of_report hinv h
    · cases hlog
    · cases hrecord
    · exact ⟨hinv, hcounts⟩

/-- A round counts its own failure and its own tick. -/
theorem Round.counts (hhook : ∀ outcome, (rotator.hook outcome).Only Effect.IsChecking)
    {result : Except Error RotationOutcome} (hinv : before.Inv rotator.config)
    (h : rotator.Round before result after) :
    after.Inv rotator.config ∧ before.Counts 0 (failures [result]) 1 after ∧
      isRepresentable after.ticks = true := by
  obtain ⟨woken, checked, ⟨now, hdrifts, htick, rfl⟩, hcheck, hreport⟩ := h
  obtain ⟨hinv, hcounts⟩ := hinv.drifts hdrifts
  have hticked : now.Counts 0 0 1 (now.next rotator.config .wait .tick) := ⟨rfl, rfl, rfl⟩
  have hinv' : (now.next rotator.config .wait .tick).Inv rotator.config := hinv.next htick trivial
  obtain ⟨hinv, hcounts'⟩ := hinv'.comes hcheck (only_refresh hhook)
  obtain ⟨hinv, hcounts''⟩ := report_counts hinv hreport
  have hall : before.Counts 0 (0 + failures [result]) 1 after :=
    ((hcounts.trans hticked).trans hcounts').trans hcounts''
  rw [Nat.zero_add] at hall
  refine ⟨hinv, hall, ?_⟩
  rw [hcounts''.ticks, hcounts'.ticks]
  exact htick.2

/-- **Every failed check is counted once.** -/
theorem Serves.counts (hhook : ∀ outcome, (rotator.hook outcome).Only Effect.IsChecking)
    {results : List (Except Error RotationOutcome)} (hinv : before.Inv rotator.config)
    (hticks : isRepresentable before.ticks = true) (h : rotator.Serves before results after) :
    after.Inv rotator.config ∧ before.Counts 0 (failures results) results.length after ∧
      isRepresentable after.ticks = true := by
  induction h with
  | nil service => exact ⟨hinv, .refl service, hticks⟩
  | @cons before between after result results hround _ ih =>
    obtain ⟨hinv, hcounts, hticks⟩ := hround.counts hhook hinv
    obtain ⟨hinv, hcounts', hticks⟩ := ih hinv hticks
    rw [failures_cons, List.length_cons, Nat.add_comm results.length]
    exact ⟨hinv, hcounts.trans hcounts', hticks⟩

/-- There are more rounds than ticks. -/
theorem lt_roundBound {ticks : Nat} (h : isRepresentable ticks = true) : ticks < roundBound := by
  have hlt : ticks / Backoff.second < Nat.pow 2 63 := of_decide_eq_true h
  have hticks : ticks < Nat.pow 2 63 * Backoff.second :=
    (Nat.div_lt_iff_lt_mul (by decide)).1 hlt
  exact Nat.lt_of_lt_of_le hticks (by decide)

/-! ### How the loop ends -/

/-- A request to stop stays, whoever takes a turn. -/
theorem isStopped_of_comes {α : Type} {procedure rest : Procedure α}
    (h : procedure.Comes (surroundings config) before rest after)
    (hstopped : before.isStopped = true) : after.isStopped = true := by
  induction h with
  | start => exact hstopped
  | move _ hmove ih =>
    cases hmove with
    | poller | pass => exact isStopped_next.trans ih
    | file => exact ih
    | stop => rfl
  | step _ hanswer ih =>
    obtain ⟨-, rfl⟩ := hanswer
    exact isStopped_next.trans ih

/-- What has to have happened for a rotator that serves to end with the result. -/
def Explains (service : Service) (result : Except Error Unit) : Prop :=
  result = .ok () ∧ service.isStopped = true ∨
    (∃ cause, result = .error (.terminal cause) ∧ cause.message = "could not mount certs" ∧
      .unmountable ∈ service.fired) ∨
    ∃ cause, result = .error (.terminal cause) ∧
      cause.message = "could not inject certs to webhooks" ∧ .injectionFailed ∈ service.fired

/-- **A loop ends only for a reason.** -/
theorem IsInRound.explains {remaining : Nat} {result : Except Error Unit}
    (h : rotator.IsInRound remaining before (.pure result) service) :
    Explains service result := by
  generalize hrest : Procedure.pure result = rest at h
  cases h with
  | waiting h =>
    rw [serve_succ] at hrest
    cases hrest
  | @checking _ _ part hwakes h hpart =>
    cases part with
    | pure => exact absurd rfl hpart
    | stop halt => cases hrest
    | step effect next => cases hrest
  | @ending woken _ wake result' _ hwakes hresult h =>
    subst hrest
    have hfired := fired_subset_of_comes h
    have hstopped := isStopped_of_comes h
    obtain rfl : result' = result := by
      rcases comes_of_log h with ⟨hlog, -⟩ | ⟨now, -, hpure⟩
      · cases hlog
      · cases hpure.of_pure.1
        rfl
    obtain ⟨now, -, hwake, rfl⟩ := hwakes
    cases wake with
    | tick => cases hresult
    | stop =>
      cases hresult
      exact .inl ⟨rfl, hstopped hwake⟩
    | unmountable =>
      cases hresult
      exact .inr (.inl ⟨_, rfl, rfl, hfired hwake⟩)
    | injectionFailed =>
      cases hresult
      exact .inr (.inr ⟨_, rfl, rfl, hfired hwake⟩)

/-! ### The first check -/

/-- The first check, as far as it has a result, has counted nothing yet. -/
theorem FirstCheck.counts (hhook : ∀ outcome, (rotator.hook outcome).Only Effect.IsChecking)
    {part : Procedure (Except Error RotationOutcome)} (hinv : before.Inv rotator.config)
    (h : rotator.FirstCheck before part service) :
    service.Inv rotator.config ∧ before.Counts 0 0 0 service := by
  obtain ⟨begun, hdrifts, hcheck⟩ := h
  obtain ⟨hinv, hcounts⟩ := hinv.drifts hdrifts
  obtain ⟨hinv, hcounts'⟩ := hinv.comes hcheck (only_refresh hhook)
  exact ⟨hinv, hcounts.trans hcounts'⟩

/-! ### How a rotator stands -/

/-- The first check has no result yet, or the pollers are about to be started. -/
structure IsStarting (rotator : Rotator) (before : Service) (rest : Procedure (Except Error Unit))
    (service : Service) : Prop where
  check : rest = rotator.start ∨ ∃ part, rotator.FirstCheck before part service ∧
    (∀ e, part ≠ .pure (.error e)) ∧ rest = part.bind rotator.afterFirst
  unreturned (result : Except Error Unit) : rest ≠ .pure result
  isDormant : service.IsDormant
  fired : service.fired = []
  counts : before.Counts 0 0 0 service

/-- **The first check has failed**: the error is counted once and returned, nothing else may be
returned, and nothing else happens. -/
structure HasFailed (rotator : Rotator) (before : Service) (e : Error)
    (rest : Procedure (Except Error Unit)) (service : Service) : Prop where
  check : ∃ checked, rotator.FirstCheck before (.pure (.error e)) checked ∧
    (rotator.afterFirst (.error e)).Comes (surroundings rotator.config) checked rest service
  yields_iff (result : Except Halt (Except Error Unit)) :
    rest.Yields result ↔ result = .ok (.error e)
  isDormant : service.IsDormant
  fired : service.fired = []
  counts : ∃ firsts, before.Counts firsts 0 0 service ∧ firsts ≤ 1 ∧
    (rest = .pure (.error e) → firsts = 1)

/-- The first check has succeeded, and the rotator has gone on from there. -/
def HasStarted (rotator : Rotator) (before : Service) (rest : Procedure (Except Error Unit))
    (service : Service) : Prop :=
  ∃ outcome checked, rotator.FirstCheck before (.pure (.ok outcome)) checked ∧
    (rotator.afterFirst (.ok outcome)).Comes (surroundings rotator.config) checked rest service

/-- **The first check has succeeded and the rotator serves**: after checks with any results, each
failure of which was counted once, the loop is in its next round, and it ends only for a reason. -/
structure IsServing (rotator : Rotator) (before : Service) (rest : Procedure (Except Error Unit))
    (service : Service) : Prop where
  served : rest = rotator.loop ∧ rotator.HasStarted before rest service ∨
    ∃ begun results between remaining,
      rotator.HasStarted before (rotator.serve roundBound) begun ∧
        rotator.Serves begun results between ∧
        before.Counts 0 (failures results) results.length between ∧
        results.length + remaining + 1 = roundBound ∧
        rotator.IsInRound remaining between rest service
  explains (result : Except Error Unit) (h : rest = .pure result) : Explains service result

/-- The report of a first check that has failed is all that is left to do. -/
theorem hasFailed_of_comes (hhook : ∀ outcome, (rotator.hook outcome).Only Effect.IsChecking)
    (hfresh : before.IsFresh rotator.config) {e : Error} {checked : Service}
    (hcheck : rotator.FirstCheck before (.pure (.error e)) checked)
    (h : (rotator.afterFirst (.error e)).Comes (surroundings rotator.config) checked rest
      service) : rotator.HasFailed before e rest service := by
  obtain ⟨hinv, hcounts⟩ := hcheck.counts hhook hfresh.inv
  have hdormant := (hcheck.isDormant hhook hfresh.inv hfresh.isDormant).2
  obtain ⟨hinv', hdormant⟩ :=
    isDormant_of_comes h (rotator.only_afterFirst_error e) hinv hdormant
  have hfired := hinv'.fired_eq_nil hdormant
  have hcomes : ∃ checked, rotator.FirstCheck before (.pure (.error e)) checked ∧
    (rotator.afterFirst (.error e)).Comes (surroundings rotator.config) checked rest service :=
    ⟨checked, hcheck, h⟩
  obtain ⟨-, ⟨hcounts', rfl | rfl⟩ | ⟨hcounts', rfl⟩⟩ := inv_and_counts_of_report hinv h
  · exact ⟨hcomes, fun _ ↦ ⟨fun ⟨_, _, h⟩ ↦ h, fun h ↦ ⟨(), (), h⟩⟩, hdormant, hfired, 0,
      hcounts.trans hcounts', by decide, nofun⟩
  · exact ⟨hcomes, fun _ ↦ ⟨fun ⟨_, h⟩ ↦ h, fun h ↦ ⟨(), h⟩⟩, hdormant, hfired, 0,
      hcounts.trans hcounts', by decide, nofun⟩
  · exact ⟨hcomes, fun _ ↦ Iff.rfl, hdormant, hfired, 1, hcounts.trans hcounts', by decide,
      fun _ ↦ rfl⟩

/-- A first check that has no result yet, or has succeeded, leaves the pollers to be started. -/
theorem isStarting_of_firstCheck
    (hhook : ∀ outcome, (rotator.hook outcome).Only Effect.IsChecking)
    (hfresh : before.IsFresh rotator.config) {part : Procedure (Except Error RotationOutcome)}
    (h : rotator.FirstCheck before part service) (hpart : ∀ e, part ≠ .pure (.error e)) :
    rotator.IsStarting before (part.bind rotator.afterFirst) service := by
  obtain ⟨hinv, hdormant⟩ := h.isDormant hhook hfresh.inv hfresh.isDormant
  refine ⟨.inr ⟨part, h, hpart, rfl⟩, ?_, hdormant, hinv.fired_eq_nil hdormant,
    (h.counts hhook hfresh.inv).2⟩
  intro result
  cases part with
  | pure checked =>
    cases checked with
    | ok outcome => exact nofun
    | error e => exact absurd rfl (hpart e)
  | stop halt => exact nofun
  | step effect next => exact nofun

/-- What has started comes about from the start. -/
theorem HasStarted.comes (h : rotator.HasStarted before rest service) :
    rotator.start.Comes (surroundings rotator.config) before rest service := by
  obtain ⟨outcome, checked, ⟨begun, hdrifts, hcheck⟩, hrest⟩ := h
  have hlogged : rotator.start.Comes (surroundings rotator.config) before
      (rotator.refresh.bind rotator.afterFirst) before := by
    rw [start_eq]
    exact comes_log
  exact ((hlogged.drift hdrifts).trans (hcheck.bind rotator.afterFirst)).trans hrest

/-- **A rotator that has begun to serve goes on to.** The bound on the rounds is not reached, since
each begins with a tick. -/
theorem isServing_of_serve (hhook : ∀ outcome, (rotator.hook outcome).Only Effect.IsChecking)
    (hfresh : before.IsFresh rotator.config) {begun : Service}
    (hstarted : rotator.HasStarted before (rotator.serve roundBound) begun)
    (hcounts : before.Counts 0 0 0 begun)
    (h : (rotator.serve roundBound).Comes (surroundings rotator.config) begun rest service) :
    rotator.IsServing before rest service := by
  have hinv := inv_of_comes_start hhook hfresh hstarted.comes
  have hticks : begun.ticks = 0 := hcounts.ticks.trans hfresh.ticks
  obtain ⟨results, between, hserves, hwhere⟩ := isLooping_of_comes h
  obtain ⟨hinv, hcounts', hrepresentable⟩ := hserves.counts hhook hinv (by rw [hticks]; decide)
  have hall := hcounts.trans hcounts'
  simp only [Nat.zero_add] at hall
  have hbound := lt_roundBound hrepresentable
  rw [hcounts'.ticks, hticks, Nat.zero_add] at hbound
  rcases hwhere with ⟨hlength, -⟩ | ⟨remaining, hlength, hround⟩
  · exact absurd hlength (Nat.ne_of_lt hbound)
  · refine ⟨.inr ⟨begun, results, between, remaining, hstarted, hserves, hall, hlength, hround⟩, ?_⟩
    rintro result rfl
    exact hround.explains

/-- A rotator that has started its pollers serves. -/
theorem isServing_of_loop (hhook : ∀ outcome, (rotator.hook outcome).Only Effect.IsChecking)
    (hperiod : rotator.config.checkPeriod ≠ 0)
    (hrepresentable : isRepresentable rotator.config.checkPeriod = true)
    (hfresh : before.IsFresh rotator.config) {spawned : Service}
    (hstarted : rotator.HasStarted before rotator.loop spawned)
    (hcounts : before.Counts 0 0 0 spawned)
    (h : rotator.loop.Comes (surroundings rotator.config) spawned rest service) :
    rotator.IsServing before rest service := by
  have hloop := loop_eq hperiod hrepresentable
  have hinv := inv_of_comes_start hhook hfresh hstarted.comes
  obtain ⟨outcome, checked, hcheck, hspawned⟩ := hstarted
  rw [hloop] at h hspawned
  rcases h.of_step with ⟨rfl, hdrifts⟩ | ⟨now, ⟨⟩, begun, hdrifts, ⟨-, rfl⟩, hserve⟩
  · exact ⟨.inl ⟨hloop.symm, outcome, checked, hcheck, hspawned.drift hdrifts⟩, fun _ ↦ nofun⟩
  · obtain ⟨hinv, hcounts'⟩ := hinv.drifts hdrifts
    have hticking : now.Counts 0 0 0
        (now.next rotator.config (.startTicker rotator.config.checkPeriod) ()) := ⟨rfl, rfl, rfl⟩
    exact isServing_of_serve hhook hfresh
      ⟨outcome, checked, hcheck, (hspawned.drift hdrifts).step ⟨trivial, rfl⟩⟩
      ((hcounts.trans hcounts').trans hticking) hserve

/-- **However things turn out, a rotator starts, has failed, or serves.** -/
theorem standing_of_comes (hhook : ∀ outcome, (rotator.hook outcome).Only Effect.IsChecking)
    (hperiod : rotator.config.checkPeriod ≠ 0)
    (hrepresentable : isRepresentable rotator.config.checkPeriod = true)
    (hfresh : before.IsFresh rotator.config)
    (h : rotator.start.Comes (surroundings rotator.config) before rest service) :
    rotator.IsStarting before rest service ∨ (∃ e, rotator.HasFailed before e rest service) ∨
      rotator.IsServing before rest service := by
  rcases firstCheck_of_comes h with ⟨rfl, hdrifts⟩ | ⟨part, hcheck, rfl⟩ |
    ⟨e | outcome, checked, hcheck, hrest⟩
  · obtain ⟨hinv, hdormant⟩ := hfresh.inv.isDormant_drifts hfresh.isDormant hdrifts
    refine .inl ⟨.inl rfl, fun _ ↦ ?_, hdormant, hinv.fired_eq_nil hdormant,
      (hfresh.inv.drifts hdrifts).2⟩
    rw [start_eq]
    exact nofun
  · by_cases hpart : ∃ e, part = .pure (.error e)
    · obtain ⟨e, rfl⟩ := hpart
      exact .inr (.inl ⟨e, hasFailed_of_comes hhook hfresh hcheck .start⟩)
    · exact .inl (isStarting_of_firstCheck hhook hfresh hcheck (not_exists.1 hpart))
  · exact .inr (.inl ⟨e, hasFailed_of_comes hhook hfresh hcheck hrest⟩)
  · rcases hrest.of_step with ⟨rfl, hdrifts⟩ | ⟨now, ⟨⟩, spawned, hdrifts, ⟨-, rfl⟩, hloop⟩
    · exact .inl (isStarting_of_firstCheck hhook hfresh (hcheck.drift hdrifts) nofun)
    · have hspawned : now.Counts 0 0 0 (now.next rotator.config .spawnPollers ()) :=
        ⟨rfl, rfl, rfl⟩
      have hcounts := ((hcheck.drift hdrifts).counts hhook hfresh.inv).2
      exact .inr (.inr (isServing_of_loop hhook hperiod hrepresentable hfresh
        ⟨outcome, checked, hcheck, (comes_of_drifts hdrifts).step ⟨trivial, rfl⟩⟩
        (hcounts.trans hspawned) hloop))

/-- The sample may come to return, and then it has served and was asked to stop. -/
theorem standing_of_comes_stopped :
    ∃ service, Simulation.sampleRotator.start.Comes
        (surroundings Simulation.sampleRotator.config)
        (.fresh Simulation.sampleRotator.config) (.pure (.ok ())) service ∧
      service.isStopped = true ∧
      Simulation.sampleRotator.IsServing (.fresh Simulation.sampleRotator.config)
        (.pure (.ok ())) service := by
  have hhook : ∀ outcome, (Simulation.sampleRotator.hook outcome).Only Effect.IsChecking :=
    RotationHook.only_silent
  have hperiod : Simulation.sampleRotator.config.checkPeriod ≠ 0 := by decide
  have hrepresentable : isRepresentable Simulation.sampleRotator.config.checkPeriod = true := by
    decide
  obtain ⟨serving, hserving, -⟩ := Simulation.exists_comes_ready_sample
  obtain ⟨service, hstops⟩ := exists_comes_stopped hperiod hrepresentable serving
  have hcomes := hserving.trans hstops
  rcases standing_of_comes hhook hperiod hrepresentable (isFresh_fresh _) hcomes with
    hstarting | ⟨e, hfailed⟩ | hserves
  · exact absurd rfl (hstarting.unreturned _)
  · cases (hfailed.yields_iff (.ok (.ok ()))).1 rfl
  · rcases hserves.explains _ rfl with ⟨-, hstopped⟩ | ⟨_, hresult, -⟩ | ⟨_, hresult, -⟩
    · exact ⟨service, hcomes, hstopped, hserves⟩
    · cases hresult
    · cases hresult

end Rotator

end WebhookTrust
