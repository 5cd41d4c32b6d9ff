import WebhookTrust.Proofs.Attempts
import WebhookTrust.Proofs.Errands
import WebhookTrust.Proofs.Instruments

/-!
# Tasks settle what is due

Between a write of a Secret and its count, between a count and the return of the call, and between a
failure in the control loop and its count, something is due of a task (`Due`). A task counts only
what is due, and has no effect that takes time before it has settled it (`Contract.booking`). The
counts are in different places: a rotation is counted in the attempt that writes, a pass when it
ends, and a failed check by the loop that called it.

## The theorems, and what each rests on

* `Work.Settles.eq_nothing`: **nothing is due of a task at rest.** A task rests where it waits, and
  it waits only if nothing is due.
* `Rotator.ensures_rotate_booking`: **a rotation is counted once it is written**, by its scope, and
  not at all if the write fails. Between the two nothing is waited for.
* `Rotator.ensures_refresh_booking`, `Reconciler.ensures_reconcile_booking`: **a check and a pass
  return when they are counted**, however often an attempt is made again. An attempt that fails
  leaves nothing due, so the next begins like the first.
* `Errand.settles_work`: **whatever a task is sent to do, it settles what is due**, whatever it is
  answered. It goes by the kinds of errands, and for the control loop by induction on the rounds
  (`Rotator.settles_served`).

Whether an attempt that writes is one that the store took is not said here: a reply that was lost is
no error that a pool gives. For what comes of lost replies see `WebhookTrust.Proofs.LostReplies`.
-/

namespace WebhookTrust

open Procedure

/-! ### Returns -/

/-- What has to be counted of a call that returns: a rotation by its scope, a pass by its success,
and a check that fails in the control loop by its phase. -/
def Call.measurement? : (call : Call) → call.Result → Option Measurement
  | .check _, .ok .unchanged => none
  | .check _, .ok .rotatedLeaf => some (.rotation .leaf)
  | .check _, .ok .rotatedCa => some (.rotation .ca)
  | .check phase, .error _ => phase.map .rotationError
  | .pass, result => some (.reconciliation result.isOk)

/-! ### What is due -/

/-- What a task has begun and not yet brought to its end. -/
inductive Due where
  | nothing
  /-- The Secret was written, and the rotation is not counted. -/
  | written
  /-- A rotation was counted, and the check has not returned. -/
  | rotated (scope : RotationScope)
  /-- A pass was counted, and has not returned. -/
  | passed (success : Bool)
  /-- A check in the control loop has returned an error, which is not counted. -/
  | failed (phase : RotationPhase)
deriving DecidableEq

namespace Due

/-- What is counted already. -/
def recorded? : Due → Option Measurement
  | rotated scope => some (.rotation scope)
  | passed success => some (.reconciliation success)
  | nothing | written | failed _ => none

/-- What is still to be counted. -/
def unrecorded? : Due → Option Measurement
  | failed phase => some (.rotationError phase)
  | nothing | written | rotated _ | passed _ => none

/-- What is due after a call to the store. -/
def afterCall (due : Due) : (call : StoreCall) → call.Reply → Due
  | .createSecret _, .ok _ | .replaceSecret _, .ok _ => written
  | _, _ => due

theorem afterCall_eq (due : Due) (call : StoreCall) (reply : call.Reply) :
    due.afterCall call reply = due ∨ due.afterCall call reply = written := by
  cases call with
  | createSecret | replaceSecret => cases reply <;> first | exact .inl rfl | exact .inr rfl
  | _ => exact .inl rfl

/-- What is due after an effect. -/
def next (due : Due) : (effect : Effect) → effect.Reply → Due
  | .store call, reply => due.afterCall call reply
  | .record (.rotation scope), _ => rotated scope
  | .record (.reconciliation success), _ => passed success
  | .record (.rotationError _), _ => nothing
  | _, _ => due

/-- May a task have the effect? It counts only what is due, and waits only if nothing is. -/
def permits (due : Due) : Effect → Prop
  | .record (.rotation _) => due = written
  | .record (.reconciliation _) => due = nothing
  | .record (.rotationError phase) => due = failed phase
  | effect => effect.IsAwaited → due = nothing

/-- What is due when a call is about to return. -/
def beforeReturn : Option Measurement → Due
  | some (.rotation scope) => rotated scope
  | some (.reconciliation success) => passed success
  | none | some (.rotationError _) | some (.ready _) => nothing

/-- What is due when a call has returned. -/
def afterReturn : Option Measurement → Due
  | some (.rotationError phase) => failed phase
  | _ => nothing

end Due

/-- The contract of a task with what is due. -/
def Contract.booking : Contract Due where
  permits := Due.permits
  answers due effect reply due' := due' = due.next effect reply

/-- A call returns when it is counted, crashes when nothing is due, or ends the process. -/
def Call.Ends (call : Call) : Except Halt call.Result → Due → Prop
  | .ok result, due => due = .beforeReturn (call.measurement? result)
  | .error .crashed, due => due = .nothing
  | .error .exited, _ => True

/-- Whatever a task is answered, it settles what is due. -/
def Work.Settles : Work → Due → Prop
  | .done, due | .halted .crashed, due => due = .nothing
  | .halted .exited, _ => True
  | .step effect next, due =>
    due.permits effect ∧ ∀ reply, (next reply).Settles (due.next effect reply)
  | .inCall call rest next, due => Ensures .booking call.Ends rest due ∧
    ∀ result, (next result).Settles (.afterReturn (call.measurement? result))

namespace Work

variable {work : Work} {due : Due}

/-- **A task at rest has settled everything.** -/
theorem Settles.eq_nothing (h : work.Settles due) (hrest : work.IsAtRest) : due = .nothing := by
  have hpermits {effect : Effect} (hawaited : effect.IsAwaited) (h : due.permits effect) :
      due = .nothing := by
    cases effect with
    | store | newKey | sleep | await | wait => exact h hawaited
    | _ => exact hawaited.elim
  match work with
  | .done | .halted .crashed => exact h
  | .halted .exited | .inCall _ (.pure _) _ | .inCall _ (.stop _) _ => exact hrest.elim
  | .step _ _ => exact hpermits hrest h.1
  | .inCall _ (.step _ _) _ => exact hpermits hrest h.1.1

end Work

/-! ### Effects that are not booked -/

/-- Does the effect leave what is due as it is, if nothing is? -/
def Effect.IsUnbooked : Effect → Prop
  | .store (.createSecret _) | .store (.replaceSecret _) => False
  | .record measurement => ¬measurement.IsCounted
  | _ => True

/-- An effect that is not booked leaves nothing due. -/
theorem Contract.ignores_booking {effect : Effect} (h : effect.IsUnbooked) :
    Contract.booking.Ignores .nothing effect := by
  cases effect with
  | store call =>
    cases call with
    | createSecret | replaceSecret => exact h.elim
    | _ => exact ⟨fun _ ↦ rfl, fun _ _ hanswer ↦ hanswer⟩
  | record measurement =>
    cases measurement with
    | ready => exact ⟨nofun, fun _ _ hanswer ↦ hanswer⟩
    | _ => exact (h trivial).elim
  | _ => exact ⟨fun _ ↦ rfl, fun _ _ hanswer ↦ hanswer⟩

/-- Prompt effects leave what is due as it is. -/
theorem Contract.ignores_booking_of_isPrompt {effect : Effect} (h : effect.IsPrompt) (due : Due) :
    Contract.booking.Ignores due effect := by
  cases effect with
  | store | newKey | sleep | await | wait | record => exact h.elim
  | _ => exact ⟨fun hawaited ↦ hawaited.elim, fun _ _ hanswer ↦ hanswer⟩

/-- A procedure with such effects only leaves nothing due. -/
theorem Procedure.Only.ensures_booking {α : Type} {procedure : Procedure α}
    (h : procedure.Only Effect.IsUnbooked) :
    Ensures .booking (fun _ due ↦ due = .nothing) procedure .nothing := by
  refine (ensures_of_only (· = .nothing) h ?_ rfl).mono fun _ _ ⟨_, hdue⟩ ↦ hdue
  rintro effect hunbooked due rfl
  exact Contract.ignores_booking hunbooked

theorem Effect.isUnbooked_of_isIssuing (effect : Effect) (h : effect.IsIssuing) :
    effect.IsUnbooked := by
  cases effect with
  | now | newKey | log => trivial
  | _ => exact h.elim

theorem Effect.isUnbooked_of_isIdle (effect : Effect) (h : effect.IsIdle) : effect.IsUnbooked := by
  cases effect <;> first | exact h.elim | trivial

/-! ### Checks -/

theorem Call.ends_halt (call : Call) (halt : Halt) : call.Ends (.error halt) .nothing := by
  cases halt <;> trivial

theorem Call.ends_check_error (phase : Option RotationPhase) (e : Error) :
    (check phase).Ends (.ok (.error e)) .nothing := by
  cases phase <;> rfl

namespace Rotator

variable {rotator : Rotator} {outcome : RotationOutcome} {phase : Option RotationPhase}
  {existed : Bool} {secret : Secret}

/-- A check goes on after something that is not booked. -/
theorem ensures_bind_booking {α : Type} {first : Procedure α}
    {next : α → Procedure (Except Error RotationOutcome)} (hfirst : first.Only Effect.IsUnbooked)
    (hnext : ∀ value, Ensures .booking (Call.check phase).Ends (next value) .nothing) :
    Ensures .booking (Call.check phase).Ends (first.bind next) .nothing := by
  refine (ensures_bind _ _).2 (hfirst.ensures_booking.mono ?_)
  rintro (halt | value) due rfl
  · exact Call.ends_halt _ halt
  · exact hnext value

/-- A check goes on after something that may fail and is not booked. -/
theorem ensures_andThen_booking {α : Type} {first : Procedure (Except Error α)}
    {next : α → Procedure (Except Error RotationOutcome)} (hfirst : first.Only Effect.IsUnbooked)
    (hnext : ∀ value, Ensures .booking (Call.check phase).Ends (next value) .nothing) :
    Ensures .booking (Call.check phase).Ends (first.andThen next) .nothing := by
  refine ensures_bind_booking hfirst fun result ↦ ?_
  rcases result with e | value
  · exact Call.ends_check_error phase e
  · exact hnext value

/-- A write that succeeds is to be counted, one that fails is not. -/
theorem ensures_write_booking : Ensures .booking (fun result due ↦
    result = .ok (.ok ()) ∧ due = .written ∨ ∃ e, result = .ok (.error e) ∧ due = .nothing)
      (write existed secret) .nothing := by
  cases existed <;>
  · refine ⟨fun _ ↦ rfl, ?_⟩
    rintro (e | _) due rfl
    · exact .inr ⟨e, rfl, rfl⟩
    · exact .inl ⟨rfl, rfl⟩

/-- **A rotation is counted once it is written**, by its scope. -/
theorem ensures_rotate_booking (houtcome : outcome ≠ .unchanged) :
    Ensures .booking (Call.check phase).Ends (rotator.rotate outcome existed secret) .nothing := by
  refine ensures_andThen_booking (only_obtainAuthority.mono Effect.isUnbooked_of_isIssuing)
    fun ca ↦ ensures_andThen_booking (only_makeLeaf.mono Effect.isUnbooked_of_isIssuing)
    fun leaf ↦ (ensures_andThen _ _).2 (ensures_write_booking.mono ?_)
  rintro _ _ (⟨rfl, rfl⟩ | ⟨e, rfl, rfl⟩)
  · -- what is written is counted, then logged
    refine ⟨rfl, ?_⟩
    rintro _ _ rfl
    refine ⟨nofun, ?_⟩
    rintro _ _ rfl
    cases outcome with
    | unchanged => exact absurd rfl houtcome
    | rotatedLeaf | rotatedCa => rfl
  · exact Call.ends_check_error phase e

theorem ensures_act_booking :
    Ensures .booking (Call.check phase).Ends (rotator.act existed secret outcome) .nothing := by
  cases outcome with
  | unchanged => exact ensures_of_ignores (Contract.ignores_booking trivial) fun _ ↦ rfl
  | rotatedLeaf | rotatedCa => exact ensures_rotate_booking nofun

/-- An attempt returns when it is counted. -/
theorem ensures_refreshOnce_booking :
    Ensures .booking (Call.check phase).Ends rotator.refreshOnce .nothing := by
  have hread : (call (.getSecret rotator.config.secretKey)).Only Effect.IsUnbooked :=
    ⟨trivial, fun _ ↦ trivial⟩
  have hnow : (perform .now).Only Effect.IsUnbooked := ⟨trivial, fun _ ↦ trivial⟩
  have hfound (found : Option Secret) : (rotator.foundOrNew found).Only Effect.IsUnbooked := by
    cases found with
    | none => exact ⟨trivial, fun _ ↦ trivial⟩
    | some secret => trivial
  rw [refreshOnce_eq]
  refine ensures_andThen_booking hread fun found ↦ ensures_bind_booking (hfound found) fun secret ↦
    ensures_bind_booking hnow fun now ↦ ?_
  cases rotator.horizon? now with
  | none => exact Call.ends_halt _ .crashed
  | some instant =>
    exact ensures_bind_booking (only_assess.mono Effect.isUnbooked_of_isIssuing)
      fun outcome ↦ ensures_act_booking

/-- After the attempts, the hook leaves what is due as it is. -/
theorem ensures_conclude_booking (hhook : rotator.hook.IsPrompt) :
    Ensures .booking (Call.check phase).Ends
      (do
        if outcome.wroteSecret then rotator.hook outcome
        return .ok outcome : Procedure (Except Error RotationOutcome))
      (.beforeReturn ((Call.check phase).measurement? (.ok outcome))) := by
  obtain ⟨honly, hcrash⟩ := hhook outcome
  split
  · refine (ensures_bind _ _).2 ((ensures_of_only (· = _) honly ?_ rfl).mono ?_)
    · rintro effect hprompt due rfl
      exact Contract.ignores_booking_of_isPrompt hprompt _
    · rintro ((_ | _) | _) due ⟨hyields, rfl⟩
      · exact absurd hyields hcrash
      · trivial
      · rfl
  · rfl

/-- **A check returns when it is counted**, however often it is tried again. -/
theorem ensures_refresh_booking (hhook : rotator.hook.IsPrompt) :
    Ensures .booking (Call.check phase).Ends rotator.refresh .nothing := by
  have hattempt : Ensures .booking (Call.check phase).Ends rotator.refreshOnce .nothing :=
    ensures_refreshOnce_booking
  have hidle : ∀ due, due = .nothing → ∀ effect, effect.IsIdle →
      Contract.booking.Ignores due effect := by
    rintro _ rfl effect hidle
    exact Contract.ignores_booking (effect.isUnbooked_of_isIdle hidle)
  -- an attempt that fails leaves nothing due to the next one
  rw [refresh, ensures_andThen]
  refine Backoff.ensures_retryFrom hidle ?_ ?_ ?_ _ _ _ rfl
  · rintro state rfl
    refine hattempt.mono fun result due hends ↦ ⟨?_, fun _ ↦ ?_⟩
    · rintro e rfl
      cases phase <;> exact hends
    · rcases result with halt | (e | outcome)
      · exact hends
      · exact hends
      · obtain rfl := hends
        exact ensures_conclude_booking hhook
  · rintro state e rfl
    exact Call.ends_check_error phase e
  · rintro state rfl
    rfl

end Rotator

/-! ### Passes -/

/-- **A pass returns when it is counted**, which is the last thing that it does. -/
theorem Reconciler.ensures_reconcile_booking (reconciler : Reconciler) :
    Ensures .booking Call.pass.Ends reconciler.reconcile .nothing := by
  have hcalls : ∀ call, reconciler.MayCall call → (Effect.store call).IsUnbooked := by
    intro call hmay
    cases call <;> first | exact hmay.elim | trivial
  have hpass : reconciler.pass.Only Effect.IsUnbooked :=
    only_pass (fun _ ↦ trivial) trivial hcalls
  refine (ensures_bind _ _).2 (hpass.ensures_booking.mono ?_)
  rintro (halt | result) due rfl
  · exact Call.ends_halt _ halt
  · refine ⟨rfl, ?_⟩
    rintro _ _ rfl
    rfl

/-! ### Errands -/

namespace Work

/-- What is not booked, and then work that settles. -/
theorem settles_first_of_only {α : Type} {procedure : Procedure α} {next : α → Work}
    (h : procedure.Only Effect.IsUnbooked) (hnext : ∀ value, (next value).Settles .nothing) :
    (first procedure next).Settles .nothing := by
  induction procedure with
  | pure result => exact hnext result
  | stop halt => cases halt <;> trivial
  | step effect rest ih =>
    obtain ⟨hpermits, hsame⟩ := Contract.ignores_booking h.1
    refine ⟨hpermits, fun reply ↦ ?_⟩
    rw [hsame reply _ rfl]
    exact ih reply (h.2 reply)

/-- A failure is counted before anything else is done. -/
theorem settles_first_count {α : Type} {level : LogLevel} {message : String}
    {fields : List (String × LogValue)} {phase : RotationPhase} {result : α} {next : α → Work}
    (hnext : (next result).Settles .nothing) :
    (first ((log level message fields).bind fun _ ↦ .step (.record (.rotationError phase)) fun _ ↦
      .pure result) next).Settles (.failed phase) :=
  ⟨nofun, fun _ ↦ ⟨rfl, fun _ ↦ hnext⟩⟩

end Work

namespace Rotator

variable {rotator : Rotator}

/-- The loop settles what is due in every round. -/
theorem settles_served (hhook : rotator.hook.IsPrompt) (rounds : Nat) :
    (rotator.served rounds).Settles .nothing := by
  induction rounds with
  | zero => rfl
  | succ rounds ih =>
    refine ⟨fun _ ↦ rfl, fun wake ↦ ?_⟩
    dsimp only
    split
    · refine ⟨ensures_refresh_booking hhook, fun result ↦ ?_⟩
      rcases result with e | outcome
      · exact Work.settles_first_count ih
      · cases outcome <;> exact ih
    · exact Work.settles_first_of_only ⟨trivial, fun _ ↦ trivial⟩ fun _ ↦ rfl

/-- So does what follows a first check that has succeeded. -/
theorem settles_workAfterFirst_ok (hhook : rotator.hook.IsPrompt) (outcome : RotationOutcome) :
    (rotator.workAfterFirst (.ok outcome)).Settles .nothing := by
  refine ⟨nofun, fun _ ↦ ?_⟩
  dsimp only
  split
  · rfl
  · exact ⟨nofun, fun _ ↦ settles_served hhook roundBound⟩

/-- So does the control loop from its start on. -/
theorem settles_started (hhook : rotator.hook.IsPrompt) : rotator.started.Settles .nothing := by
  refine Work.settles_first_of_only ⟨trivial, fun _ ↦ trivial⟩ fun _ ↦
    ⟨ensures_refresh_booking hhook, fun result ↦ ?_⟩
  rcases result with e | outcome
  · exact Work.settles_first_count rfl
  · cases outcome <;> exact settles_workAfterFirst_ok hhook _

end Rotator

/-- The tasks that find out whether a rotator is ready set the gauge at most. -/
theorem Readiness.only_ensureMounted (config : Config) :
    (ensureMounted config).Only Effect.IsUnbooked := by
  have hask : (perform (.fileExists config.certFile)).Only Effect.IsUnbooked :=
    ⟨trivial, fun _ ↦ trivial⟩
  refine (Backoff.only_poll Effect.isUnbooked_of_isIdle hask).bind fun isMounted ↦ ?_
  cases isMounted <;> exact ⟨trivial, fun _ ↦ ⟨trivial, fun _ ↦ trivial⟩⟩

/-- The other of the two as well. -/
theorem Readiness.only_ensureInjected (config : Config) :
    (ensureInjected config).Only Effect.IsUnbooked := by
  have hask : (perform .isInjected).Only Effect.IsUnbooked := ⟨trivial, fun _ ↦ trivial⟩
  refine ⟨trivial, fun _ ↦ (Backoff.only_poll Effect.isUnbooked_of_isIdle hask).bind
    fun isInjected ↦ ?_⟩
  cases isInjected with
  | false => exact ⟨trivial, fun _ ↦ ⟨trivial, fun _ ↦ trivial⟩⟩
  | true => exact ⟨trivial, fun _ ↦ ⟨id, fun _ ↦ ⟨trivial, fun _ ↦ trivial⟩⟩⟩

/-- **Whatever a task is sent to do, it settles what is due.** -/
theorem Errand.settles_work {errand : Errand} (h : errand.IsPrompt) :
    errand.work.Settles .nothing := by
  cases errand with
  | refresh rotator =>
    refine ⟨rotator.ensures_refresh_booking h, fun result ↦ ?_⟩
    rcases result with e | (_ | _ | _) <;> rfl
  | reconcile reconciler => exact ⟨reconciler.ensures_reconcile_booking, fun _ ↦ rfl⟩
  | start rotator => exact rotator.settles_started h
  | ensureMounted config =>
    exact Work.settles_first_of_only (Readiness.only_ensureMounted config) fun _ ↦ rfl
  | ensureInjected config =>
    exact Work.settles_first_of_only (Readiness.only_ensureInjected config) fun _ ↦ rfl

end WebhookTrust
