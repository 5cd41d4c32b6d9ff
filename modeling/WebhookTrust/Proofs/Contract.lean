import WebhookTrust.Rotation.Refresh

/-!
# Procedures under a contract

A contract between a procedure and its surroundings says which effects the procedure may have and
what they may be answered with, in terms of a state that both know of. `Procedure.Ensures` says that
a procedure keeps its side and ends in a certain way, whatever it is answered. It is defined by
recursion on the procedure, so a procedure that ensures something also comes to its end: there is no
rule here for procedures that go on for ever.

The contract may allow more than any real surroundings do. A statement about runs is got from one
about all answers in two steps: show that surroundings keep the contract (`Contract.KeptBy`), and
apply `Procedure.Ensures.run`.

## The theorems, and what each rests on

* `Procedure.ensures_bind`: procedures are composed by ensuring what the next one starts from. This
  is by induction on the first of them, and everything below rests on it.
* `Procedure.ensures_of_only`: what effects of one sort keep, a procedure with such effects only
  keeps. Which effects a procedure has is read off it, without a contract (`Procedure.Only`).
* `Backoff.ensures_retry`: trying again keeps what every attempt that fails keeps. Nothing is said
  of how many attempts there are, so an attempt that fails may also be the last one.
* `Backoff.ensures_retry_of_budget`: if the attempts that can fail are fewer than those that there
  may be, one of them ends otherwise. The factor must not be negative, or the loop may crash.
* `Backoff.ensures_pollFrom`: waiting for a condition asks no more often than it may.
* `Procedure.Ensures.run`, `Procedure.Ensures.trace`: run against surroundings that keep their side,
  the procedure ends as it ensures and has no effect on the way that it may not have.
* `Procedure.Ensures.run_noting`: what it notes of its effects is true of its trace.

`Contract.refusing` turns a contract into one in which some calls are refused without an effect. It
is a state more, the number of refusals that are left, so that what is ensured whatever is refused
can be counted against the attempts.
-/

namespace WebhookTrust

/-- What a procedure may ask of its surroundings, and what these may answer. -/
structure Contract (γ : Type) where
  /-- May this effect be had in the state? -/
  permits : γ → Effect → Prop
  /-- May the effect be answered so, and leave that state? -/
  answers : γ → (effect : Effect) → effect.Reply → γ → Prop

variable {γ σ α β ε : Type} {contract : Contract γ}

/-! ### Ensuring -/

namespace Procedure

/-- Started in the state, the procedure has only effects that the contract permits and ends in the
way that `post` says, with whatever answers the contract allows. -/
def Ensures (contract : Contract γ) (post : Except Halt α → γ → Prop) : Procedure α → γ → Prop
  | .pure result, state => post (.ok result) state
  | .stop halt, state => post (.error halt) state
  | .step effect next, state =>
    contract.permits state effect ∧
      ∀ reply state', contract.answers state effect reply state' →
        Ensures contract post (next reply) state'

variable {post post' : Except Halt α → γ → Prop} {state : γ}

@[simp] theorem ensures_pure (result : α) :
    Ensures contract post (.pure result) state ↔ post (.ok result) state := Iff.rfl

@[simp] theorem ensures_stop (halt : Halt) :
    Ensures contract post (.stop halt) state ↔ post (.error halt) state := Iff.rfl

theorem ensures_step (effect : Effect) (next : effect.Reply → Procedure α) :
    Ensures contract post (.step effect next) state ↔
      contract.permits state effect ∧
        ∀ reply state', contract.answers state effect reply state' →
          Ensures contract post (next reply) state' := Iff.rfl

/-- What ensures more ensures less. -/
theorem Ensures.mono {procedure : Procedure α} (h : Ensures contract post procedure state)
    (hpost : ∀ result state, post result state → post' result state) :
    Ensures contract post' procedure state := by
  induction procedure generalizing state with
  | pure result => exact hpost _ _ h
  | stop halt => exact hpost _ _ h
  | step effect next ih =>
    exact ⟨h.1, fun reply state' hreply ↦ ih reply (h.2 reply state' hreply)⟩

/-- **What every answer keeps holds in the end, too.** -/
theorem Ensures.keeping {inv : γ → Prop} {procedure : Procedure α}
    (h : Ensures contract post procedure state)
    (hkeeps : ∀ state effect reply state', contract.answers state effect reply state' →
      inv state → inv state')
    (hinv : inv state) :
    Ensures contract (fun result state ↦ post result state ∧ inv state) procedure state := by
  induction procedure generalizing state with
  | pure result => exact ⟨h, hinv⟩
  | stop halt => exact ⟨h, hinv⟩
  | step effect next ih =>
    refine ⟨h.1, fun reply state' hreply ↦ ?_⟩
    exact ih reply (h.2 reply state' hreply) (hkeeps state effect reply state' hreply hinv)

/-- What is ensured of two procedures in a row, in the state between them. -/
def after (contract : Contract γ) (next : α → Procedure β) (post : Except Halt β → γ → Prop) :
    Except Halt α → γ → Prop
  | .ok result, state => Ensures contract post (next result) state
  | .error halt, state => post (.error halt) state

/-- **A composition ensures what the second procedure ensures after the first.** -/
theorem ensures_bind {post : Except Halt β → γ → Prop} (procedure : Procedure α)
    (next : α → Procedure β) :
    Ensures contract post (procedure.bind next) state ↔
      Ensures contract (after contract next post) procedure state := by
  induction procedure generalizing state with
  | pure result => rfl
  | stop halt => rfl
  | step effect rest ih =>
    rw [step_bind, ensures_step, ensures_step]
    simp only [ih]

/-- What is ensured of two procedures in a row, if the second needs the success of the first. -/
def afterOk (contract : Contract γ) (next : α → Procedure (Except ε β))
    (post : Except Halt (Except ε β) → γ → Prop) : Except Halt (Except ε α) → γ → Prop
  | .ok (.ok value), state => Ensures contract post (next value) state
  | .ok (.error e), state => post (.ok (.error e)) state
  | .error halt, state => post (.error halt) state

/-- A composition that goes on only after a success. -/
theorem ensures_andThen {post : Except Halt (Except ε β) → γ → Prop}
    (procedure : Procedure (Except ε α)) (next : α → Procedure (Except ε β)) :
    Ensures contract post (procedure.andThen next) state ↔
      Ensures contract (afterOk contract next post) procedure state := by
  rw [andThen, ensures_bind]
  refine ⟨fun h ↦ h.mono ?_, fun h ↦ h.mono ?_⟩ <;>
    rintro (halt | (e | value)) state hpost <;> exact hpost

end Procedure

/-! ### Effects that leave the state alone -/

/-- May the effect be had in the state, and does every answer leave the state as it is? -/
def Contract.Ignores (contract : Contract γ) (state : γ) (effect : Effect) : Prop :=
  contract.permits state effect ∧
    ∀ reply state', contract.answers state effect reply state' → state' = state

/-- Does the effect do nothing but let time pass or write to the log? -/
def Effect.IsIdle : Effect → Prop
  | .jitter | .sleep _ | .log _ => True
  | .store _ | .now | .newKey | .record _ | .notify _ | .fileExists _ | .isInjected | .setInjected
  | .fire _ | .await _ | .spawnPollers | .startTicker _ | .wait => False

/-- Are idle effects ignored in all states? -/
def Contract.IsIdle (contract : Contract γ) : Prop :=
  ∀ state effect, effect.IsIdle → contract.Ignores state effect

/-- Does the effect concern nobody but those who listen? -/
def Effect.IsQuiet : Effect → Prop
  | .jitter | .sleep _ | .log _ | .record _ | .notify _ => True
  | .store _ | .now | .newKey | .fileExists _ | .isInjected | .setInjected | .fire _ | .await _
  | .spawnPollers | .startTicker _ | .wait => False

/-- Are quiet effects ignored in all states? -/
def Contract.IsQuiet (contract : Contract γ) : Prop :=
  ∀ state effect, effect.IsQuiet → contract.Ignores state effect

/-- Idle effects are quiet. -/
theorem Contract.IsQuiet.isIdle (h : contract.IsQuiet) : contract.IsIdle := by
  intro state effect hidle
  cases effect <;> first | exact hidle.elim | exact h state _ trivial

namespace Procedure

variable {post : Except Halt α → γ → Prop} {state : γ}

/-- An effect that is ignored can be left out. -/
theorem ensures_of_ignores {effect : Effect} {next : effect.Reply → Procedure α}
    (hignores : contract.Ignores state effect)
    (h : ∀ reply, Ensures contract post (next reply) state) :
    Ensures contract post (.step effect next) state := by
  refine ⟨hignores.1, ?_⟩
  intro reply state' hreply
  rw [hignores.2 reply state' hreply]
  exact h reply

/-- Has the procedure quiet effects only? -/
def IsQuiet : Procedure α → Prop
  | .pure _ | .stop _ => True
  | .step effect next => effect.IsQuiet ∧ ∀ reply, (next reply).IsQuiet

/-- May the procedure end so, if it is answered in some way? -/
def Yields : Procedure α → Except Halt α → Prop
  | .pure value, result => result = .ok value
  | .stop halt, result => result = .error halt
  | .step _ next, result => ∃ reply, (next reply).Yields result

/-- Has the procedure effects of one sort only, whatever it is answered? -/
def Only (isAllowed : Effect → Prop) : Procedure α → Prop
  | .pure _ | .stop _ => True
  | .step effect next => isAllowed effect ∧ ∀ reply, (next reply).Only isAllowed

/-- A sort of effects may be made wider. -/
theorem Only.mono {isAllowed isAllowed' : Effect → Prop} {procedure : Procedure α}
    (h : procedure.Only isAllowed) (hallowed : ∀ effect, isAllowed effect → isAllowed' effect) :
    procedure.Only isAllowed' := by
  induction procedure with
  | pure | stop => trivial
  | step effect next ih => exact ⟨hallowed _ h.1, fun reply ↦ ih reply (h.2 reply)⟩

/-- Composed procedures have effects of one sort if both have. -/
theorem Only.bind {isAllowed : Effect → Prop} {procedure : Procedure α} {next : α → Procedure β}
    (h : procedure.Only isAllowed) (hnext : ∀ result, (next result).Only isAllowed) :
    (procedure.bind next).Only isAllowed := by
  induction procedure with
  | pure result => exact hnext result
  | stop halt => trivial
  | step effect rest ih => exact ⟨h.1, fun reply ↦ ih reply (h.2 reply)⟩

/-- Procedures that are composed by success have effects of one sort if both have. -/
theorem Only.andThen {isAllowed : Effect → Prop} {procedure : Procedure (Except ε α)}
    {next : α → Procedure (Except ε β)} (h : procedure.Only isAllowed)
    (hnext : ∀ value, (next value).Only isAllowed) : (procedure.andThen next).Only isAllowed := by
  refine h.bind fun result ↦ ?_
  rcases result with e | value
  · trivial
  · exact hnext value

/-- A quiet procedure has quiet effects only. -/
theorem IsQuiet.only {procedure : Procedure α} (h : procedure.IsQuiet) :
    procedure.Only Effect.IsQuiet := by
  induction procedure with
  | pure | stop => trivial
  | step effect next ih => exact ⟨h.1, fun reply ↦ ih reply (h.2 reply)⟩

/-- **What effects of one sort keep, a procedure with such effects only keeps.** -/
theorem ensures_of_only {isAllowed : Effect → Prop} (inv : γ → Prop) {procedure : Procedure α}
    (honly : procedure.Only isAllowed)
    (hstep : ∀ effect, isAllowed effect → ∀ state, inv state →
      contract.permits state effect ∧
        ∀ reply state', contract.answers state effect reply state' → inv state')
    (hinv : inv state) :
    Ensures contract (fun result state ↦ procedure.Yields result ∧ inv state) procedure state := by
  induction procedure generalizing state with
  | pure value => exact ⟨rfl, hinv⟩
  | stop halt => exact ⟨rfl, hinv⟩
  | step effect next ih =>
    obtain ⟨hpermits, hkeeps⟩ := hstep effect honly.1 state hinv
    refine ⟨hpermits, fun reply state' hanswer ↦ ?_⟩
    refine (ih reply (honly.2 reply) (hkeeps reply state' hanswer)).mono ?_
    exact fun result _ h ↦ ⟨⟨reply, h.1⟩, h.2⟩

/-- **A procedure whose effects are all ignored leaves the state as it is.** -/
theorem ensures_of_only_ignored {isAllowed : Effect → Prop} {procedure : Procedure α}
    (honly : procedure.Only isAllowed)
    (hignores : ∀ effect, isAllowed effect → contract.Ignores state effect)
    (h : ∀ result, procedure.Yields result → post result state) :
    Ensures contract post procedure state := by
  induction procedure with
  | pure value => exact h _ rfl
  | stop halt => exact h _ rfl
  | step effect next ih =>
    refine ensures_of_ignores (hignores _ honly.1) fun reply ↦ ih reply (honly.2 reply) ?_
    exact fun result hyields ↦ h result ⟨reply, hyields⟩

/-- A quiet procedure leaves the state as it is. -/
theorem ensures_of_isQuiet {procedure : Procedure α} (hquiet : procedure.IsQuiet)
    (hcontract : contract.IsQuiet) (h : ∀ result, procedure.Yields result → post result state) :
    Ensures contract post procedure state :=
  ensures_of_only_ignored hquiet.only (hcontract state) h

/-- Logging something first. -/
theorem ensures_log_bind {level : LogLevel} {message : String} {fields : List (String × LogValue)}
    {next : Unit → Procedure α} (hcontract : contract.IsIdle)
    (h : Ensures contract post (next ()) state) :
    Ensures contract post ((log level message fields).bind next) state :=
  ensures_of_ignores (hcontract _ _ trivial) fun _ ↦ h

/-- Counting something first. -/
theorem ensures_record_bind {measurement : Measurement} {next : Unit → Procedure α}
    (hcontract : contract.IsQuiet) (h : Ensures contract post (next ()) state) :
    Ensures contract post ((perform (.record measurement)).bind next) state :=
  ensures_of_ignores (hcontract _ _ trivial) fun _ ↦ h

end Procedure

namespace RotationHook

/-- Is what the hook does quiet, whatever the outcome? -/
def IsQuiet (hook : RotationHook) : Prop := ∀ outcome, (hook outcome).IsQuiet

theorem isQuiet_silent : silent.IsQuiet := fun _ ↦ trivial

theorem isQuiet_reporting : reporting.IsQuiet := fun _ ↦ ⟨trivial, fun _ ↦ trivial⟩

theorem isQuiet_exiting : exiting.IsQuiet := fun _ ↦ ⟨trivial, fun _ ↦ trivial⟩

/-- Every hook that a configuration asks for is quiet. -/
theorem isQuiet_ofConfig (config : Config) : (ofConfig config).IsQuiet := by
  rw [ofConfig]
  split
  · exact isQuiet_exiting
  · exact isQuiet_silent

end RotationHook

/-! ### Trying again -/

namespace Backoff

open Procedure

variable {config : Backoff} {name : String} {describe : ε → String}
  {operation : Procedure (Except ε α)} {post : Except Halt (Except ε α) → γ → Prop} {state : γ}

/-- Pauses that do not shrink below nothing go on. -/
theorem isSome_nextDelay? (config : Backoff) {delay : Rat} (hmultiplier : 0 ≤ config.multiplier)
    (hdelay : 0 ≤ delay) : (config.nextDelay? delay).isSome := by
  have hgrown : 0 ≤ delay * config.multiplier := Rat.mul_nonneg hdelay hmultiplier
  have hmax : (0 : Rat) ≤ config.maxDelay := Rat.natCast_nonneg
  have hnext : 0 ≤ if (config.maxDelay : Rat) < delay * config.multiplier then
      (config.maxDelay : Rat) else delay * config.multiplier := by
    split
    · exact hmax
    · exact hgrown
  rw [nextDelay?, if_neg (Rat.not_lt.2 hnext)]
  rfl

/-- The factor of a pause, its announcement and the pause itself leave the state as it is. -/
theorem ensures_pause {β : Type} {event : Rat → LogEvent} {ns : Rat → Rat} {next : Procedure β}
    {ending : Except Halt β → γ → Prop}
    (hignores : ∀ effect, effect.IsIdle → contract.Ignores state effect)
    (h : Ensures contract ending next state) :
    Ensures contract ending (.step .jitter fun factor ↦ .step (.log (event factor)) fun _ ↦
      .step (.sleep (ns factor)) fun _ ↦ next) state := by
  refine ensures_of_ignores (hignores _ trivial) fun _ ↦ ?_
  refine ensures_of_ignores (hignores _ trivial) fun _ ↦ ?_
  exact ensures_of_ignores (hignores _ trivial) fun _ ↦ h

/-- An attempt that succeeds or ends everything is the last one. -/
theorem ensures_retryFrom_of_ok {remaining attempt : Nat} {delay : Rat}
    (h : Ensures contract (fun result state ↦ (∀ e, result ≠ .ok (.error e)) ∧ post result state)
      operation state) :
    Ensures contract post (config.retryFrom name describe operation (remaining + 1) attempt delay)
      state := by
  rw [retryFrom, bind_eq, ensures_bind]
  refine h.mono ?_
  rintro (halt | (e | value)) state ⟨hok, hpost⟩
  · exact hpost
  · exact absurd rfl (hok e)
  · exact hpost

/-- A first attempt that succeeds or ends everything is the last one. -/
theorem ensures_retry_of_ok
    (h : Ensures contract (fun result state ↦ (∀ e, result ≠ .ok (.error e)) ∧ post result state)
      operation state) :
    Ensures contract post (config.retry name describe operation) state := by
  have hbound : attemptBound = Nat.pow 2 32 - 2 + 1 := by decide
  rw [retry, hbound]
  exact ensures_retryFrom_of_ok h

/-- **After a first attempt that fails there is a second one**, if there may be two, and it is the
last one if it succeeds or ends everything. -/
theorem ensures_retry_of_error (hcontract : contract.IsIdle)
    (hmore : config.isExhausted 1 = false) (hmultiplier : 0 ≤ config.multiplier)
    (h : Ensures contract (fun first state ↦ (∃ e, first = .ok (.error e)) ∧
      Ensures contract (fun result state ↦ (∀ e, result ≠ .ok (.error e)) ∧ post result state)
        operation state) operation state) :
    Ensures contract post (config.retry name describe operation) state := by
  have hbound : attemptBound = Nat.pow 2 32 - 3 + 1 + 1 := by decide
  rw [retry, hbound, retryFrom, bind_eq, ensures_bind]
  refine h.mono ?_
  rintro _ state ⟨⟨e, rfl⟩, hsecond⟩
  simp only [after, Nat.zero_add, hmore, Bool.false_eq_true, if_false]
  refine ensures_pause (hcontract state) ?_
  obtain ⟨delay, hdelay⟩ := Option.isSome_iff_exists.1
    (config.isSome_nextDelay? hmultiplier Rat.natCast_nonneg)
  rw [hdelay]
  exact ensures_retryFrom_of_ok hsecond

/-- Pauses stay as far above nothing as the first one. -/
theorem nonneg_of_nextDelay? {delay next : Rat} (h : config.nextDelay? delay = some next) :
    0 ≤ next := by
  simp only [nextDelay?, Option.ite_none_left_eq_some, Option.some.injEq] at h
  exact h.2 ▸ Rat.not_lt.1 h.1

/-- **Fewer attempts can fail than there may be**: if each one that fails uses up some of a budget,
and there are more attempts than the budget allows to fail, one of them ends otherwise. -/
theorem ensures_retryFrom_of_budget {inv : Nat → γ → Prop} (hcontract : contract.IsIdle)
    (hmultiplier : 0 ≤ config.multiplier)
    (hstep : ∀ budget state, inv budget state → Ensures contract (fun result state ↦
      (∀ e, result = .ok (.error e) → ∃ less < budget, inv less state) ∧
        ((∀ e, result ≠ .ok (.error e)) → post result state)) operation state)
    {budget remaining attempt : Nat} {delay : Rat} (hdelay : 0 ≤ delay)
    (hremaining : budget < remaining)
    (hmore : ∀ k ≤ budget, 0 < k → config.isExhausted (attempt + k) = false)
    (hinv : inv budget state) :
    Ensures contract post (config.retryFrom name describe operation remaining attempt delay)
      state := by
  induction remaining generalizing budget attempt delay state with
  | zero => omega
  | succ remaining ih =>
    rw [retryFrom, bind_eq, ensures_bind]
    refine (hstep budget state hinv).mono ?_
    rintro (halt | (e | value)) state ⟨herror, hother⟩
    · exact hother (by simp)
    · obtain ⟨less, hless, hinv⟩ := herror e rfl
      simp only [after, hmore 1 (by omega) Nat.one_pos, Bool.false_eq_true, if_false]
      refine ensures_pause (hcontract state) ?_
      obtain ⟨next, hnext⟩ := Option.isSome_iff_exists.1
        (config.isSome_nextDelay? hmultiplier hdelay)
      rw [hnext]
      refine ih (nonneg_of_nextDelay? hnext) (by omega) (fun k hk hpos ↦ ?_) hinv
      rw [Nat.add_assoc, Nat.add_comm 1]
      exact hmore (k + 1) (by omega) (Nat.succ_pos k)
    · exact hother (by simp)

/-- The budget is that before the first attempt. -/
theorem ensures_retry_of_budget {inv : Nat → γ → Prop} (hcontract : contract.IsIdle)
    (hmultiplier : 0 ≤ config.multiplier)
    (hstep : ∀ budget state, inv budget state → Ensures contract (fun result state ↦
      (∀ e, result = .ok (.error e) → ∃ less < budget, inv less state) ∧
        ((∀ e, result ≠ .ok (.error e)) → post result state)) operation state)
    {budget : Nat} (hbound : budget < attemptBound)
    (hmore : ∀ k ≤ budget, 0 < k → config.isExhausted k = false) (hinv : inv budget state) :
    Ensures contract post (config.retry name describe operation) state :=
  ensures_retryFrom_of_budget hcontract hmultiplier hstep Rat.natCast_nonneg hbound
    (fun k hk hpos ↦ by rw [Nat.zero_add]; exact hmore k hk hpos) hinv

/-- **An attempt that fails and leaves an invariant can be made again and again**: then either an
attempt ends otherwise, or the invariant holds in the end. -/
theorem ensures_retryFrom {inv : γ → Prop}
    (hidle : ∀ state, inv state → ∀ effect, effect.IsIdle → contract.Ignores state effect)
    (hstep : ∀ state, inv state → Ensures contract (fun result state ↦
      (∀ e, result = .ok (.error e) → inv state) ∧
        ((∀ e, result ≠ .ok (.error e)) → post result state)) operation state)
    (hfailed : ∀ state e, inv state → post (.ok (.error e)) state)
    (hcrashed : ∀ state, inv state → post (.error .crashed) state) (remaining attempt : Nat)
    (delay : Rat) (hinv : inv state) :
    Ensures contract post (config.retryFrom name describe operation remaining attempt delay)
      state := by
  -- the invariant is what a failed attempt hands to the next one
  induction remaining generalizing attempt delay state with
  | zero => exact hcrashed state hinv
  | succ remaining ih =>
    rw [retryFrom, bind_eq, ensures_bind]
    refine (hstep state hinv).mono ?_
    rintro (halt | (e | value)) state ⟨herror, hother⟩
    · exact hother (by simp)
    · have hinv := herror e rfl
      by_cases hexhausted : config.isExhausted (attempt + 1) = true
      · simp only [after, if_pos hexhausted]
        exact ensures_of_ignores (hidle _ hinv _ trivial) fun _ ↦ hfailed state e hinv
      · simp only [after, if_neg hexhausted]
        refine ensures_pause (hidle state hinv) ?_
        cases config.nextDelay? delay with
        | none => exact hcrashed state hinv
        | some next => exact ih (attempt + 1) next hinv
    · exact hother (by simp)

/-- **Trying again keeps what every attempt that fails keeps.** -/
theorem ensures_retry (inv : γ → Prop) (hcontract : contract.IsIdle)
    (hstep : ∀ state, inv state → Ensures contract (fun result state ↦
      (∀ e, result = .ok (.error e) → inv state) ∧
        ((∀ e, result ≠ .ok (.error e)) → post result state)) operation state)
    (hfailed : ∀ state e, inv state → post (.ok (.error e)) state)
    (hcrashed : ∀ state, inv state → post (.error .crashed) state) (hinv : inv state) :
    Ensures contract post (config.retry name describe operation) state :=
  ensures_retryFrom (fun state _ ↦ hcontract state) hstep hfailed hcrashed _ _ _ hinv

/-- Trying again, a procedure has effects of the sort that one attempt has. -/
theorem only_retry {isAllowed : Effect → Prop} (hidle : ∀ effect, effect.IsIdle → isAllowed effect)
    (hoperation : operation.Only isAllowed) :
    (config.retry name describe operation).Only isAllowed := by
  have hfrom : ∀ remaining attempt delay,
      (config.retryFrom name describe operation remaining attempt delay).Only isAllowed := by
    intro remaining
    induction remaining with
    | zero => exact fun _ _ ↦ trivial
    | succ remaining ih =>
      intro attempt delay
      refine hoperation.bind fun result ↦ ?_
      rcases result with e | value
      · show Only isAllowed (if config.isExhausted (attempt + 1) = true then _ else _)
        split
        · exact ⟨hidle _ trivial, fun _ ↦ trivial⟩
        · refine ⟨hidle _ trivial, fun _ ↦ ⟨hidle _ trivial, fun _ ↦ ⟨hidle _ trivial, fun _ ↦ ?_⟩⟩⟩
          cases config.nextDelay? delay with
          | none => trivial
          | some next => exact ih (attempt + 1) next
      · trivial
  exact hfrom _ _ _

/-! ### Waiting for a condition -/

variable {condition : Procedure Bool} {asked : Except Halt Bool → γ → Prop}

/-- **A condition is asked for until it holds or the questions are used up**: each question that is
answered in the negative leaves an invariant with one more question behind, and there are no more
questions than the attempts allow. -/
theorem ensures_pollFrom (inv : Nat → γ → Prop)
    (hidle : ∀ attempt state, inv attempt state → ∀ effect, effect.IsIdle →
      contract.Ignores state effect)
    (hask : ∀ attempt state, inv attempt state → Ensures contract (fun result state ↦
      (result = .ok false → inv (attempt + 1) state) ∧
        (result ≠ .ok false → asked result state)) condition state)
    (hexhausted : ∀ attempt state, config.isExhausted attempt = false →
      config.isExhausted (attempt + 1) = true → inv (attempt + 1) state → asked (.ok false) state)
    (hcrashed : ∀ attempt state, inv attempt state → asked (.error .crashed) state)
    (remaining : Nat) {attempt : Nat} (delay : Rat) (hmore : config.isExhausted attempt = false)
    (hinv : inv attempt state) :
    Ensures contract asked (config.pollFrom name condition remaining attempt delay) state := by
  induction remaining generalizing attempt delay state with
  | zero => exact hcrashed attempt state hinv
  | succ remaining ih =>
    rw [pollFrom, bind_eq, ensures_bind]
    refine (hask attempt state hinv).mono ?_
    rintro (halt | _ | _) state ⟨hnegative, hother⟩
    · exact hother (by simp)
    · have hinv := hnegative rfl
      show Ensures contract asked (if config.isExhausted (attempt + 1) = true then _ else _) state
      by_cases hlast : config.isExhausted (attempt + 1) = true
      · rw [if_pos hlast]
        exact hexhausted attempt state hmore hlast hinv
      · rw [if_neg hlast]
        refine ensures_pause (hidle (attempt + 1) state hinv) ?_
        cases config.nextDelay? delay with
        | none => exact hcrashed (attempt + 1) state hinv
        | some next => exact ih next (Bool.eq_false_iff.2 hlast) hinv
    · exact hother (by simp)

/-- Waiting for a condition, a procedure has effects of the sort that one question has. -/
theorem only_poll {isAllowed : Effect → Prop} (hidle : ∀ effect, effect.IsIdle → isAllowed effect)
    (hcondition : condition.Only isAllowed) : (config.poll name condition).Only isAllowed := by
  have hfrom : ∀ remaining attempt delay,
      (config.pollFrom name condition remaining attempt delay).Only isAllowed := by
    intro remaining
    induction remaining with
    | zero => exact fun _ _ ↦ trivial
    | succ remaining ih =>
      intro attempt delay
      refine hcondition.bind fun isMet ↦ ?_
      cases isMet with
      | true => trivial
      | false =>
        show Only isAllowed (if config.isExhausted (attempt + 1) = true then _ else _)
        split
        · trivial
        · refine ⟨hidle _ trivial, fun _ ↦ ⟨hidle _ trivial, fun _ ↦ ⟨hidle _ trivial, fun _ ↦ ?_⟩⟩⟩
          cases config.nextDelay? delay with
          | none => trivial
          | some next => exact ih (attempt + 1) next
  exact hfrom _ _ _

end Backoff

/-! ### Runs -/

/-- Surroundings keep a contract if they answer what is permitted as it says. `shows` tells which
states of the contract a state of theirs may pass for. -/
def Contract.KeptBy (contract : Contract γ) (answer : (effect : Effect) → σ → effect.Reply × σ)
    (shows : σ → γ → Prop) : Prop :=
  ∀ real state effect, shows real state → contract.permits state effect →
    ∃ state', contract.answers state effect (answer effect real).1 state' ∧
      shows (answer effect real).2 state'

namespace Procedure

variable {answer : (effect : Effect) → σ → effect.Reply × σ} {shows : σ → γ → Prop} {state : γ}
  {real : σ} {post : Except Halt α → γ → Prop} {procedure : Procedure α}

theorem exists_run_eq {result : Except Halt α} (h : (procedure.run answer real).1 = result) :
    ∃ after, procedure.run answer real = (result, after) :=
  ⟨_, Prod.ext h rfl⟩

/-- The effects that a procedure has in a run, in their order. -/
def trace (answer : (effect : Effect) → σ → effect.Reply × σ) : Procedure α → σ → List Effect
  | .pure _, _ => []
  | .stop _, _ => []
  | .step effect next, real =>
    effect :: (next (answer effect real).1).trace answer (answer effect real).2

/-- **Run against surroundings that keep the contract, a procedure ends as it ensures.** -/
theorem Ensures.run (h : Ensures contract post procedure state)
    (hkept : contract.KeptBy answer shows) (hshows : shows real state) :
    ∃ state', shows (procedure.run answer real).2 state' ∧
      post (procedure.run answer real).1 state' := by
  induction procedure generalizing state real with
  | pure result => exact ⟨state, hshows, h⟩
  | stop halt => exact ⟨state, hshows, h⟩
  | step effect next ih =>
    obtain ⟨state', hanswer, hshows'⟩ := hkept real state effect hshows h.1
    exact ih _ (h.2 _ state' hanswer) hshows'

/-- **A procedure has no effects but permitted ones.** -/
theorem Ensures.trace (h : Ensures contract post procedure state)
    (hkept : contract.KeptBy answer shows) (hshows : shows real state) :
    ∀ effect ∈ procedure.trace answer real, ∃ state', contract.permits state' effect := by
  induction procedure generalizing state real with
  | pure result => simp [Procedure.trace]
  | stop halt => simp [Procedure.trace]
  | step effect next ih =>
    obtain ⟨state', hanswer, hshows'⟩ := hkept real state effect hshows h.1
    rw [Procedure.trace, List.forall_mem_cons]
    exact ⟨⟨state, h.1⟩, ih _ (h.2 _ state' hanswer) hshows'⟩

end Procedure

/-! ### Calls that are refused -/

/-- Does the reply say that a call to the store failed? -/
def Effect.IsRefusal : (effect : Effect) → effect.Reply → Prop
  | .store _, reply => ∃ e, reply = .error e
  | _, _ => False

/-- The contract, but so many calls may be refused. What is refused has no effect. -/
def Contract.refusing (contract : Contract γ) : Contract (Nat × γ) where
  permits state effect := contract.permits state.2 effect
  answers state effect reply state' :=
    state'.1 = state.1 ∧ contract.answers state.2 effect reply state'.2 ∨
      effect.IsRefusal reply ∧ state.1 = state'.1 + 1 ∧ state'.2 = state.2

/-- Only calls to the store are refused, so quiet effects are ignored as before. -/
theorem Contract.IsQuiet.refusing (h : contract.IsQuiet) : contract.refusing.IsQuiet := by
  intro state effect hquiet
  obtain ⟨hpermits, hignores⟩ := h state.2 effect hquiet
  refine ⟨hpermits, ?_⟩
  rintro reply state' (⟨hbudget, hanswer⟩ | ⟨hrefused, -⟩)
  · exact Prod.ext hbudget (hignores reply state'.2 hanswer)
  · cases effect <;> first | exact hquiet.elim | exact hrefused.elim

/-- **What is ensured whatever is refused is ensured if nothing is.** -/
theorem Procedure.Ensures.of_refusing {post : Except Halt α → γ → Prop} {procedure : Procedure α}
    {state : γ} {budget : Nat} (h : Ensures contract.refusing
      (fun result state ↦ post result state.2) procedure (budget, state)) :
    Ensures contract post procedure state := by
  induction procedure generalizing state with
  | pure result => exact h
  | stop halt => exact h
  | step effect next ih =>
    refine ⟨h.1, fun reply state' hanswer ↦ ih reply ?_⟩
    exact h.2 reply (budget, state') (.inl ⟨rfl, hanswer⟩)

/-! ### Notes -/

variable {κ : Type} {note : Effect → Option κ}

/-- The contract, with notes of some of the effects so far. -/
def Contract.noting (contract : Contract γ) (note : Effect → Option κ) : Contract (List κ × γ) where
  permits state effect := contract.permits state.2 effect
  answers state effect reply state' :=
    state'.1 = state.1 ++ (note effect).toList ∧ contract.answers state.2 effect reply state'.2

/-- Notes of effects that are not idle leave idle ones ignored. -/
theorem Contract.IsIdle.noting (h : contract.IsIdle)
    (hnote : ∀ effect, effect.IsIdle → note effect = none) : (contract.noting note).IsIdle := by
  intro state effect hidle
  obtain ⟨hpermits, hignores⟩ := h state.2 effect hidle
  refine ⟨hpermits, fun reply state' hanswer ↦ Prod.ext ?_ (hignores reply state'.2 hanswer.2)⟩
  simpa [hnote effect hidle] using hanswer.1

/-- A procedure with no effects that are noted ensures what it ensures without notes. -/
theorem Procedure.Ensures.noting {post : Except Halt α → γ → Prop} {state : γ}
    {procedure : Procedure α} (h : Ensures contract post procedure state)
    (honly : procedure.Only fun effect ↦ note effect = none) (past : List κ) :
    Ensures (contract.noting note) (fun result state ↦ state.1 = past ∧ post result state.2)
      procedure (past, state) := by
  induction procedure generalizing state with
  | pure result => exact ⟨rfl, h⟩
  | stop halt => exact ⟨rfl, h⟩
  | step effect next ih =>
    refine ⟨h.1, ?_⟩
    rintro reply ⟨notes, state'⟩ ⟨hnotes, hanswer⟩
    obtain rfl : notes = past := by simpa [honly.1] using hnotes
    exact ih reply (h.2 reply state' hanswer) (honly.2 reply)

/-- Notes go on from those before. -/
theorem Procedure.Ensures.run_notingFrom {post : Except Halt α → List κ × γ → Prop}
    {answer : (effect : Effect) → σ → effect.Reply × σ} {shows : σ → γ → Prop} {state : γ}
    {real : σ} {procedure : Procedure α} {past : List κ}
    (h : Ensures (contract.noting note) post procedure (past, state))
    (hkept : contract.KeptBy answer shows) (hshows : shows real state) :
    ∃ state', shows (procedure.run answer real).2 state' ∧ post (procedure.run answer real).1
      (past ++ (procedure.trace answer real).filterMap note, state') := by
  induction procedure generalizing past state real with
  | pure result => exact ⟨state, hshows, by simpa [Procedure.trace, Procedure.run] using h⟩
  | stop halt => exact ⟨state, hshows, by simpa [Procedure.trace, Procedure.run] using h⟩
  | step effect next ih =>
    obtain ⟨state', hanswer, hshows'⟩ := hkept real state effect hshows h.1
    obtain ⟨last, hlast, hpost⟩ := ih _ (h.2 _ (_, state') ⟨rfl, hanswer⟩) hshows'
    refine ⟨last, hlast, ?_⟩
    have hnotes : (Procedure.trace answer (.step effect next) real).filterMap note =
        (note effect).toList ++ ((next (answer effect real).1).trace answer
          (answer effect real).2).filterMap note := by
      cases hnote : note effect <;> simp [Procedure.trace, hnote]
    rwa [hnotes, ← List.append_assoc]

/-- **What a procedure ensures of the notes is true of its trace.** -/
theorem Procedure.Ensures.run_noting {post : Except Halt α → List κ × γ → Prop}
    {answer : (effect : Effect) → σ → effect.Reply × σ} {shows : σ → γ → Prop} {state : γ}
    {real : σ} {procedure : Procedure α}
    (h : Ensures (contract.noting note) post procedure ([], state))
    (hkept : contract.KeptBy answer shows) (hshows : shows real state) :
    ∃ state', shows (procedure.run answer real).2 state' ∧ post (procedure.run answer real).1
      ((procedure.trace answer real).filterMap note, state') := by
  obtain ⟨state', hshows', hpost⟩ := h.run_notingFrom hkept hshows
  rw [List.nil_append] at hpost
  exact ⟨state', hshows', hpost⟩

end WebhookTrust
