import Mathlib.Algebra.Order.Ring.Rat
import Mathlib.Data.Nat.Find
import WebhookTrust.Backoff

/-!
# Loops by a script

The two loops of a profile run in any surroundings. Here the surroundings are a script, which says
what the calls give and which factors are drawn, and a record of all that is done: the calls, what
is logged and the pauses, in their order. The loops are not written again for this: they are the
ones of `WebhookTrust.Backoff`, in the monad of scripts (`Rehearsal`).

A call is followed by another if it fails, is not the last one allowed, can be counted, and the
pause after the next one is not less than nothing (`Backoff.GoesOn`). Up to the first call of which
this is not true both loops make the same rounds and differ in their notes only.

* `Backoff.MakesRounds`: what the loops have in common, as three equations about a call. Each loop
  has them (`Backoff.makesRounds_retry`, `Backoff.makesRounds_poll`), and the rest is said once for
  both.
* `Backoff.MakesRounds.eq_of_lastCall`: **the loop comes to its last call**, by induction on the
  rounds; there is one, since calls are counted in so many digits (`Backoff.exists_lastCall`).
* `Backoff.rehearse_retry`, `Backoff.rehearse_poll`: there the loop ends with what the call gave;
* `Backoff.rehearse_retry_crash`, `Backoff.rehearse_poll_crash`: or it crashes after one more pause,
  if the call failed and was not the last one allowed.

Which call is the last one is a question about the profile, and is answered in
`WebhookTrust.Proofs.Retrying`.
-/

namespace WebhookTrust

/-! ### Scripts and records -/

/-- What is seen of a loop. -/
inductive Moment where
  /-- The operation was called, or the condition asked for. -/
  | called
  | logged (event : LogEvent)
  | paused (ns : Rat)
deriving DecidableEq, Repr

/-- What the calls of a loop give, and the factors that it draws, each in their order. -/
structure Script (β : Type) where
  outcome : Nat → β
  factor : Nat → Rat

/-- What a loop has done so far. -/
structure Record where
  calls : Nat
  draws : Nat
  moments : List Moment
deriving DecidableEq, Repr

namespace Record

/-- Nothing has been done yet. -/
def blank : Record := ⟨0, 0, []⟩

/-- One more call. -/
def called (record : Record) : Record :=
  { record with calls := record.calls + 1, moments := record.moments ++ [.called] }

/-- One more factor was drawn. -/
def drawn (record : Record) : Record := { record with draws := record.draws + 1 }

/-- More events were logged. -/
def noted (record : Record) (events : List LogEvent) : Record :=
  { record with moments := record.moments ++ events.map .logged }

/-- One more pause. -/
def paused (record : Record) (ns : Rat) : Record :=
  { record with moments := record.moments ++ [.paused ns] }

@[simp] theorem calls_called (record : Record) : record.called.calls = record.calls + 1 := rfl

@[simp] theorem calls_noted (record : Record) (events : List LogEvent) :
    (record.noted events).calls = record.calls := rfl

@[simp] theorem draws_called (record : Record) : record.called.draws = record.draws := rfl

@[simp] theorem draws_noted (record : Record) (events : List LogEvent) :
    (record.noted events).draws = record.draws := rfl

@[simp] theorem noted_nil (record : Record) : record.noted [] = record := by
  simp [noted]

/-- The pauses, in their order. -/
def pauses (record : Record) : List Rat :=
  record.moments.filterMap fun
    | .paused ns => some ns
    | _ => none

/-- The calls and the pauses, in their order. -/
def steps (record : Record) : List Moment :=
  record.moments.filter fun
    | .logged _ => false
    | _ => true

end Record

/-- What is done by a script and adds to a record; it has no result if it crashes. -/
def Rehearsal (β α : Type) : Type := Script β → Record → Option α × Record

namespace Rehearsal

variable {β α : Type}

instance : Monad (Rehearsal β) where
  pure result _ record := (some result, record)
  bind rehearsal next script record :=
    match rehearsal script record with
    | (some result, record) => next result script record
    | (none, record) => (none, record)

instance : MonadBackoff (Rehearsal β) where
  jitter script record := (some (script.factor record.draws), record.drawn)
  pause ns _ record := (some (), record.paused ns)
  log event _ record := (some (), record.noted [event])
  crash := fun _ record ↦ (none, record)

/-- A call, which gives what the script says. -/
def call : Rehearsal β β := fun script record ↦ (some (script.outcome record.calls), record.called)

theorem bind_apply {γ : Type} (rehearsal : Rehearsal β α) (next : α → Rehearsal β γ)
    (script : Script β) (record : Record) : (rehearsal >>= next) script record =
      match rehearsal script record with
      | (some result, record) => next result script record
      | (none, record) => (none, record) := rfl

theorem call_apply (script : Script β) (record : Record) :
    call script record = (some (script.outcome record.calls), record.called) := rfl

/-- The result, if there is one, and the record of all that was done. -/
def rehearse (rehearsal : Rehearsal β α) (script : Script β) : Option α × Record :=
  rehearsal script .blank

end Rehearsal

namespace Backoff

open Rehearsal

variable {ε α ρ : Type} {config : Backoff} {name : String} {describe : ε → String}
  {succeeds : Nat → Bool} {notes : Nat → Rat → List LogEvent} {factor : Nat → Rat} {k : Nat}

/-! ### Delays -/

/-- The pause after call `k` before it is stretched or cut. Calls are counted from zero. -/
def delay (config : Backoff) : Nat → Rat
  | 0 => config.initialDelay
  | k + 1 => min (config.delay k * config.multiplier) config.maxDelay

/-- The delay after a delay, if it can be waited for. -/
theorem nextDelay?_delay (config : Backoff) (k : Nat) : config.nextDelay? (config.delay k) =
    if config.delay (k + 1) < 0 then none else some (config.delay (k + 1)) := by
  have hnext : (if (config.maxDelay : Rat) < config.delay k * config.multiplier then
      (config.maxDelay : Rat) else config.delay k * config.multiplier) = config.delay (k + 1) := by
    rw [delay, min_def]
    split_ifs with hlt hle hle
    · exact absurd hlt (not_lt.2 hle)
    · rfl
    · rfl
    · exact absurd (lt_of_not_ge hle) hlt
  rw [nextDelay?, hnext]

/-! ### Rounds -/

/-- Is call `k` followed by another? -/
structure GoesOn (config : Backoff) (succeeds : Nat → Bool) (k : Nat) : Prop where
  fails : succeeds k = false
  isAllowed : config.isExhausted (k + 1) = false
  delay_nonneg : 0 ≤ config.delay (k + 1)
  isCounted : k + 1 < attemptBound

/-- Is call `k` the first one that is not followed by another? -/
structure LastCall (config : Backoff) (succeeds : Nat → Bool) (k : Nat) : Prop where
  goesOn : ∀ i < k, config.GoesOn succeeds i
  not_goesOn : ¬ config.GoesOn succeeds k

/-- The record of so many rounds: calls, each with the notes and the pause that follow it. -/
def rounds (config : Backoff) (notes : Nat → Rat → List LogEvent) (factor : Nat → Rat) :
    Nat → Record
  | 0 => .blank
  | k + 1 =>
    let ns := config.delay k * factor k
    ((config.rounds notes factor k).called.drawn.noted (notes k ns)).paused ns

@[simp] theorem calls_rounds (config : Backoff) (notes : Nat → Rat → List LogEvent)
    (factor : Nat → Rat) (k : Nat) : (config.rounds notes factor k).calls = k := by
  induction k with
  | zero => rfl
  | succ k ih => exact congrArg (· + 1) ih

@[simp] theorem draws_rounds (config : Backoff) (notes : Nat → Rat → List LogEvent)
    (factor : Nat → Rat) (k : Nat) : (config.rounds notes factor k).draws = k := by
  induction k with
  | zero => rfl
  | succ k ih => exact congrArg (· + 1) ih

theorem LastCall.lt (h : config.LastCall succeeds k) : k < attemptBound := by
  rcases k with _ | k
  · decide
  · exact (h.goesOn k (Nat.lt_succ_self k)).isCounted

/-- **There is a last call**, since calls are counted with so many digits. -/
theorem exists_lastCall (config : Backoff) (succeeds : Nat → Bool) :
    ∃ k, config.LastCall succeeds k := by
  classical
  have hend : ∃ k, ¬ config.GoesOn succeeds k :=
    ⟨attemptBound, fun h ↦ absurd h.isCounted (by omega)⟩
  exact ⟨Nat.find hend, fun i hi ↦ not_not.1 (Nat.find_min hend hi), Nat.find_spec hend⟩

/-- What both loops have in common: with no calls left to count the loop crashes, and a call that
fails and is not the last one allowed ends a round, behind which there is another call if the next
pause is not less than nothing. -/
structure MakesRounds (config : Backoff) (succeeds : Nat → Bool)
    (notes : Nat → Rat → List LogEvent) (factor : Nat → Rat)
    (loop : Nat → Nat → Rat → Record → Option ρ × Record) : Prop where
  spent : ∀ attempt delay record, loop 0 attempt delay record = (none, record)
  round : ∀ k remaining, succeeds k = false → config.isExhausted (k + 1) = false →
    loop (remaining + 1) k (config.delay k) (config.rounds notes factor k) =
      if config.delay (k + 1) < 0 then (none, config.rounds notes factor (k + 1))
      else loop remaining (k + 1) (config.delay (k + 1)) (config.rounds notes factor (k + 1))

section MakesRounds

variable {loop : Nat → Nat → Rat → Record → Option ρ × Record}

/-- The loop makes a round with every call that is followed by another. -/
theorem MakesRounds.eq_of_goesOn (h : config.MakesRounds succeeds notes factor loop)
    (hk : ∀ i < k, config.GoesOn succeeds i) :
    loop attemptBound 0 config.initialDelay .blank =
      loop (attemptBound - k) k (config.delay k) (config.rounds notes factor k) := by
  induction k with
  | zero => rfl
  | succ k ih =>
    have hgoes := hk k (Nat.lt_succ_self k)
    have hremaining : attemptBound - k = attemptBound - (k + 1) + 1 := by
      have := hgoes.isCounted
      omega
    rw [ih fun i hi ↦ hk i (Nat.lt_succ_of_lt hi), hremaining,
      h.round k _ hgoes.fails hgoes.isAllowed, if_neg (not_lt.2 hgoes.delay_nonneg)]

/-- **The loop comes to its last call.** -/
theorem MakesRounds.eq_of_lastCall (h : config.MakesRounds succeeds notes factor loop)
    (hlast : config.LastCall succeeds k) : loop attemptBound 0 config.initialDelay .blank =
      loop (attemptBound - (k + 1) + 1) k (config.delay k) (config.rounds notes factor k) := by
  have hremaining : attemptBound - k = attemptBound - (k + 1) + 1 := by
    have := hlast.lt
    omega
  rw [h.eq_of_goesOn hlast.goesOn, hremaining]

/-- **The loop crashes after a pause**, if its last call fails and is not the last one allowed. -/
theorem MakesRounds.crashes (h : config.MakesRounds succeeds notes factor loop)
    (hlast : config.LastCall succeeds k) (hfails : succeeds k = false)
    (hallowed : config.isExhausted (k + 1) = false) :
    loop attemptBound 0 config.initialDelay .blank =
      (none, config.rounds notes factor (k + 1)) := by
  rw [h.eq_of_lastCall hlast, h.round k _ hfails hallowed]
  split_ifs with hdelay
  · rfl
  · -- nothing else ends the loop, so all calls have been counted
    have hspent : attemptBound - (k + 1) = 0 := by
      by_contra hne
      exact hlast.not_goesOn ⟨hfails, hallowed, not_lt.1 hdelay, by omega⟩
    rw [hspent, h.spent]

end MakesRounds

/-! ### Repeating an operation -/

section Retry

variable {script : Script (Except ε α)}

/-- The notes on a call of an operation that is repeated after a pause. -/
def retryNotes (name : String) (describe : ε → String) (outcome : Nat → Except ε α) (k : Nat)
    (ns : Rat) : List LogEvent :=
  match outcome k with
  | .ok _ => []
  | .error e => [retrying name (k + 1) (describe e) ns]

/-- The notes on the last call of an operation. -/
def lastNotes (name : String) (describe : ε → String) (outcome : Nat → Except ε α) (k : Nat) :
    List LogEvent :=
  match outcome k with
  | .ok _ => []
  | .error e => [gaveUp name (k + 1) (describe e)]

/-- What a loop does when attempts are left to count. -/
theorem retryFrom_apply (remaining attempt : Nat) (delay : Rat) (record : Record) :
    (config.retryFrom name describe call (remaining + 1) attempt delay) script record =
      match script.outcome record.calls with
      | .ok result => (some (.ok result), record.called)
      | .error e =>
        if config.isExhausted (attempt + 1) then
          (some (.error e), record.called.noted [gaveUp name (attempt + 1) (describe e)])
        else
          let ns := delay * script.factor record.draws
          let paused := (record.called.drawn.noted
            [retrying name (attempt + 1) (describe e) ns]).paused ns
          match config.nextDelay? delay with
          | some next =>
            (config.retryFrom name describe call remaining (attempt + 1) next) script paused
          | none => (none, paused) := by
  rw [retryFrom, bind_apply, call_apply]
  cases script.outcome record.calls with
  | ok result => rfl
  | error e =>
    by_cases hexhausted : config.isExhausted (attempt + 1) = true
    · simp only [if_pos hexhausted]
      rfl
    · simp only [if_neg hexhausted]
      cases config.nextDelay? delay <;> rfl

/-- Trying an operation again goes in rounds. -/
theorem makesRounds_retry (name : String) (describe : ε → String)
    (script : Script (Except ε α)) :
    config.MakesRounds (fun k ↦ (script.outcome k).isOk)
      (retryNotes name describe script.outcome) script.factor fun remaining attempt delay record ↦
        (config.retryFrom name describe call remaining attempt delay) script record where
  spent attempt delay record := rfl
  round k remaining hfails hallowed := by
    rw [retryFrom_apply, calls_rounds, draws_rounds, nextDelay?_delay]
    cases houtcome : script.outcome k with
    | ok result => simp [houtcome, Except.isOk, Except.toBool] at hfails
    | error e =>
      simp only [hallowed, Bool.false_eq_true, if_false, rounds, retryNotes, houtcome]
      split_ifs <;> rfl

/-- **An operation is repeated up to its last call**, if that succeeds or is the last one allowed,
and the loop ends with what it gives. -/
theorem rehearse_retry (script : Script (Except ε α))
    (h : config.LastCall (fun i ↦ (script.outcome i).isOk) k)
    (hstops : (script.outcome k).isOk = true ∨ config.isExhausted (k + 1) = true) :
    (config.retry name describe call).rehearse script = (some (script.outcome k),
      (config.rounds (retryNotes name describe script.outcome) script.factor k).called.noted
        (lastNotes name describe script.outcome k)) := by
  refine ((makesRounds_retry name describe script).eq_of_lastCall h).trans ?_
  rw [retryFrom_apply, calls_rounds]
  cases houtcome : script.outcome k with
  | ok result => simp [lastNotes, houtcome]
  | error e =>
    have hexhausted : config.isExhausted (k + 1) = true :=
      hstops.resolve_left (by simp [houtcome, Except.isOk, Except.toBool])
    simp only [hexhausted, if_true, lastNotes, houtcome]

/-- **An operation that fails at a call which is not the last one allowed, and cannot be called
again, crashes.** -/
theorem rehearse_retry_crash (script : Script (Except ε α))
    (h : config.LastCall (fun i ↦ (script.outcome i).isOk) k)
    (hfails : (script.outcome k).isOk = false) (hallowed : config.isExhausted (k + 1) = false) :
    (config.retry name describe call).rehearse script = (none,
      config.rounds (retryNotes name describe script.outcome) script.factor (k + 1)) :=
  (makesRounds_retry name describe script).crashes h hfails hallowed

end Retry

/-! ### Waiting for a condition -/

section Poll

variable {script : Script Bool}

/-- The notes on a question that is asked again after a pause. -/
def pollNotes (name : String) (k : Nat) (ns : Rat) : List LogEvent := [polling name (k + 1) ns]

/-- What a loop that waits does when questions are left to count. -/
theorem pollFrom_apply (remaining attempt : Nat) (delay : Rat) (record : Record) :
    (config.pollFrom name call (remaining + 1) attempt delay) script record =
      if script.outcome record.calls then (some true, record.called)
      else if config.isExhausted (attempt + 1) then (some false, record.called)
      else
        let ns := delay * script.factor record.draws
        let paused := (record.called.drawn.noted [polling name (attempt + 1) ns]).paused ns
        match config.nextDelay? delay with
        | some next => (config.pollFrom name call remaining (attempt + 1) next) script paused
        | none => (none, paused) := by
  rw [pollFrom, bind_apply, call_apply]
  cases script.outcome record.calls with
  | true => rfl
  | false =>
    by_cases hexhausted : config.isExhausted (attempt + 1) = true
    · simp only [if_pos hexhausted]
      rfl
    · simp only [if_neg hexhausted]
      cases config.nextDelay? delay <;> rfl

/-- Waiting for a condition goes in rounds. -/
theorem makesRounds_poll (name : String) (script : Script Bool) :
    config.MakesRounds script.outcome (pollNotes name) script.factor
      fun remaining attempt delay record ↦
        (config.pollFrom name call remaining attempt delay) script record where
  spent attempt delay record := rfl
  round k remaining hfails hallowed := by
    rw [pollFrom_apply, calls_rounds, draws_rounds, nextDelay?_delay]
    simp only [hfails, hallowed, Bool.false_eq_true, if_false, rounds, pollNotes]
    split_ifs <;> rfl

/-- **A condition is asked for up to the last question**, if that is answered in the affirmative or
is the last one allowed, and the loop ends with the answer. -/
theorem rehearse_poll (script : Script Bool) (h : config.LastCall script.outcome k)
    (hstops : script.outcome k = true ∨ config.isExhausted (k + 1) = true) :
    (config.poll name call).rehearse script =
      (some (script.outcome k), (config.rounds (pollNotes name) script.factor k).called) := by
  refine ((makesRounds_poll name script).eq_of_lastCall h).trans ?_
  rw [pollFrom_apply, calls_rounds]
  cases houtcome : script.outcome k with
  | true => rfl
  | false =>
    have hexhausted : config.isExhausted (k + 1) = true := hstops.resolve_left (by simp [houtcome])
    simp only [hexhausted, Bool.false_eq_true, if_false, if_true]

/-- **A condition that does not hold, and cannot be asked for again, crashes.** -/
theorem rehearse_poll_crash (script : Script Bool) (h : config.LastCall script.outcome k)
    (hfails : script.outcome k = false) (hallowed : config.isExhausted (k + 1) = false) :
    (config.poll name call).rehearse script =
      (none, config.rounds (pollNotes name) script.factor (k + 1)) :=
  (makesRounds_poll name script).crashes h hfails hallowed

end Poll

end Backoff

end WebhookTrust
