import Mathlib.Data.Nat.Cast.Order.Ring
import WebhookTrust.Proofs.Rehearsal

/-!
# Trying again until it succeeds

An operation that is tried again is called until it first succeeds, or as often as it may be
(`Backoff.EndsAt`). Between two calls there is one warning and one pause, behind the last call there
is an error record exactly if it failed, and the result is what the last call gave. Waiting for a
condition asks just as often, with the same delays.

## The theorems, and what each rests on

* `Backoff.EndsAt.lastCall`: the calls of a profile go on as far as they may, **if no delay falls
  below nothing on the way** (`Backoff.IsSteady`). A profile with a negative multiplier has no delay
  after its first one (`Backoff.delay_one_neg`), and its loops crash behind the first pause,
  whatever the second call would have given (`Backoff.lastCall_zero`).
* `Backoff.retry_endsAt`: **an operation is tried again until it succeeds or may not be tried
  again**, by what `WebhookTrust.Proofs.Rehearsal` says of the last call.
* `Backoff.poll_agrees`: **waiting for a condition goes as trying an operation again**, if the one
  holds when the other succeeds.
* `Backoff.calls_until_success_or_limit`: the contract of both loops, for all profiles: with steady
  ones it is as said above, and with others they crash.
* `Backoff.not_retried_of_negative`: with a negative multiplier an operation is not called again,
  although its second call would succeed and two more are allowed.

Calls are counted in so many binary digits, and a loop without a limit that never succeeds comes to
the end of them. The theorems assume that an attempt succeeds that can be counted, or that attempts
are limited (`Backoff.exists_endsAt`).
-/

namespace WebhookTrust

namespace Record

variable {record : Record}

@[simp] theorem pauses_called : record.called.pauses = record.pauses := by
  simp [pauses, called]

@[simp] theorem pauses_drawn : record.drawn.pauses = record.pauses := rfl

@[simp] theorem pauses_noted (events : List LogEvent) :
    (record.noted events).pauses = record.pauses := by
  simp [pauses, noted, List.filterMap_map]

@[simp] theorem pauses_paused (ns : Rat) : (record.paused ns).pauses = record.pauses ++ [ns] := by
  simp [pauses, paused]

end Record

namespace Backoff

open Rehearsal

variable {ε α : Type} {config : Backoff} {succeeds : Nat → Bool}
  {notes : Nat → Rat → List LogEvent} {factor : Nat → Rat} {k : Nat}

/-! ### Rounds in a row -/

/-- A call with the notes and the pause that follow it. -/
def roundMoments (config : Backoff) (notes : Nat → Rat → List LogEvent) (factor : Nat → Rat)
    (k : Nat) : List Moment :=
  let ns := config.delay k * factor k
  .called :: (notes k ns).map .logged ++ [.paused ns]

/-- So many rounds, written out. -/
theorem rounds_eq (config : Backoff) (notes : Nat → Rat → List LogEvent) (factor : Nat → Rat)
    (k : Nat) : config.rounds notes factor k =
      ⟨k, k, (List.range k).flatMap (config.roundMoments notes factor)⟩ := by
  induction k with
  | zero => rfl
  | succ k ih =>
    simp [rounds, ih, Record.called, Record.drawn, Record.noted, Record.paused, List.range_succ,
      roundMoments]

/-- Each round has one pause. -/
theorem pauses_rounds (config : Backoff) (notes : Nat → Rat → List LogEvent) (factor : Nat → Rat)
    (k : Nat) : (config.rounds notes factor k).pauses =
      (List.range k).map fun i ↦ config.delay i * factor i := by
  induction k with
  | zero => rfl
  | succ k ih => simp [rounds, ih, List.range_succ]

/-- The pauses are the delays, each with its factor. -/
theorem pauses_rounds_eq_mapIdx (config : Backoff) (notes : Nat → Rat → List LogEvent)
    (factor : Nat → Rat) (k : Nat) : (config.rounds notes factor k).pauses =
      ((List.range k).map config.delay).mapIdx fun i delay ↦ delay * factor i := by
  rw [pauses_rounds]
  refine List.ext_getElem (by simp) fun i _ _ ↦ ?_
  simp

/-! ### Steady profiles -/

/-- No delay of the profile is less than nothing. -/
def IsSteady (config : Backoff) : Prop := config.initialDelay = 0 ∨ 0 ≤ config.multiplier

/-- All delays of a steady profile can be waited for. -/
theorem IsSteady.delay_nonneg (h : config.IsSteady) (k : Nat) : 0 ≤ config.delay k := by
  have hmax : (0 : Rat) ≤ config.maxDelay := Nat.cast_nonneg _
  rcases h with hzero | hmultiplier
  · -- nothing remains nothing, whatever the multiplier
    have hdelay : config.delay k = 0 := by
      induction k with
      | zero => rw [delay, hzero, Nat.cast_zero]
      | succ k ih => rw [delay, ih, zero_mul, min_eq_left hmax]
    exact hdelay.ge
  · induction k with
    | zero => exact Nat.cast_nonneg _
    | succ k ih => exact le_min (mul_nonneg ih hmultiplier) hmax

theorem delay_one_neg (h : ¬ config.IsSteady) : config.delay 1 < 0 := by
  rw [IsSteady, not_or, not_le] at h
  have hinitial : (0 : Rat) < config.initialDelay := Nat.cast_pos.2 (Nat.pos_of_ne_zero h.1)
  exact min_lt_of_left_lt (mul_neg_of_pos_of_neg hinitial h.2)

/-! ### The last call -/

/-- Calls go on up to call `k`: it is the first one that succeeds, or the last one allowed after
others that all failed. -/
structure EndsAt (config : Backoff) (succeeds : Nat → Bool) (k : Nat) : Prop where
  fails : ∀ i < k, succeeds i = false
  isAllowed : config.maxAttempts ≠ 0 → k < config.maxAttempts
  ends : succeeds k = true ∨ k + 1 = config.maxAttempts

theorem isExhausted_iff (config : Backoff) (attempt : Nat) : config.isExhausted attempt = true ↔
    config.maxAttempts ≠ 0 ∧ config.maxAttempts ≤ attempt := by
  simp [isExhausted]

theorem isExhausted_eq_false_iff (config : Backoff) (attempt : Nat) :
    config.isExhausted attempt = false ↔
      (config.maxAttempts ≠ 0 → attempt < config.maxAttempts) := by
  rw [Bool.eq_false_iff, Ne, isExhausted_iff, not_and]
  exact imp_congr_right fun _ ↦ not_le

/-- Calls come to an end that can be counted, if they are limited or one of those that can be
counted succeeds. -/
theorem exists_endsAt (hbound : config.maxAttempts ≤ attemptBound)
    (hsucceeds : config.maxAttempts = 0 → ∃ i < attemptBound, succeeds i = true) :
    ∃ k < attemptBound, config.EndsAt succeeds k := by
  have hend : ∃ k, k < attemptBound ∧ (succeeds k = true ∨ k + 1 = config.maxAttempts) := by
    by_cases hlimited : config.maxAttempts = 0
    · obtain ⟨i, hi, hi'⟩ := hsucceeds hlimited
      exact ⟨i, hi, Or.inl hi'⟩
    · exact ⟨config.maxAttempts - 1, by omega, Or.inr (by omega)⟩
  obtain ⟨hlt, hends⟩ := Nat.find_spec hend
  have hbefore : ∀ i < Nat.find hend, succeeds i = false ∧ i + 1 ≠ config.maxAttempts := by
    intro i hi
    have := Nat.find_min hend hi
    rw [not_and, not_or, Bool.not_eq_true] at this
    exact this (hi.trans hlt)
  refine ⟨Nat.find hend, hlt, fun i hi ↦ (hbefore i hi).1, fun hlimited ↦ ?_, hends⟩
  -- else the last call allowed would have been an earlier end
  by_contra hge
  exact (hbefore (config.maxAttempts - 1) (by omega)).2 (by omega)

theorem EndsAt.stops (h : config.EndsAt succeeds k) :
    succeeds k = true ∨ config.isExhausted (k + 1) = true :=
  h.ends.imp_right fun hlast ↦ (config.isExhausted_iff _).2 (by omega)

theorem EndsAt.isAllowed_of_lt (h : config.EndsAt succeeds k) {i : Nat} (hi : i < k) :
    config.isExhausted (i + 1) = false :=
  (config.isExhausted_eq_false_iff _).2 fun hlimited ↦
    (Nat.succ_le_of_lt hi).trans_lt (h.isAllowed hlimited)

/-- The calls of a profile go on as far as they may, if no delay falls below nothing on the way. -/
theorem EndsAt.lastCall (h : config.EndsAt succeeds k) (hk : k < attemptBound)
    (hsteady : config.IsSteady ∨ k = 0) : config.LastCall succeeds k where
  goesOn i hi :=
    { fails := h.fails i hi
      isAllowed := h.isAllowed_of_lt hi
      delay_nonneg := (hsteady.resolve_right (by omega)).delay_nonneg (i + 1)
      isCounted := by omega }
  not_goesOn hgoes := by
    rcases h.stops with hsucceeds | hexhausted
    · exact absurd hgoes.fails (by simp [hsucceeds])
    · exact absurd hgoes.isAllowed (by simp [hexhausted])

/-- Without a steady profile the first call is the last one, if it fails. -/
theorem lastCall_zero (h : ¬ config.IsSteady) : config.LastCall succeeds 0 where
  goesOn i hi := absurd hi (Nat.not_lt_zero i)
  not_goesOn hgoes := absurd hgoes.delay_nonneg (not_le.2 (delay_one_neg h))

/-! ### The contract -/

/-- **An operation is tried again until it succeeds or may not be tried again.** -/
theorem retry_endsAt (name : String) (describe : ε → String) (script : Script (Except ε α))
    (h : config.EndsAt (fun i ↦ (script.outcome i).isOk) k) (hk : k < attemptBound) :
    (config.IsSteady ∨ k = 0 → (config.retry name describe call).rehearse script =
      (some (script.outcome k), ⟨k + 1, k, (List.range k).flatMap
        (config.roundMoments (retryNotes name describe script.outcome) script.factor) ++
          .called :: (lastNotes name describe script.outcome k).map .logged⟩)) ∧
    (¬ (config.IsSteady ∨ k = 0) → (config.retry name describe call).rehearse script =
      (none, ⟨1, 1,
        config.roundMoments (retryNotes name describe script.outcome) script.factor 0⟩)) := by
  refine ⟨fun hsteady ↦ ?_, fun hsteady ↦ ?_⟩
  · rw [rehearse_retry script (h.lastCall hk hsteady) h.stops, rounds_eq]
    simp [Record.called, Record.noted]
  · rw [not_or] at hsteady
    have hpos : 0 < k := Nat.pos_of_ne_zero hsteady.2
    rw [rehearse_retry_crash script (lastCall_zero hsteady.1) (h.fails 0 hpos)
      (h.isAllowed_of_lt hpos), rounds_eq]
    simp

/-- **Waiting for a condition goes as trying an operation again**, if the one holds when the other
succeeds: as many calls, the same delays, and a result of the same sort. -/
theorem poll_agrees (config : Backoff) (name condition : String) (describe : ε → String)
    {outcome : Nat → Except ε α} {holds : Nat → Bool} (h : ∀ i, holds i = (outcome i).isOk) :
    ∃ delays : List Rat, ∀ factor factor' : Nat → Rat,
      let retried := (config.retry name describe call).rehearse ⟨outcome, factor⟩
      let polled := (config.poll condition call).rehearse ⟨holds, factor'⟩
      polled.2.calls = retried.2.calls ∧
        retried.2.pauses = delays.mapIdx (fun i delay ↦ delay * factor i) ∧
        polled.2.pauses = delays.mapIdx (fun i delay ↦ delay * factor' i) ∧
        polled.1 = retried.1.map Except.isOk := by
  obtain ⟨k, hlast⟩ := config.exists_lastCall holds
  have hlast' : config.LastCall (fun i ↦ (outcome i).isOk) k := by rwa [← funext h]
  by_cases hstops : holds k = true ∨ config.isExhausted (k + 1) = true
  · refine ⟨(List.range k).map config.delay, fun factor factor' ↦ ?_⟩
    rw [rehearse_retry ⟨outcome, factor⟩ hlast' (by rwa [← h k]),
      rehearse_poll ⟨holds, factor'⟩ hlast hstops]
    refine ⟨by simp, ?_, ?_, congrArg some (h k)⟩
    · simpa using config.pauses_rounds_eq_mapIdx _ factor k
    · simpa using config.pauses_rounds_eq_mapIdx _ factor' k
  · rw [not_or, Bool.not_eq_true, Bool.not_eq_true] at hstops
    refine ⟨(List.range (k + 1)).map config.delay, fun factor factor' ↦ ?_⟩
    have hfails : (outcome k).isOk = false := (h k).symm.trans hstops.1
    rw [rehearse_retry_crash ⟨outcome, factor⟩ hlast' hfails hstops.2,
      rehearse_poll_crash ⟨holds, factor'⟩ hlast hstops.1 hstops.2]
    exact ⟨by simp, config.pauses_rounds_eq_mapIdx _ factor (k + 1),
      config.pauses_rounds_eq_mapIdx _ factor' (k + 1), rfl⟩

/-- **The contract of both loops.** Let a profile limit attempts to a number of 32 binary digits, or
not at all and let an attempt succeed that can be counted. Then an operation is called until it
first succeeds or as often as it may be; between two calls there is a warning with the number of the
attempt and then a pause, behind the last one an error record if it failed, and the result is what
the last call gave. This is so for steady profiles and if there is only one call; else everything
ends behind the first pause. And whatever the profile, waiting for a condition goes as trying an
operation that succeeds when the condition holds. -/
theorem calls_until_success_or_limit (config : Backoff)
    (hbound : config.maxAttempts ≤ attemptBound) :
    (∀ {ε α : Type} (name : String) (describe : ε → String) (script : Script (Except ε α)),
      (config.maxAttempts = 0 → ∃ i < attemptBound, (script.outcome i).isOk = true) →
      ∃ k < attemptBound, config.EndsAt (fun i ↦ (script.outcome i).isOk) k ∧
        (config.IsSteady ∨ k = 0 → (config.retry name describe call).rehearse script =
          (some (script.outcome k), ⟨k + 1, k, (List.range k).flatMap
            (config.roundMoments (retryNotes name describe script.outcome) script.factor) ++
              .called :: (lastNotes name describe script.outcome k).map .logged⟩)) ∧
        (¬ (config.IsSteady ∨ k = 0) → (config.retry name describe call).rehearse script =
          (none, ⟨1, 1,
            config.roundMoments (retryNotes name describe script.outcome) script.factor 0⟩))) ∧
    ∀ {ε α : Type} (name condition : String) (describe : ε → String)
      (outcome : Nat → Except ε α) (holds : Nat → Bool), (∀ i, holds i = (outcome i).isOk) →
      ∃ delays : List Rat, ∀ factor factor' : Nat → Rat,
        let retried := (config.retry name describe call).rehearse ⟨outcome, factor⟩
        let polled := (config.poll condition call).rehearse ⟨holds, factor'⟩
        polled.2.calls = retried.2.calls ∧
          retried.2.pauses = delays.mapIdx (fun i delay ↦ delay * factor i) ∧
          polled.2.pauses = delays.mapIdx (fun i delay ↦ delay * factor' i) ∧
          polled.1 = retried.1.map Except.isOk := by
  refine ⟨fun name describe script hsucceeds ↦ ?_,
    fun name condition describe _ _ h ↦ config.poll_agrees name condition describe h⟩
  obtain ⟨k, hk, hends⟩ := exists_endsAt hbound hsucceeds
  exact ⟨k, hk, hends, retry_endsAt name describe script hends hk⟩

/-- An operation that succeeds at its second call. -/
def secondOutcome (k : Nat) : Except String Nat := if k = 1 then .ok 7 else .error "busy"

theorem endsAt_secondOutcome {config : Backoff} (h : config.maxAttempts = 3) :
    config.EndsAt (fun i ↦ (secondOutcome i).isOk) 1 where
  fails i hi := by rw [Nat.lt_one_iff.1 hi]; rfl
  isAllowed _ := by omega
  ends := Or.inl rfl

/-- An operation that may be called three times, and succeeds at its second call, is called twice,
with one warning and one pause between. -/
theorem calls_until_success_or_limit_second : (limited 3).maxAttempts ≤ attemptBound ∧
    ((limited 3).retry "op" id call).rehearse ⟨secondOutcome, fun _ ↦ 1⟩ = (some (.ok 7),
      ⟨2, 1, [.called, .logged (retrying "op" 1 "busy" (100 * millisecond : Nat)),
        .paused (100 * millisecond : Nat), .called]⟩) := by
  refine ⟨by decide, ?_⟩
  obtain ⟨k, -, hends, hsteady, -⟩ :=
    (calls_until_success_or_limit (limited 3) (by decide)).1 "op" id ⟨secondOutcome, fun _ ↦ 1⟩
      fun h ↦ absurd h (by decide)
  have hk : k = 1 := by
    rcases Nat.lt_trichotomy k 1 with hlt | rfl | hgt
    · -- the first call is neither a success nor the third
      rw [Nat.lt_one_iff.1 hlt] at hends
      exact absurd hends.ends (by decide)
    · rfl
    · exact absurd (hends.fails 1 hgt) (by decide)
  rw [hsteady (Or.inl (Or.inr (by decide))), hk]
  simp [roundMoments, delay, limited, unlimited, retryNotes, lastNotes, secondOutcome]

/-- With a negative multiplier an operation is not called again, although its second call would
succeed and two more are allowed. -/
theorem not_retried_of_negative :
    let config : Backoff := { limited 3 with multiplier := -1 }
    let retried := (config.retry "op" id call).rehearse ⟨secondOutcome, fun _ ↦ 1⟩
    config.EndsAt (fun i ↦ (secondOutcome i).isOk) 1 ∧ secondOutcome 1 = .ok 7 ∧
      retried.1 = none ∧ retried.2.calls = 1 := by
  intro config retried
  have hends : config.EndsAt (fun i ↦ (secondOutcome i).isOk) 1 := endsAt_secondOutcome rfl
  have hsteady : ¬ (config.IsSteady ∨ (1 : Nat) = 0) := by
    rintro ((h | h) | h) <;> exact absurd h (by decide)
  have hretried : retried = _ :=
    (retry_endsAt "op" id ⟨secondOutcome, fun _ ↦ 1⟩ hends (by decide)).2 hsteady
  rw [hretried]
  exact ⟨hends, rfl, rfl, rfl⟩

end Backoff

end WebhookTrust
