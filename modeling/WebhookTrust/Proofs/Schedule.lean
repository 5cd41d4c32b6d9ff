import Mathlib.Algebra.BigOperators.Ring.Finset
import Mathlib.Algebra.Order.BigOperators.Group.Finset
import Mathlib.Tactic.Linarith
import Mathlib.Tactic.NormNum
import WebhookTrust.Proofs.Retrying

/-!
# The schedule of pauses

Each delay is made of the one before it, and cut to the bound at once. If the multiplier is at least
one and the first delay within the bound, this comes to the same as cutting the powers of the
multiplier: once a delay has come to the bound, it stays there.

* `Backoff.delay_eq_scheduled`: **delays that are cut one after the other are powers that are cut**,
  by induction on the call. Here both assumptions are used, and nowhere else.
* `Backoff.IsRecord.exists_rounds`: a loop makes rounds, fewer than it may make calls, and ends with
  a call or crashes. So it alternates between calls and pauses (`Backoff.IsRecord.steps_eq`), for
  both loops at once.
* `Backoff.IsRecord.sum_pauses_le`: **a loop that is limited pauses no longer than the schedule
  allows**, and half as much again for the factors, which are between a half and one and a half
  (`Backoff.scheduled_mul_bounds`).
* `Backoff.pauses_follow_schedule`: all of it, for any record of either loop.

Delays are exact numbers here, and so are factors; what that leaves out is said in
`WebhookTrust.Backoff`. How many calls are made is said in `WebhookTrust.Proofs.Retrying`.
-/

namespace WebhookTrust

namespace Record

variable {record : Record}

@[simp] theorem steps_called : record.called.steps = record.steps ++ [.called] := by
  simp [steps, called]

@[simp] theorem steps_drawn : record.drawn.steps = record.steps := rfl

@[simp] theorem steps_noted (events : List LogEvent) :
    (record.noted events).steps = record.steps := by
  simp [steps, noted]

@[simp] theorem steps_paused (ns : Rat) :
    (record.paused ns).steps = record.steps ++ [.paused ns] := by
  simp [steps, paused]

end Record

namespace Backoff

open Rehearsal Finset

variable {config : Backoff} {factor : Nat → Rat} {record : Record} {k : Nat}

/-! ### The closed form of delays -/

/-- The delay after call `k` in closed form. Calls are counted from zero. -/
def scheduled (config : Backoff) (k : Nat) : Rat :=
  min (config.maxDelay : Rat) (config.initialDelay * config.multiplier ^ k)

theorem scheduled_le (config : Backoff) (k : Nat) : config.scheduled k ≤ config.maxDelay :=
  min_le_left _ _

theorem scheduled_nonneg (hmultiplier : 1 ≤ config.multiplier) (k : Nat) :
    0 ≤ config.scheduled k :=
  le_min (Nat.cast_nonneg _)
    (mul_nonneg (Nat.cast_nonneg _) (pow_nonneg (zero_le_one.trans hmultiplier) k))

theorem scheduled_le_succ (hmultiplier : 1 ≤ config.multiplier) (k : Nat) :
    config.scheduled k ≤ config.scheduled (k + 1) :=
  min_le_min_left _ (mul_le_mul_of_nonneg_left (pow_le_pow_right₀ hmultiplier (Nat.le_succ k))
    (Nat.cast_nonneg _))

/-- **Delays that are cut one after the other are powers that are cut.** -/
theorem delay_eq_scheduled (hmultiplier : 1 ≤ config.multiplier)
    (hinitial : config.initialDelay ≤ config.maxDelay) (k : Nat) :
    config.delay k = config.scheduled k := by
  have hnonneg : 0 ≤ config.multiplier := zero_le_one.trans hmultiplier
  induction k with
  | zero => rw [delay, scheduled, pow_zero, mul_one, min_eq_right (Nat.cast_le.2 hinitial)]
  | succ k ih =>
    have hmax : (config.maxDelay : Rat) ≤ config.maxDelay * config.multiplier :=
      le_mul_of_one_le_right (Nat.cast_nonneg _) hmultiplier
    calc config.delay (k + 1)
        = min (config.scheduled k * config.multiplier) config.maxDelay := by rw [delay, ih]
      _ = min (min (config.maxDelay * config.multiplier)
            (config.initialDelay * config.multiplier ^ (k + 1))) config.maxDelay := by
        rw [scheduled, min_mul_of_nonneg _ _ hnonneg, mul_assoc, pow_succ]
      _ = config.scheduled (k + 1) := by
        rw [min_right_comm, min_eq_right hmax, scheduled]

/-! ### Runs -/

/-- The record of a run of one of the two loops. -/
inductive IsRecord (config : Backoff) (factor : Nat → Rat) : Record → Prop
  | retry {ε α : Type} (name : String) (describe : ε → String) (outcome : Nat → Except ε α) :
    IsRecord config factor ((config.retry name describe call).rehearse ⟨outcome, factor⟩).2
  | poll (name : String) (holds : Nat → Bool) :
    IsRecord config factor ((config.poll name call).rehearse ⟨holds, factor⟩).2

/-- Calls and pauses, one after the other. -/
def alternating (config : Backoff) (factor : Nat → Rat) (k : Nat) : List Moment :=
  (List.range k).flatMap fun i ↦ [.called, .paused (config.delay i * factor i)]

theorem steps_rounds (config : Backoff) (notes : Nat → Rat → List LogEvent) (factor : Nat → Rat)
    (k : Nat) : (config.rounds notes factor k).steps = config.alternating factor k := by
  induction k with
  | zero => rfl
  | succ k ih => simp [rounds, ih, alternating, List.range_succ]

theorem LastCall.isAllowed {succeeds : Nat → Bool} (h : config.LastCall succeeds k)
    (hlimited : config.maxAttempts ≠ 0) : k < config.maxAttempts := by
  rcases k with _ | k
  · omega
  · exact (config.isExhausted_eq_false_iff _).1 (h.goesOn k (Nat.lt_succ_self k)).isAllowed hlimited

/-- **A loop makes rounds, fewer than it may make calls**, and ends with a call or crashes. -/
theorem IsRecord.exists_rounds (h : config.IsRecord factor record) :
    ∃ notes k, (config.maxAttempts ≠ 0 → k < config.maxAttempts) ∧
      (record = config.rounds notes factor k ∨
        ∃ events, record = (config.rounds notes factor k).called.noted events) := by
  cases h with
  | retry name describe outcome =>
    obtain ⟨k, hlast⟩ := config.exists_lastCall fun i ↦ (outcome i).isOk
    refine ⟨retryNotes name describe outcome, ?_⟩
    by_cases hstops : (outcome k).isOk = true ∨ config.isExhausted (k + 1) = true
    · rw [rehearse_retry ⟨outcome, factor⟩ hlast hstops]
      exact ⟨k, hlast.isAllowed, Or.inr ⟨_, rfl⟩⟩
    · rw [not_or, Bool.not_eq_true, Bool.not_eq_true] at hstops
      rw [rehearse_retry_crash ⟨outcome, factor⟩ hlast hstops.1 hstops.2]
      exact ⟨k + 1, (config.isExhausted_eq_false_iff _).1 hstops.2, Or.inl rfl⟩
  | poll name holds =>
    obtain ⟨k, hlast⟩ := config.exists_lastCall holds
    refine ⟨pollNotes name, ?_⟩
    by_cases hstops : holds k = true ∨ config.isExhausted (k + 1) = true
    · rw [rehearse_poll ⟨holds, factor⟩ hlast hstops]
      exact ⟨k, hlast.isAllowed, Or.inr ⟨[], (Record.noted_nil _).symm⟩⟩
    · rw [not_or, Bool.not_eq_true, Bool.not_eq_true] at hstops
      rw [rehearse_poll_crash ⟨holds, factor⟩ hlast hstops.1 hstops.2]
      exact ⟨k + 1, (config.isExhausted_eq_false_iff _).1 hstops.2, Or.inl rfl⟩

theorem IsRecord.draws_lt (h : config.IsRecord factor record) (hlimited : config.maxAttempts ≠ 0) :
    record.draws < config.maxAttempts := by
  obtain ⟨notes, k, hk, rfl | ⟨events, rfl⟩⟩ := h.exists_rounds <;> simpa using hk hlimited

theorem IsRecord.pauses_eq (h : config.IsRecord factor record) :
    record.pauses = (List.range record.draws).map fun k ↦ config.delay k * factor k := by
  obtain ⟨notes, k, -, rfl | ⟨events, rfl⟩⟩ := h.exists_rounds <;> simp [pauses_rounds]

/-- **Calls and pauses alternate**, up to a call at the end. -/
theorem IsRecord.steps_eq (h : config.IsRecord factor record) : ∃ last : List Moment,
    (last = [] ∨ last = [.called]) ∧
      record.steps = config.alternating factor record.draws ++ last := by
  obtain ⟨notes, k, -, rfl | ⟨events, rfl⟩⟩ := h.exists_rounds
  · exact ⟨[], Or.inl rfl, by simp [steps_rounds]⟩
  · exact ⟨[.called], Or.inr rfl, by simp [steps_rounds]⟩

/-! ### Bounds -/

theorem sum_map_range (f : Nat → Rat) (k : Nat) :
    ((List.range k).map f).sum = ∑ i ∈ range k, f i := by
  induction k with
  | zero => rfl
  | succ k ih => simp [List.range_succ, sum_range_succ, ih]

theorem sum_scheduled_le (config : Backoff) (n : Nat) :
    ∑ k ∈ range n, config.scheduled k ≤ n * config.maxDelay := by
  simpa using sum_le_card_nsmul (range n) _ _ fun k _ ↦ config.scheduled_le k

/-- Pauses are stretched or cut by a half at most. -/
theorem scheduled_mul_bounds (hmultiplier : 1 ≤ config.multiplier)
    (hfactor : 1 / 2 ≤ factor k ∧ factor k < 3 / 2) :
    1 / 2 * config.scheduled k ≤ config.scheduled k * factor k ∧
      config.scheduled k * factor k ≤ 3 / 2 * config.scheduled k := by
  have hnonneg := scheduled_nonneg hmultiplier k
  rw [mul_comm (1 / 2), mul_comm (3 / 2)]
  exact ⟨mul_le_mul_of_nonneg_left hfactor.1 hnonneg,
    mul_le_mul_of_nonneg_left hfactor.2.le hnonneg⟩

theorem IsRecord.pauses_eq_scheduled (hmultiplier : 1 ≤ config.multiplier)
    (hinitial : config.initialDelay ≤ config.maxDelay) (h : config.IsRecord factor record) :
    record.pauses = (List.range record.draws).map fun k ↦ config.scheduled k * factor k := by
  rw [h.pauses_eq, funext (delay_eq_scheduled hmultiplier hinitial)]

/-- **A loop that is limited pauses no longer than the schedule allows.** -/
theorem IsRecord.sum_pauses_le (hmultiplier : 1 ≤ config.multiplier)
    (hinitial : config.initialDelay ≤ config.maxDelay)
    (hfactor : ∀ k, 1 / 2 ≤ factor k ∧ factor k < 3 / 2) (h : config.IsRecord factor record)
    (hlimited : config.maxAttempts ≠ 0) :
    record.pauses.sum ≤ 3 / 2 * ∑ k ∈ range (config.maxAttempts - 1), config.scheduled k := by
  have hdraws : range record.draws ⊆ range (config.maxAttempts - 1) :=
    range_subset_range.2 (Nat.le_sub_one_of_lt (h.draws_lt hlimited))
  calc record.pauses.sum
      = ∑ k ∈ range record.draws, config.scheduled k * factor k := by
        rw [h.pauses_eq_scheduled hmultiplier hinitial, sum_map_range]
    _ ≤ ∑ k ∈ range record.draws, 3 / 2 * config.scheduled k :=
        sum_le_sum fun k _ ↦ (scheduled_mul_bounds hmultiplier (hfactor k)).2
    _ ≤ ∑ k ∈ range (config.maxAttempts - 1), 3 / 2 * config.scheduled k :=
        sum_le_sum_of_subset_of_nonneg hdraws fun k _ _ ↦
          mul_nonneg (by norm_num) (scheduled_nonneg hmultiplier k)
    _ = 3 / 2 * ∑ k ∈ range (config.maxAttempts - 1), config.scheduled k := by rw [mul_sum]

/-- **Pauses follow the schedule.** They come between calls, each is as scheduled but for a factor,
and what is scheduled never decreases; all pauses of a loop that is limited stay within the sum of
what is scheduled before its last call, and half as much again. -/
theorem pauses_follow_schedule (hmultiplier : 1 ≤ config.multiplier)
    (hinitial : config.initialDelay ≤ config.maxDelay)
    (hfactor : ∀ k, 1 / 2 ≤ factor k ∧ factor k < 3 / 2) (h : config.IsRecord factor record) :
    (∃ last : List Moment, (last = [] ∨ last = [.called]) ∧
      record.steps = ((List.range record.draws).flatMap fun k ↦
        [.called, .paused (config.scheduled k * factor k)]) ++ last) ∧
    Monotone config.scheduled ∧
    (∀ k ns, record.pauses[k]? = some ns → ns = config.scheduled k * factor k ∧
      1 / 2 * config.scheduled k ≤ ns ∧ ns ≤ 3 / 2 * config.scheduled k) ∧
    (config.maxAttempts ≠ 0 →
      record.pauses.sum ≤ 3 / 2 * ∑ k ∈ range (config.maxAttempts - 1), config.scheduled k ∧
      3 / 2 * ∑ k ∈ range (config.maxAttempts - 1), config.scheduled k ≤
        3 / 2 * ((config.maxAttempts - 1 : Nat) * config.maxDelay)) := by
  refine ⟨?_, monotone_nat_of_le_succ (scheduled_le_succ hmultiplier), ?_, fun hlimited ↦ ⟨?_, ?_⟩⟩
  · have hsteps := h.steps_eq
    rwa [alternating, funext (delay_eq_scheduled hmultiplier hinitial)] at hsteps
  · intro k ns hns
    rw [h.pauses_eq_scheduled hmultiplier hinitial, List.getElem?_map,
      Option.map_eq_some_iff] at hns
    obtain ⟨i, hi, rfl⟩ := hns
    obtain ⟨hlt, rfl⟩ := List.getElem?_eq_some_iff.1 hi
    rw [List.getElem_range]
    exact ⟨rfl, scheduled_mul_bounds hmultiplier (hfactor k)⟩
  · exact h.sum_pauses_le hmultiplier hinitial hfactor hlimited
  · exact mul_le_mul_of_nonneg_left (config.sum_scheduled_le _) (by norm_num)

/-- Three pauses of which the last two are cut, each a quarter longer than scheduled. -/
theorem pauses_follow_schedule_capped :
    let config : Backoff := ⟨4, 10, 15, 2⟩
    let record := ((config.poll "cond" call).rehearse ⟨fun _ ↦ false, fun _ ↦ 5 / 4⟩).2
    1 ≤ config.multiplier ∧ config.initialDelay ≤ config.maxDelay ∧
      config.IsRecord (fun _ ↦ 5 / 4) record ∧ record.pauses = [25 / 2, 75 / 4, 75 / 4] ∧
      config.scheduled 0 = 10 ∧ config.scheduled 1 = 15 ∧ config.scheduled 2 = 15 ∧
      record.pauses.sum ≤ 60 := by
  intro config record
  have hrecord : config.IsRecord (fun _ ↦ 5 / 4) record := .poll "cond" fun _ ↦ false
  have hfactor : ∀ _ : Nat, (1 / 2 : Rat) ≤ 5 / 4 ∧ (5 / 4 : Rat) < 3 / 2 := fun _ ↦ by norm_num
  have hpauses : record.pauses = [25 / 2, 75 / 4, 75 / 4] := by decide +kernel
  obtain ⟨-, -, heach, htotal⟩ := pauses_follow_schedule (by decide) (by decide) hfactor hrecord
  -- each pause tells what was scheduled
  have hfirst : 25 / 2 = config.scheduled 0 * (5 / 4) := (heach 0 _ (by rw [hpauses]; rfl)).1
  have hsecond : 75 / 4 = config.scheduled 1 * (5 / 4) := (heach 1 _ (by rw [hpauses]; rfl)).1
  have hthird : 75 / 4 = config.scheduled 2 * (5 / 4) := (heach 2 _ (by rw [hpauses]; rfl)).1
  have h0 : config.scheduled 0 = 10 := by linarith
  have h1 : config.scheduled 1 = 15 := by linarith
  have h2 : config.scheduled 2 = 15 := by linarith
  refine ⟨by decide, by decide, hrecord, hpauses, h0, h1, h2, (htotal (by decide)).1.trans ?_⟩
  show 3 / 2 * ∑ k ∈ range 3, config.scheduled k ≤ 60
  norm_num [sum_range_succ, h0, h1, h2]

end Backoff

end WebhookTrust
