import WebhookTrust.Assoc
import WebhookTrust.Metrics

/-!
# What the instruments show

Readings show an instrument, and a value for its labels, only once something was recorded. What is
shown for labels, or nothing (`Metrics.value`), is the counter that stands behind them.

* `Metrics.value_rotations`, `Metrics.value_errors`, `Metrics.value_injections`,
  `Metrics.value_durations`: by its name and labels, each instrument shows its own counter, and what
  is not shown was counted zero times.
* `Metrics.count_record`: **a record counts what was measured, once**, and nothing else; the time of
  a pass is taken whenever the pass is counted (`Metrics.timed_record`).

How long a pass took is not part of the model, so of times only their number is shown. What it is
that is counted is shown in `WebhookTrust.Proofs.Accounting`.
-/

namespace WebhookTrust

/-- Is the measurement counted? The gauge counts nothing. -/
def Measurement.IsCounted : Measurement → Prop
  | .ready _ => False
  | _ => True

namespace Metrics

/-- How often something was measured. -/
def count (metrics : Metrics) : Measurement → Nat
  | .rotation .ca => metrics.caRotations
  | .rotation .leaf => metrics.leafRotations
  | .rotationError .bootstrap => metrics.bootstrapErrors
  | .rotationError .periodic => metrics.periodicErrors
  | .reconciliation true => metrics.injectionSuccesses
  | .reconciliation false => metrics.injectionErrors
  | .ready _ => 0

/-- How many passes with that result had their time taken. -/
def timed (metrics : Metrics) : Bool → Nat
  | true => metrics.successDurations
  | false => metrics.errorDurations

/-- The labels of passes with a result. -/
def resultLabel : Bool → String
  | true => "result=success"
  | false => "result=error"

/-- What an instrument shows for labels. What it does not show was not counted. -/
def value (metrics : Metrics) (name labels : String) : Nat :=
  ((metrics.read.find? (·.name = name)).bind fun reading ↦ Assoc.get? labels reading.points).getD 0

variable {metrics : Metrics} {measurement other : Measurement}

/-- An instrument that is not shown has no points, so it can as well be shown. -/
theorem bind_find?_filter {readings : List Reading} (hnames : (readings.map (·.name)).Nodup)
    (name labels : String) :
    (((readings.filter (!·.points.isEmpty)).find? (·.name = name)).bind fun reading ↦
        Assoc.get? labels reading.points) =
      (readings.find? (·.name = name)).bind fun reading ↦ Assoc.get? labels reading.points := by
  induction readings with
  | nil => rfl
  | cons reading rest ih =>
    rw [List.map_cons, List.nodup_cons] at hnames
    by_cases hname : reading.name = name
    · have hnone : rest.find? (·.name = name) = none := by
        rw [List.find?_eq_none]
        rintro other hmem hother
        exact hnames.1 (List.mem_map.2 ⟨other, hmem, (of_decide_eq_true hother).trans hname.symm⟩)
      cases hpoints : reading.points with
      | nil =>
        -- the instrument is left out, and no other one has its name
        rw [List.filter_cons_of_neg (by simp [hpoints]), ih hnames.2, hnone,
          List.find?_cons_of_pos (by simpa using hname), Option.bind_some, hpoints]
        rfl
      | cons point points => simp [hpoints, hname]
    · rw [List.find?_cons_of_neg (by simpa using hname), List.filter_cons]
      split
      · rw [List.find?_cons_of_neg (by simpa using hname), ih hnames.2]
      · exact ih hnames.2

/-- The value is looked for among all instruments, shown or not. -/
theorem value_eq (metrics : Metrics) (name labels : String) : metrics.value name labels =
    ((metrics.instruments.find? (·.name = name)).bind fun reading ↦
      Assoc.get? labels reading.points).getD 0 := by
  have hnames : (metrics.instruments.map (·.name)).Nodup := by
    show List.Nodup ["certwarden_cert_rotations_total", "certwarden_rotation_errors_total",
      "certwarden_ca_injections_total", "certwarden_reconcile_duration_seconds", "certwarden_ready"]
    decide
  rw [value, read, bind_find?_filter hnames]

/-- Points that are not shown were counted zero times. -/
theorem getD_get?_counted {first second : String} (h : first ≠ second) (labels : String)
    (m n : Nat) : (Assoc.get? labels (counted [(first, m), (second, n)])).getD 0 =
      (Assoc.get? labels [(first, m), (second, n)]).getD 0 := by
  by_cases hm : m = 0 <;> by_cases hn : n = 0 <;> simp [counted, hm, hn, Assoc.get?] <;> grind

/-- Rotations are shown by their scope. -/
theorem value_rotations (metrics : Metrics) (scope : RotationScope) :
    metrics.value "certwarden_cert_rotations_total" ("scope=" ++ scope.text) =
      metrics.count (.rotation scope) := by
  rw [value_eq]
  refine (getD_get?_counted (by decide) _ metrics.caRotations metrics.leafRotations).trans ?_
  cases scope <;> rfl

/-- Failed checks are shown by their phase. -/
theorem value_errors (metrics : Metrics) (phase : RotationPhase) :
    metrics.value "certwarden_rotation_errors_total" ("phase=" ++ phase.text) =
      metrics.count (.rotationError phase) := by
  rw [value_eq]
  refine (getD_get?_counted (by decide) _ metrics.bootstrapErrors metrics.periodicErrors).trans ?_
  cases phase <;> rfl

/-- Passes are shown by their result. -/
theorem value_injections (metrics : Metrics) (success : Bool) :
    metrics.value "certwarden_ca_injections_total" (resultLabel success) =
      metrics.count (.reconciliation success) := by
  rw [value_eq]
  refine (getD_get?_counted (by decide) _ metrics.injectionSuccesses
    metrics.injectionErrors).trans ?_
  cases success <;> rfl

/-- So is how often their time was taken. -/
theorem value_durations (metrics : Metrics) (success : Bool) :
    metrics.value "certwarden_reconcile_duration_seconds" (resultLabel success) =
      metrics.timed success := by
  rw [value_eq]
  refine (getD_get?_counted (by decide) _ metrics.successDurations metrics.errorDurations).trans ?_
  cases success <;> rfl

/-- **A record counts what was measured, once.** -/
theorem count_record (metrics : Metrics) (measurement counted : Measurement)
    (hcounted : counted.IsCounted) :
    (metrics.record measurement).count counted =
      metrics.count counted + if measurement = counted then 1 else 0 := by
  rcases measurement with (_ | _) | (_ | _) | (_ | _) | value <;>
    rcases counted with (_ | _) | (_ | _) | (_ | _) | other <;>
    first | rfl | exact hcounted.elim

/-- Whenever a pass is counted, its time is taken. -/
theorem timed_record {metrics : Metrics} {success : Bool}
    (h : metrics.timed success = metrics.count (.reconciliation success))
    (measurement : Measurement) : (metrics.record measurement).timed success =
      (metrics.record measurement).count (.reconciliation success) := by
  rw [count_record metrics measurement (.reconciliation success) trivial, ← h]
  rcases measurement with (_ | _) | (_ | _) | (_ | _) | value <;> cases success <;> rfl

end Metrics

end WebhookTrust
