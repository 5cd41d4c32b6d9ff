/-!
# Metrics

Five instruments count what happens. The state of all of them is the list of what was recorded, put
together in counters; a reading shows an instrument only once something was recorded in it, with its
unit, its description and a value for each list of labels.

Of the time that a pass takes only the number of times taken is kept, since nothing here takes time.
Exporting the readings is left to those who read them.
-/

namespace WebhookTrust

/-! ### What is recorded -/

/-- What a rotation replaced: everything, or the serving certificate alone. -/
inductive RotationScope where
  | ca | leaf
deriving DecidableEq, Repr, Inhabited

/-- When a check of the certificates failed: at the start, or later. -/
inductive RotationPhase where
  | bootstrap | periodic
deriving DecidableEq, Repr, Inhabited

/-- The name of a scope. -/
def RotationScope.text : RotationScope → String
  | .ca => "ca"
  | .leaf => "leaf"

/-- The name of a phase. -/
def RotationPhase.text : RotationPhase → String
  | .bootstrap => "bootstrap"
  | .periodic => "periodic"

/-- Something to record. -/
inductive Measurement where
  | rotation (scope : RotationScope)
  /-- A check of the certificates that failed for good. -/
  | rotationError (phase : RotationPhase)
  /-- A finished pass over the consumers, with its time taken. -/
  | reconciliation (success : Bool)
  | ready (value : Bool)
deriving DecidableEq, Repr, Inhabited

/-! ### Counters -/

/-- The values of all instruments. Passes over the consumers are counted twice: as injections, and
as the number of times taken. -/
structure Metrics where
  caRotations : Nat
  leafRotations : Nat
  bootstrapErrors : Nat
  periodicErrors : Nat
  injectionSuccesses : Nat
  injectionErrors : Nat
  successDurations : Nat
  errorDurations : Nat
  /-- The gauge, once it is set. -/
  ready : Option Bool
deriving DecidableEq, Repr, Inhabited

namespace Metrics

/-- The name under which the instruments are registered. -/
def meterName : String := "certwarden"

/-- Instruments in which nothing was recorded. -/
def empty : Metrics := ⟨0, 0, 0, 0, 0, 0, 0, 0, none⟩

/-- The metrics with one more record. -/
def record (metrics : Metrics) : Measurement → Metrics
  | .rotation .ca => { metrics with caRotations := metrics.caRotations + 1 }
  | .rotation .leaf => { metrics with leafRotations := metrics.leafRotations + 1 }
  | .rotationError .bootstrap => { metrics with bootstrapErrors := metrics.bootstrapErrors + 1 }
  | .rotationError .periodic => { metrics with periodicErrors := metrics.periodicErrors + 1 }
  | .reconciliation true =>
    { metrics with
      injectionSuccesses := metrics.injectionSuccesses + 1
      successDurations := metrics.successDurations + 1 }
  | .reconciliation false =>
    { metrics with
      injectionErrors := metrics.injectionErrors + 1
      errorDurations := metrics.errorDurations + 1 }
  | .ready value => { metrics with ready := some value }

/-- What metrics show of themselves in diagnostics: nothing. -/
def summary (_ : Metrics) : String := "RotationMetrics \x7b .. \x7d"

/-! ### Readings -/

/-- What an instrument shows: a value for each list of labels. -/
structure Reading where
  name : String
  unit : String
  description : String
  points : List (String × Nat)
deriving DecidableEq, Repr

/-- The points of labels that have been counted. -/
def counted (points : List (String × Nat)) : List (String × Nat) := points.filter (·.2 ≠ 0)

/-- All instruments, also those without points. -/
def instruments (metrics : Metrics) : List Reading := [
  { name := "certwarden_cert_rotations_total"
    unit := "\x7brotations\x7d"
    description := "Total number of certificate rotations by scope"
    points := counted [("scope=" ++ RotationScope.ca.text, metrics.caRotations),
      ("scope=" ++ RotationScope.leaf.text, metrics.leafRotations)] },
  { name := "certwarden_rotation_errors_total"
    unit := "\x7berrors\x7d"
    description := "Total number of rotation attempts that exhausted retries"
    points := counted [("phase=" ++ RotationPhase.bootstrap.text, metrics.bootstrapErrors),
      ("phase=" ++ RotationPhase.periodic.text, metrics.periodicErrors)] },
  { name := "certwarden_ca_injections_total"
    unit := "\x7bpasses\x7d"
    description := "Total number of CA bundle injection passes by result"
    points := counted [("result=success", metrics.injectionSuccesses),
      ("result=error", metrics.injectionErrors)] },
  { name := "certwarden_reconcile_duration_seconds"
    unit := "s"
    description := "Duration of CA bundle reconciliation in seconds"
    points := counted [("result=success", metrics.successDurations),
      ("result=error", metrics.errorDurations)] },
  { name := "certwarden_ready"
    unit := ""
    description := "1 once certificates are mounted and the CA is injected"
    points := metrics.ready.toList.map fun value ↦ ("", value.toNat) }]

/-- The instruments in which something was recorded. -/
def read (metrics : Metrics) : List Reading := metrics.instruments.filter (!·.points.isEmpty)

end Metrics

end WebhookTrust
