import WebhookTrust.Proofs.Boundary

/-!
# Which configurations come to usable certificates

A configuration is accepted if some settings are not blank and there is a period of checks. That is
not all that it takes. Both names have to be ASCII, or nothing is ever written; and the instant that
is looked at has to lie in the period that certificates are made for, or what was made does not pass
and is replaced by every check.

## The two theorems, and what each rests on

* `Rotator.bootstrap_usable_iff`: this is what it takes, at times that certificates can tell, and
  there is nothing else. It rests on what a check does that has to replace everything
  (`Rotator.ensures_refresh_replaces`) and on what the next one does about certificates of a known
  age (`Rotator.ensures_refresh_again`). The rotator need only be plain: that its names are ASCII
  and that it does not look too far ahead is what the theorem is about. The clock may show anything;
  the condition is on what it showed in the two checks.
* `Rotator.not_usable_of_accepted`: accepted configurations need not have either. Both are checked
  in the world in memory.
-/

namespace WebhookTrust

namespace Rotator

open Procedure

variable {rotator : Rotator} {isTime : Instant → Prop} {dates : Dates} {made : Readings}
  {isKey : Except KeyFault Rsa.PrivateKey → Prop} {scene : Scene}

/-! ### What it takes -/

/-- An instant within the period of a certificate can be looked at. -/
theorem horizon?_of_covers {clock made : Instant}
    (hwindow : Issuance.IsWritableWindow (.standard made))
    (hwithin : (Issuance.periodOf (.standard made)).Covers (rotator.horizon clock)) :
    rotator.horizon? clock = some (rotator.horizon clock) := by
  have hfirst := (Issuance.hasFourDigitYear_iff.1 hwindow.1).1
  have hlast := (Issuance.hasFourDigitYear_iff.1 hwindow.2).2
  obtain ⟨hbegin, hend⟩ := covers_periodOf_standard.1 hwithin
  simp only [Window.standard, Window.until, Instant.addSeconds] at hfirst hlast
  have hlower := Calendar.year_mono (a := (made.seconds + -Issuance.clockSkew) / 86400)
    (b := (rotator.horizon clock).seconds / 86400) (by omega)
  have hupper := Calendar.year_mono (a := (rotator.horizon clock).seconds / 86400)
    (b := (made.seconds + Issuance.lifetime) / 86400) (by omega)
  refine if_pos ⟨?_, ?_⟩
  · simp only [Validation.yearLimit]
    exact le_trans (by omega) (hfirst.trans hlower)
  · exact hupper.trans hlast

/-! ### Two checks -/

/-- What two checks come to that begin without a Secret, if what they leave is of use: the first
makes an authority and a serving certificate that pass as far ahead as it looked, and the second has
nothing to do. -/
structure Bootstraps (rotator : Rotator) (clock : Instant) (scene₁ scene₂ : Scene)
    (first second : Except Halt (Except Error RotationOutcome)) : Prop where
  first : rotator.EndsWith .rotatedCa first
  usable : ∃ secret, scene₁.secret = some secret ∧
    rotator.authorityIsValid secret (rotator.horizon clock) = true ∧
    rotator.leafIsValid secret (rotator.horizon clock) = true
  second : second = .ok (.ok .unchanged)
  same : scene₂ = scene₁

/-- What they come to if certificates can be made, but do not pass as far ahead as checks look: both
replace everything, and there would be as much to do for a third one. -/
structure KeepsReplacing (rotator : Rotator) (isTime : Instant → Prop) (scene scene₂ : Scene)
    (first second : Except Halt (Except Error RotationOutcome)) : Prop where
  first : rotator.EndsWith .rotatedCa first
  second : rotator.EndsWith .rotatedCa second
  writes : scene₂.writes = scene.writes + 2
  useless : ∃ secret, scene₂.secret = some secret ∧ ∀ now, isTime now →
    rotator.authorityIsValid secret (rotator.horizon now) = false

/-- Without a Secret a check has to replace everything. -/
theorem verdict_of_empty (hempty : scene.secret = none) (instant : Instant) :
    rotator.verdict (rotator.subject scene) instant = .rotatedCa := by
  rw [subject, hempty]
  exact verdict_new _

/-- Is nothing that is made at any of the times of use at any? -/
def LooksBeyond (rotator : Rotator) (isTime : Instant → Prop) : Prop :=
  ∀ now made, isTime now → isTime made →
    ¬ (Issuance.periodOf (.standard made)).Covers (rotator.horizon now)

/-- **The check after certificates were made leaves them alone exactly if they last** as far as it
looks. -/
theorem ensures_refresh_of_made (hplain : rotator.IsPlain) (hkeys : IsReliableSource isKey)
    (hplace : rotator.IsPlaced scene) (hmade : rotator.HoldsMade dates scene) :
    Ensures (.sole rotator.config.secretKey isTime isKey fun _ ↦ True)
      (fun result scene' ↦ ∃ readings : Readings, readings.AreWithin isTime ∧
        (result = .ok (.ok .unchanged) ∧ scene' = scene ↔
          dates.Cover (rotator.horizon readings.now)))
      rotator.refresh scene := by
  by_cases hcovers : ∀ now, isTime now → dates.Cover (rotator.horizon now)
  · have hensures := ensures_refresh_of_unchanged hplain hkeys.isFit hplace fun now hnow ↦
      ⟨horizon?_of_covers hmade.1.1 (hcovers now hnow).1,
        (hmade.verdict_eq_unchanged_iff hplain _).2 (hcovers now hnow)⟩
    refine hensures.mono ?_
    rintro result scene' ⟨⟨readings, hwithin⟩, hresult, hsame⟩
    exact ⟨readings, hwithin, iff_of_true ⟨hresult, hsame⟩ (hcovers _ hwithin.now)⟩
  · simp only [not_forall] at hcovers
    obtain ⟨late, hlate, hbeyond⟩ := hcovers
    refine (ensures_refresh_sole hplain hkeys.isFit hplace).mono ?_
    rintro result scene' (⟨readings, outcome, hwithin, h, hends⟩ | hnothing)
    · refine ⟨readings, hwithin, ?_⟩
      rw [← hmade.verdict_eq_unchanged_iff hplain]
      cases h with
      | unchanged _ hinstant hverdict =>
        obtain rfl := horizon?_eq_some hinstant
        exact iff_of_true ⟨hends, rfl⟩ hverdict
      | rotatedLeaf hinstant hverdict | rotatedCa hinstant hverdict =>
        obtain rfl := horizon?_eq_some hinstant
        rw [hverdict]
        refine iff_of_false (fun ⟨hunchanged, _⟩ ↦ ?_) nofun
        rw [hunchanged] at hends
        cases hends.eq_of_ok
    · exact ⟨⟨⟨late, late⟩, late⟩, ⟨hlate, hlate, hlate⟩,
        iff_of_false (fun h ↦ hnothing.ne_ok _ h.1) hbeyond⟩

/-- **It replaces them if they never last**, and it can. -/
theorem ensures_refresh_again (hplain : rotator.IsPlain) (hkeys : IsReliableSource isKey)
    (hplace : rotator.IsPlaced scene) (hmade : rotator.HoldsMade dates scene) :
    Ensures (.sole rotator.config.secretKey isTime isKey fun _ ↦ True)
      (fun result scene' ↦ ∃ readings : Readings, readings.AreWithin isTime ∧
        (result = .ok (.ok .unchanged) ∧ scene' = scene ↔
          dates.Cover (rotator.horizon readings.now)) ∧
        ((∀ now, isTime now →
            ¬ (Issuance.periodOf (.standard dates.ca)).Covers (rotator.horizon now)) →
          (∀ other : Readings, other.AreWithin isTime → rotator.CanReplace other) →
            rotator.HasReplaced readings.toDates scene scene' result))
      rotator.refresh scene := by
  by_cases hnever : ∀ now, isTime now →
      ¬ (Issuance.periodOf (.standard dates.ca)).Covers (rotator.horizon now)
  · have hverdict : ∀ now, isTime now →
        rotator.verdict (rotator.subject scene) (rotator.horizon now) = .rotatedCa := by
      intro now hnow
      rw [verdict_eq_rotatedCa, ← Bool.not_eq_true, (hmade.isValid_iff hplain _).1]
      exact hnever now hnow
    refine (ensures_refresh_replaces hplain hkeys hplace hverdict).mono ?_
    rintro result scene' (⟨readings, hwithin, -, hreplaced⟩ | ⟨hnothing, bad, hbad, hcannot⟩)
    · refine ⟨readings, hwithin, iff_of_false (fun ⟨hunchanged, _⟩ ↦ ?_)
        fun hcovers ↦ hnever _ hwithin.now hcovers.1, fun _ _ ↦ hreplaced⟩
      have hends := hreplaced.ends
      rw [hunchanged] at hends
      cases hends.eq_of_ok
    · exact ⟨bad, hbad, iff_of_false (fun h ↦ hnothing.ne_ok _ h.1)
        fun hcovers ↦ hnever _ hbad.now hcovers.1, fun _ hcan ↦ (hcannot (hcan bad hbad)).elim⟩
  · refine (ensures_refresh_of_made hplain hkeys hplace hmade).mono ?_
    rintro result scene' ⟨readings, hwithin, hiff⟩
    exact ⟨readings, hwithin, hiff, fun h ↦ (hnever h).elim⟩

section Made

variable {seen : Readings} {scene₁ scene₂ : Scene}
  {first second : Except Halt (Except Error RotationOutcome)}

/-- **Once certificates were made, it is their periods that decide**: they have to reach as far as
either check looked. -/
theorem HasReplaced.bootstraps_iff (hplain : rotator.IsPlain) (hcan : rotator.CanReplace made)
    (hfirst : rotator.HasReplaced made.toDates scene scene₁ first)
    (hsecond : second = .ok (.ok .unchanged) ∧ scene₂ = scene₁ ↔
      made.Cover (rotator.horizon seen.now)) :
    rotator.Bootstraps made.now scene₁ scene₂ first second ↔
      rotator.HasAsciiNames ∧ made.AreWritable ∧ made.Cover (rotator.horizon made.now) ∧
        made.Cover (rotator.horizon seen.now) := by
  obtain ⟨hca, hleaf⟩ := hfirst.made.isValid_iff hplain (rotator.horizon made.now)
  constructor
  · intro h
    obtain ⟨secret, hsecret, -, hpasses⟩ := h.usable
    obtain rfl := Option.some.inj (hsecret.symm.trans hfirst.made.secret_eq)
    exact ⟨hcan.1, hcan.2.1, hleaf.1 hpasses, hsecond.1 ⟨h.second, h.same⟩⟩
  · rintro ⟨-, -, hcovers, hlasts⟩
    obtain ⟨hunchanged, hsame⟩ := hsecond.2 hlasts
    exact ⟨hfirst.ends, ⟨_, hfirst.made.secret_eq, hca.2 hcovers.1, hleaf.2 hcovers⟩, hunchanged,
      hsame⟩

/-- What two checks replaced, one after the other, is of no use if no instant that is looked at ever
lies in its period. -/
theorem HasReplaced.keepsReplacing (hplain : rotator.IsPlain) (hseen : isTime seen.ca)
    (hbeyond : rotator.LooksBeyond isTime)
    (hfirst : rotator.HasReplaced made.toDates scene scene₁ first)
    (hsecond : rotator.HasReplaced seen.toDates scene₁ scene₂ second) :
    rotator.KeepsReplacing isTime scene scene₂ first second := by
  refine ⟨hfirst.ends, hsecond.ends, by rw [hsecond.writes, hfirst.writes], _,
    hsecond.made.secret_eq, fun now hnow ↦ ?_⟩
  rw [← Bool.not_eq_true, (hsecond.made.isValid_iff hplain _).1]
  exact hbeyond now seen.ca hnow hseen

end Made

section Runs

variable {σ : Type} {answer : (effect : Effect) → σ → effect.Reply × σ} {shows : σ → Scene → Prop}
  {real : σ}

/-- **What it takes to come to usable certificates.** Nothing fails, nobody else writes, and keys
are fit to sign. Two checks that begin without a Secret leave certificates of use exactly if both
names are ASCII, the dates are such as certificates can tell, and the instants that are looked at
lie in their periods. Where no instant ever does, every check replaces everything; and where nothing
can be made, nothing is ever written. -/
theorem bootstrap_usable_iff (hplain : rotator.IsPlain) (hkeys : IsReliableSource isKey)
    (hkept : (Contract.sole rotator.config.secretKey isTime isKey fun _ ↦ True).KeptBy answer shows)
    (hshows : shows real scene) (hempty : scene.secret = none) :
    let first := rotator.refresh.run answer real
    let second := rotator.refresh.run answer first.2
    ∃ scene₁ scene₂ made seen, shows first.2 scene₁ ∧ shows second.2 scene₂ ∧
      Readings.AreWithin made
        (fun now ↦ isTime now ∧ now ∈ rotator.refresh.readings answer real) ∧
      Readings.AreWithin seen
        (fun now ↦ isTime now ∧ now ∈ rotator.refresh.readings answer first.2) ∧
      (rotator.Bootstraps made.now scene₁ scene₂ first.1 second.1 ↔
        rotator.HasAsciiNames ∧ made.AreWritable ∧ made.Cover (rotator.horizon made.now) ∧
          made.Cover (rotator.horizon seen.now)) ∧
      ((∀ readings : Readings, readings.AreWithin isTime → rotator.CanReplace readings) →
        rotator.LooksBeyond isTime →
          rotator.KeepsReplacing isTime scene scene₂ first.1 second.1) ∧
      ((∀ readings : Readings, readings.AreWithin isTime → ¬ rotator.CanReplace readings) →
        ComesToNothing scene scene₁ first.1 ∧ ComesToNothing scene scene₂ second.1) := by
  intro first second
  have hplace : rotator.IsPlaced scene := by rw [IsPlaced, subject, hempty]; rfl
  obtain ⟨scene₁, hshows₁, ⟨made, hmadeTimes, hcan, hreplaced⟩ | ⟨hnothing, bad, hbad, hcannot⟩⟩ :=
    (ensures_refresh_replaces hplain hkeys hplace fun now _ ↦ verdict_of_empty hempty _).run_shown
      hkept hshows
  · obtain ⟨scene₂, hshows₂, seen, hseenTimes, hiff, hagain⟩ :=
      (ensures_refresh_again hplain hkeys hreplaced.placed hreplaced.made).run_shown hkept hshows₁
    refine ⟨scene₁, scene₂, made, seen, hshows₁, hshows₂, hmadeTimes, hseenTimes,
      hreplaced.bootstraps_iff hplain hcan hiff, fun hall hbeyond ↦ ?_, ?_⟩
    · have hagain := hagain (fun now hnow ↦ hbeyond now made.ca hnow.1 hmadeTimes.ca.1)
        fun other hother ↦ hall other (hother.mono fun _ ↦ And.left)
      exact hreplaced.keepsReplacing hplain hseenTimes.ca.1 hbeyond hagain
    · exact fun hnone ↦ (hnone made (hmadeTimes.mono fun _ ↦ And.left) hcan).elim
  · -- nothing was made, so the second check begins where the first did
    obtain rfl := hnothing.same
    obtain ⟨scene₂, hshows₂, hsecond⟩ := (ensures_refresh_replaces hplain hkeys hplace
      fun now _ ↦ verdict_of_empty hempty _).run_shown hkept hshows₁
    obtain ⟨seen, hseenTimes⟩ : ∃ seen : Readings, seen.AreWithin
        fun now ↦ isTime now ∧ now ∈ rotator.refresh.readings answer first.2 := by
      obtain ⟨seen, hwithin, -⟩ | ⟨-, seen, hwithin, -⟩ := hsecond <;> exact ⟨seen, hwithin⟩
    refine ⟨scene₁, scene₂, bad, seen, hshows₁, hshows₂, hbad, hseenTimes,
      iff_of_false (fun h ↦ ?_) (fun h ↦ ?_), ?_, ?_⟩
    · obtain ⟨secret, hsecret, -⟩ := h.usable
      simp [hempty] at hsecret
    · obtain ⟨hnames, hwindows, hcovers, -⟩ := h
      exact hcannot ⟨hnames, hwindows, horizon?_of_covers hwindows.1 hcovers.1⟩
    · exact fun hall _ ↦ (hcannot (hall bad (hbad.mono fun _ ↦ And.left))).elim
    · intro hnone
      obtain ⟨readings, hwithin, hcan, -⟩ | ⟨hnothing₂, -⟩ := hsecond
      · exact (hnone readings (hwithin.mono fun _ ↦ And.left) hcan).elim
      · exact ⟨hnothing, hnothing₂⟩

end Runs

/-- The sample configuration comes to usable certificates. -/
theorem bootstrap_usable_sample :
    let rotator := Simulation.sampleRotator
    let answer := Simulation.answerMain (Simulation.sampleSetting ⟨0, 0⟩) (.rotator 0)
    rotator.config.validate = .ok () ∧ ∃ after,
      rotator.refresh.run answer (Simulation.sampleWorld none) = (.ok (.ok .rotatedCa), after) ∧
        (rotator.refresh.run answer after).1 = .ok (.ok .unchanged) := by
  obtain ⟨scene₁, scene₂, made, seen, -, -, hmadeTimes, hseenTimes, husable, -⟩ :=
    bootstrap_usable_iff Simulation.isRegular_sample.toIsPlain Simulation.isReliableSource_sample
      (Simulation.keptBy_sample (.rotator 0) ⟨0, 0⟩) (Simulation.shows_sample none) rfl
  obtain rfl := Readings.areWithin_eq.1 (hmadeTimes.mono fun _ ↦ And.left)
  obtain rfl := Readings.areWithin_eq.1 (hseenTimes.mono fun _ ↦ And.left)
  have hwindow : Issuance.IsWritableWindow (.standard ⟨0, 0⟩) := by constructor <;> decide
  have hcovers : (Readings.still ⟨0, 0⟩).Cover (Simulation.sampleRotator.horizon ⟨0, 0⟩) := by
    constructor <;> decide
  obtain ⟨hfirst, -, hsecond, -⟩ := husable.2
    ⟨Simulation.isRegular_sample.names, ⟨hwindow, hwindow⟩, hcovers, hcovers⟩
  obtain ⟨after, hafter⟩ := exists_run_eq (Simulation.eq_of_endsWith_sample hfirst)
  rw [hafter] at hsecond
  exact ⟨by decide, after, hafter, hsecond⟩

/-- **Two accepted configurations that come to nothing of use**: under the one no certificate can be
made for the DNS name, under the other everything is made anew by the second check. -/
theorem not_usable_of_accepted :
    let answer := Simulation.answerMain (Simulation.sampleSetting ⟨0, 0⟩) (.rotator 0)
    let world := Simulation.sampleWorld none
    let sample := Simulation.sampleRotator
    let unnamed : Rotator := { sample with config.dnsName := "wébhook.svc" }
    let farsighted : Rotator := { sample with config.lookahead := 400000000 }
    (unnamed.config.validate = .ok () ∧ ∃ result after,
      unnamed.refresh.run answer world = (result, after) ∧
        (∀ outcome, result ≠ .ok (.ok outcome)) ∧
        after.store.secret? sample.config.secretKey = none) ∧
    farsighted.config.validate = .ok () ∧ ∃ after,
      farsighted.refresh.run answer world = (.ok (.ok .rotatedCa), after) ∧
        (farsighted.refresh.run answer after).1 = .ok (.ok .rotatedCa) := by
  intro answer world sample unnamed farsighted
  have hsample := Simulation.isRegular_sample.toIsPlain
  refine ⟨⟨by decide, ?_⟩, by decide, ?_⟩
  · have hplain : unnamed.IsPlain :=
      { hsample with dnsNameFits := by unfold FitsMemory; decide }
    have hcannot (readings : Readings) : ¬ unnamed.CanReplace readings := fun hcan ↦ by
      have hname := hcan.1.2
      revert hname
      decide
    have hplace : unnamed.IsPlaced (Simulation.sampleScene none) := rfl
    obtain ⟨scene₁, hshows, hfailed⟩ := (ensures_refresh_of_not_canReplace hplain
      Simulation.isReliableSource_sample hplace (fun readings _ ↦ hcannot readings)
      fun _ _ ↦ verdict_new _).run (Simulation.keptBy_sample (.rotator 0) ⟨0, 0⟩)
        (Simulation.shows_sample none)
    have hsecret : scene₁.secret = none := congrArg Scene.secret hfailed.same
    obtain ⟨⟨result, after⟩, hrun⟩ : ∃ run, unnamed.refresh.run answer world = run := ⟨_, rfl⟩
    rw [hrun] at hshows hfailed
    exact ⟨result, after, hrun, hfailed.ne_ok, hshows.secret.symm.trans hsecret⟩
  · have hplain : farsighted.IsPlain := { hsample with }
    have hwindow : Issuance.IsWritableWindow (.standard ⟨0, 0⟩) := by constructor <;> decide
    have hcan (readings : Readings) (hwithin : readings.AreWithin (· = ⟨0, 0⟩)) :
        farsighted.CanReplace readings := by
      obtain rfl := Readings.areWithin_eq.1 hwithin
      exact ⟨Simulation.isRegular_sample.names, ⟨hwindow, hwindow⟩, by decide⟩
    have hplace : farsighted.IsPlaced (Simulation.sampleScene none) := rfl
    have hkept := Simulation.keptBy_sample (.rotator 0) ⟨0, 0⟩
    obtain ⟨scene₁, hshows₁, made, hwithin, hfirst, hmade, hplace₁, -⟩ :=
      (ensures_refresh_of_canReplace hplain Simulation.isReliableSource_sample hplace hcan
        fun _ _ ↦ verdict_new _).run hkept (Simulation.shows_sample none)
    obtain rfl := Readings.areWithin_eq.1 hwithin
    -- what was made ends before the instant that is looked at
    have hverdict : ∀ now, now = ⟨0, 0⟩ →
        farsighted.verdict (farsighted.subject scene₁) (farsighted.horizon now) = .rotatedCa := by
      rintro _ rfl
      rw [verdict_eq_rotatedCa, ← Bool.not_eq_true, (hmade.isValid_iff hplain _).1]
      decide
    obtain ⟨-, -, -, -, hsecond, -⟩ := (ensures_refresh_of_canReplace hplain
      Simulation.isReliableSource_sample hplace₁ hcan hverdict).run hkept hshows₁
    have hfirst := hfirst.eq fun _ ↦ by rintro ⟨⟩
    have hsecond := hsecond.eq fun _ ↦ by rintro ⟨⟩
    obtain ⟨after, hafter⟩ := exists_run_eq hfirst
    rw [hafter] at hsecond
    exact ⟨after, hafter, hsecond⟩

end Rotator

end WebhookTrust
