import WebhookTrust.Proofs.Boundary
import WebhookTrust.Proofs.Reconciliation

/-!
# Trust from end to end

A check that has an outcome leaves a Secret whose authority can be loaded, so the pass that follows
finds one, and every consumer that can take the bundle ends up with the bytes that are stored. The
stored serving certificate passes against them unless it alone was replaced.

## What the theorem rests on

`Rotator.consumers_trust_after_refresh` puts a check and a pass together. Of the check it needs the
six ways to end (`Rotator.ensures_refresh_sole`) and what each leaves behind
(`Rotator.Checks.exists_authority`); of the pass, that it makes everybody trust an authority that
can be loaded (`Reconciler.ensures_reconcile`). Between the two nothing happens: there is no other
writer. What is said of the authority, the consumers and the pass holds whatever the clock shows.
Only that a pair that was just made passes takes a clock on which the instant that is looked at lies
in the periods that start then (`Rotator.IsTimely`), as on any clock that stays within an hour
(`Rotator.IsRegular.isTimely`).
-/

namespace WebhookTrust

namespace Rotator

open Procedure

variable {rotator : Rotator} {isTime : Instant → Prop} {readings : Readings}
  {isKey : Except KeyFault Rsa.PrivateKey → Prop} {scene scene' : Scene} {outcome : RotationOutcome}

/-- **After a check with an outcome there is an authority that can be loaded.** The serving
certificate passes under it if nothing was done, or if both were replaced at times that are near
enough. -/
theorem Checks.exists_authority (hplain : rotator.IsPlain)
    (hkeys : ∀ key, isKey (.ok key) → key.IsFit) (hwithin : readings.AreWithin isTime)
    (h : rotator.Checks readings isKey scene (.ok (.ok outcome)) scene') :
    ∃ secret ca, scene'.secret = some secret ∧ secret.authority = .ok ca ∧
      secret.metadata.isDeleting = (rotator.subject scene).metadata.isDeleting ∧
      scene'.object = scene.object ∧
      (outcome = .unchanged ∨ outcome = .rotatedCa ∧ rotator.IsTimely isTime →
        ∃ now instant, isTime now ∧ rotator.horizon? now = some instant ∧
          rotator.leafIsValid secret instant = true) := by
  cases h with
  | unchanged hsecret hinstant hverdict =>
    obtain ⟨hca, hleaf⟩ := verdict_eq_unchanged.1 hverdict
    obtain ⟨ca, cert, hload, -⟩ := exists_of_authorityIsValid hca
    exact ⟨_, ca, hsecret, hload, rfl, rfl,
      fun _ ↦ ⟨readings.now, _, hwithin.now, hinstant, hleaf⟩⟩
  | @rotatedLeaf stored instant ca issuer key hinstant hverdict hload hissuer hwindow hkey hkept =>
    have hpair := (Secret.authority_eq_ok.1 hload).2.2
    refine ⟨stored, ca, rfl, ?_, hkept.isDeleting, rfl, by simp⟩
    rw [Secret.authority_congr hkept.entries]
    exact Secret.authority_withCertificates hpair
  | @rotatedCa stored instant caKey leafKey hinstant hverdict hnames hwindows hcaKey hleafKey
      hkept =>
    have hpair := (load_newAuthority hplain (hkeys _ hcaKey) hwindows.1).1
    refine ⟨stored, rotator.newAuthority readings.ca caKey, rfl, ?_, hkept.isDeleting, rfl, ?_⟩
    · rw [Secret.authority_congr hkept.entries]
      exact Secret.authority_withCertificates hpair
    · rintro (hunchanged | ⟨-, htimely⟩)
      · cases hunchanged
      refine ⟨readings.now, instant, hwithin.now, hinstant, ?_⟩
      obtain rfl := horizon?_eq_some hinstant
      rw [leafIsValid_congr hkept.entries]
      exact (isValid_withNewAuthority _ _ hplain (hkeys _ hcaKey) (hkeys _ hleafKey) hwindows.1
        hwindows.2).2.2 ⟨htimely _ _ hwithin.now hwithin.ca, htimely _ _ hwithin.now hwithin.leaf⟩

/-- **After a check with an outcome, a pass makes all consumers trust what is stored.** The Secret
and the consumers are in the hands of nobody else, the Secret is not being deleted, and the
consumers that are there and are not being deleted can take a bundle. -/
theorem consumers_trust_after_refresh {σ : Type}
    {answer : (effect : Effect) → σ → effect.Reply × σ} {shows : σ → Scene → Prop} {real after : σ}
    (hplain : rotator.IsPlain) (hkeys : ∀ key, isKey (.ok key) → key.IsFit)
    (hkept : (Contract.sole rotator.config.secretKey isTime isKey fun _ ↦ True).KeptBy answer shows)
    (hshows : shows real scene)
    (hplace : ∀ secret, scene.secret = some secret → secret.key? = some rotator.config.secretKey)
    (hdeleting : ∀ secret, scene.secret = some secret → secret.metadata.isDeleting = false)
    (hcan : ∀ consumer ∈ rotator.config.consumers, scene.CanTake consumer)
    (hrefresh : rotator.refresh.run answer real = (.ok (.ok outcome), after)) :
    ∃ scene₁ secret caPem scene₂ final, shows after scene₁ ∧ scene₁.secret = some secret ∧
      secret.lookup? Secret.caCert = some caPem ∧
      (Reconciler.ofConfig rotator.config).reconcile.run answer after = (.ok (.ok ()), final) ∧
      (∀ event, .log event ∈ (Reconciler.ofConfig rotator.config).reconcile.trace answer after →
        ¬ Reconciler.ReportsMalformed event) ∧
      shows final scene₂ ∧ scene₂.isInjected = true ∧ scene₂.secret = some secret ∧
      scene₂.writes = scene₁.writes ∧
      (∀ consumer ∈ rotator.config.consumers, scene₂.Trusts caPem consumer) ∧
      (outcome = .unchanged ∨ outcome = .rotatedCa ∧ rotator.IsTimely isTime →
        ∃ now instant, isTime now ∧ now ∈ rotator.refresh.readings answer real ∧
          rotator.horizon? now = some instant ∧
          Validation.validate rotator.scheme caPem (secret.lookup Secret.serverCert)
            (secret.lookup Secret.serverKey) rotator.config.dnsName instant = true) := by
  -- the check ends as an attempt with an outcome, after which there is an authority to load
  obtain ⟨scene₁, hshows₁, hends⟩ :=
    (ensures_refresh_sole hplain hkeys (key?_subject hplace)).run_shown hkept hshows
  rw [hrefresh] at hshows₁ hends
  obtain ⟨readings, given, hwithin, hchecks, hends⟩ := hends.resolve_right
    fun h ↦ h.ne_ok outcome rfl
  obtain rfl := hends.eq_of_ok
  obtain ⟨secret, ca, hsecret, hload, hsame, hobject, hleaf⟩ :=
    hchecks.exists_authority hplain hkeys hwithin
  have hlive : secret.metadata.isDeleting = false := by
    rw [hsame, subject]
    cases hfound : scene.secret with
    | none => rfl
    | some found => exact hdeleting found hfound
  have hcan₁ : ∀ consumer ∈ (Reconciler.ofConfig rotator.config).consumers,
      scene₁.CanTake consumer := by
    intro consumer hmem object
    rw [hobject]
    exact hcan consumer hmem object
  -- the pass begins where the check ended, with the same consumers
  have hpass := (Reconciler.ofConfig rotator.config).ensures_reconcile isTime isKey hsecret hlive
    hload hcan₁
  have hkeptSome : (Contract.sole rotator.config.secretKey isTime isKey fun event ↦
      ¬ Reconciler.ReportsMalformed event).KeptBy answer shows := Contract.keptBy_sole_of_all hkept
  obtain ⟨scene₂, hshows₂, hresult, hinjected, hsecret₂, hwrites, -, htrusts⟩ :=
    hpass.run hkeptSome hshows₁
  refine ⟨scene₁, secret, ca.certPem, scene₂, _, hshows₁, hsecret,
    (Secret.authority_eq_ok.1 hload).1, Prod.ext hresult rfl, ?_, hshows₂, hinjected,
    hsecret₂.trans hsecret, hwrites, htrusts, ?_⟩
  · intro event hevent
    obtain ⟨state, hpermits⟩ := hpass.trace hkeptSome hshows₁ _ hevent
    exact hpermits
  · intro houtcome
    obtain ⟨now, instant, hnow, hinstant, hvalid⟩ := hleaf <| houtcome.imp_right fun h ↦
      ⟨h.1, fun now made hnow hmade ↦ h.2 now made hnow.1 hmade.1⟩
    rw [leafIsValid, Secret.lookup, (Secret.authority_eq_ok.1 hload).1] at hvalid
    exact ⟨now, instant, hnow.1, hnow.2, hinstant, hvalid⟩

/-- The consumer of the sample can take a bundle. -/
theorem canTake_sample (secret : Option Secret) :
    ∀ consumer ∈ Simulation.sampleRotator.config.consumers,
      (Simulation.sampleScene secret).CanTake consumer := by
  intro consumer hmem object hobject _
  obtain rfl := List.mem_singleton.1 hmem
  obtain rfl := Option.some.inj hobject
  exact ⟨[.object []], rfl, by simp [Injection.HasClient, Assoc.get?]⟩

/-- The consumer of the sample trusts what the first check of the sample makes, and the serving
certificate passes under it. -/
theorem consumers_trust_after_refresh_absent :
    let rotator := Simulation.sampleRotator
    let answer := Simulation.answerMain (Simulation.sampleSetting ⟨0, 0⟩) (.rotator 0)
    let reconciler := Reconciler.ofConfig rotator.config
    ∃ after final scene secret caPem,
      rotator.refresh.run answer (Simulation.sampleWorld none) = (.ok (.ok .rotatedCa), after) ∧
      reconciler.reconcile.run answer after = (.ok (.ok ()), final) ∧
      final.Shows rotator.config.secretKey (.rotator 0) scene ∧ scene.isInjected = true ∧
      (∀ consumer ∈ rotator.config.consumers, scene.Trusts caPem consumer) ∧
      scene.secret = some secret ∧
      Validation.validate rotator.scheme caPem (secret.lookup Secret.serverCert)
        (secret.lookup Secret.serverKey) rotator.config.dnsName (rotator.horizon ⟨0, 0⟩) =
          true := by
  intro rotator answer reconciler
  have hkept := Simulation.keptBy_sample (.rotator 0) ⟨0, 0⟩
  have hshows := Simulation.shows_sample none
  have hwindow : Issuance.IsWritableWindow (.standard ⟨0, 0⟩) := by constructor <;> decide
  have hplace : rotator.IsPlaced (Simulation.sampleScene none) := rfl
  obtain ⟨-, -, -, -, hends, -⟩ := (ensures_refresh_of_rotatedCa Simulation.isRegular_sample
    Simulation.isReliableSource_sample hplace (by rintro _ rfl; exact hwindow)
    fun _ _ ↦ verdict_new _).run hkept hshows
  obtain ⟨after, hrefresh⟩ := exists_run_eq (Simulation.eq_of_endsWith_sample hends)
  obtain ⟨-, secret, caPem, scene, final, -, -, -, hpass, -, hfinal, hinjected, hsecret, -, htrusts,
      hpasses⟩ :=
    consumers_trust_after_refresh Simulation.isRegular_sample.toIsPlain
      Simulation.isReliableSource_sample.isFit hkept hshows (by rintro _ ⟨⟩) (by rintro _ ⟨⟩)
      (canTake_sample none) hrefresh
  obtain ⟨_, instant, rfl, -, hinstant, hvalid⟩ :=
    hpasses (.inr ⟨rfl, Simulation.isRegular_sample.isTimely_eq _⟩)
  obtain rfl := horizon?_eq_some hinstant
  exact ⟨after, final, scene, secret, caPem, hrefresh, hpass, hfinal, hinjected, htrusts, hsecret,
    hvalid⟩

end Rotator

end WebhookTrust
