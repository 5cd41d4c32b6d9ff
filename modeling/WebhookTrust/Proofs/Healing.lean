import WebhookTrust.Proofs.Refresh
import WebhookTrust.Proofs.StoredAuthority

/-!
# Healing forward

A check is to leave certificates that pass, whatever it finds. It does so exactly if one of these is
the case (`Rotator.CanHeal`): what is there passes; or the authority does not pass and a new one can
be made; or only the authority passes, and it can be used.

The last is a condition of its own, since validation and issuing read the same stored bytes
differently: issuing also asks that the bytes around the PEM block are text, that the key is of a
size to sign with, and that the name of the authority can be taken over without change.

All of this is told for readings of the clock. That what was made passes depends on when it was made
and at what instant it is looked at, and on a clock that moves about those may be far apart. On one
that stands still the readings are one time, and only the year can stand in the way
(`Rotator.canHeal_still_iff`).

## The two theorems, and what each rests on

* `Rotator.refresh_heals_iff`: a check by the only writer heals exactly what can be healed, at
  readings that its clock did show. It rests on the six ways in which an attempt ends, on what each
  leaves (`Rotator.hasHealed_withNewLeaf`, `Rotator.hasHealed_withNewAuthority`), and on failed
  attempts changing nothing. That the stored key verifies what it signs is assumed: nobody but its
  maker can know.
* `Rotator.not_heals_of_byte`: an authority that was made still passes behind a byte that no text
  has, and then no serving certificate can be made under it. So it is never replaced, and every
  check fails in the same way.
-/

namespace WebhookTrust

/-- Can the authority of a Secret be relied on, if it can issue: does its text fit memory, and does
its key verify what it signs? -/
def Secret.HasReliableAuthority (secret : Secret) : Prop :=
  ∀ ca issuer, secret.authority = .ok ca → Issuance.CanIssue ca issuer →
    ca.certPem.length ≤ 2 ^ 56 ∧ ∀ message,
      Rsa.verify .sha256 ca.key.publicKey message (Rsa.sign .sha256 ca.key message) = true

namespace Rotator

open Procedure

variable {rotator : Rotator} {isTime : Instant → Prop} {readings : Readings} {clock : Instant}
  {isKey : Except KeyFault Rsa.PrivateKey → Prop} {scene : Scene}
  {result : Except Halt (Except Error RotationOutcome)}

/-- Can what is made at a time be written down, and does it last until an instant? -/
def LastsUntil (made instant : Instant) : Prop :=
  Issuance.IsWritableWindow (.standard made) ∧ (Issuance.periodOf (.standard made)).Covers instant

/-- Can a check leave certificates that pass, if it finds the Secret and its clock shows the times?
-/
def CanHeal (rotator : Rotator) (readings : Readings) (secret : Secret) : Prop :=
  ∃ instant, rotator.horizon? readings.now = some instant ∧
    match rotator.verdict secret instant with
    | .unchanged => True
    | .rotatedCa => LastsUntil readings.ca instant ∧ LastsUntil readings.leaf instant
    | .rotatedLeaf => LastsUntil readings.leaf instant ∧
      ∃ ca cert issuer, secret.authority = .ok ca ∧ ca.certificate = .ok cert ∧
        Issuance.CanIssue ca issuer ∧ issuer.text = cert.subject.text

/-- The check came to an outcome, and both certificates pass at the instant that it looked at. -/
def HasHealed (rotator : Rotator) (clock : Instant)
    (result : Except Halt (Except Error RotationOutcome)) (scene : Scene) : Prop :=
  ∃ outcome instant secret, rotator.EndsWith outcome result ∧
    rotator.horizon? clock = some instant ∧
    scene.secret = some secret ∧ rotator.authorityIsValid secret instant = true ∧
    rotator.leafIsValid secret instant = true

/-- Which instant is checked is settled by the time. -/
theorem canHeal_iff {secret : Secret} {instant : Instant}
    (h : rotator.horizon? readings.now = some instant) :
    rotator.CanHeal readings secret ↔ match rotator.verdict secret instant with
      | .unchanged => True
      | .rotatedCa => LastsUntil readings.ca instant ∧ LastsUntil readings.leaf instant
      | .rotatedLeaf => LastsUntil readings.leaf instant ∧
        ∃ ca cert issuer, secret.authority = .ok ca ∧ ca.certificate = .ok cert ∧
          Issuance.CanIssue ca issuer ∧ issuer.text = cert.subject.text := by
  refine ⟨?_, fun hcan ↦ ⟨instant, h, hcan⟩⟩
  rintro ⟨other, hother, hcan⟩
  obtain rfl := Option.some.inj (h.symm.trans hother)
  exact hcan

/-- **On a clock that stands still, what is made lasts as far as checks look**, so that nothing but
the year can stand in its way. -/
theorem canHeal_still_iff (hregular : rotator.IsRegular) {secret : Secret} :
    rotator.CanHeal (.still clock) secret ↔ ∃ instant, rotator.horizon? clock = some instant ∧
      match rotator.verdict secret instant with
      | .unchanged => True
      | .rotatedCa => Issuance.IsWritableWindow (.standard clock)
      | .rotatedLeaf => Issuance.IsWritableWindow (.standard clock) ∧
        ∃ ca cert issuer, secret.authority = .ok ca ∧ ca.certificate = .ok cert ∧
          Issuance.CanIssue ca issuer ∧ issuer.text = cert.subject.text := by
  have hlasts {instant : Instant} (h : rotator.horizon? clock = some instant) :
      LastsUntil clock instant ↔ Issuance.IsWritableWindow (.standard clock) :=
    and_iff_left (covers_horizon? hregular h)
  refine exists_congr fun instant ↦ and_congr_right fun h ↦ ?_
  cases rotator.verdict secret instant with
  | unchanged => rfl
  | rotatedCa => exact (and_self_iff.trans (hlasts h))
  | rotatedLeaf => exact and_congr_left' (hlasts h)

/-- What passes as it is needs no healing. -/
theorem HasHealed.canHeal (h : rotator.HasHealed readings.now result scene) :
    rotator.CanHeal readings (rotator.subject scene) := by
  obtain ⟨-, instant, secret, -, hinstant, hsecret, hca, hleaf⟩ := h
  rw [canHeal_iff hinstant, subject, hsecret, Option.getD_some,
    verdict_eq_unchanged.2 ⟨hca, hleaf⟩]
  trivial

/-- A new serving certificate under the stored authority heals exactly if it lasts until the instant
that is looked at, and the authority issues under a name that prints like its own. -/
theorem hasHealed_withNewLeaf (hplain : rotator.IsPlain) {secret stored : Secret}
    {instant made : Instant} {ca : KeyPair} {cert : Certificate} {issuer : Name}
    {key : Rsa.PrivateKey} (hends : rotator.EndsWith .rotatedLeaf result)
    (hinstant : rotator.horizon? clock = some instant)
    (hvalid : rotator.authorityIsValid secret instant = true) (hload : secret.authority = .ok ca)
    (hcert : ca.certificate = .ok cert) (hissuer : Issuance.CanIssue ca issuer)
    (hfits : ca.certPem.length ≤ 2 ^ 56) (hverifies : ∀ message,
      Rsa.verify .sha256 ca.key.publicKey message (Rsa.sign .sha256 ca.key message) = true)
    (hkey : key.IsFit) (hwindow : Issuance.IsWritableWindow (.standard made))
    (hkept : (rotator.withNewLeaf secret ca issuer made key).IsKeptAs stored) :
    rotator.HasHealed clock result (scene.withSecret stored) ↔
      LastsUntil made instant ∧ issuer.text = cert.subject.text := by
  have hcovers := (authorityIsValid_iff hvalid hload hcert _).1 hvalid
  have hleaf : rotator.leafIsValid stored instant = true ↔
      LastsUntil made instant ∧ issuer.text = cert.subject.text := by
    rw [leafIsValid_congr hkept.entries, leafIsValid_withNewLeaf hplain hload hvalid hcert hissuer
      hfits hverifies hkey hwindow]
    exact ⟨fun ⟨htext, _, hlasts⟩ ↦ ⟨⟨hwindow, hlasts⟩, htext⟩,
      fun ⟨⟨_, hlasts⟩, htext⟩ ↦ ⟨htext, hcovers, hlasts⟩⟩
  rw [← hleaf]
  constructor
  · rintro ⟨_, other, _, -, hother, hsecret, -, hpasses⟩
    obtain rfl := Option.some.inj (hinstant.symm.trans hother)
    obtain rfl := Option.some.inj hsecret
    exact hpasses
  · intro hpasses
    refine ⟨_, instant, stored, hends, hinstant, rfl, ?_, hpasses⟩
    rwa [authorityIsValid_congr hkept.entries, authorityIsValid_withNewLeaf hload]

/-- New certificates heal exactly if both last until the instant that is looked at. -/
theorem hasHealed_withNewAuthority (hplain : rotator.IsPlain) {secret stored : Secret}
    {instant : Instant} {dates : Dates} {caKey leafKey : Rsa.PrivateKey}
    (hends : rotator.EndsWith .rotatedCa result)
    (hinstant : rotator.horizon? clock = some instant) (hcaKey : caKey.IsFit)
    (hleafKey : leafKey.IsFit) (hwindows : dates.AreWritable)
    (hkept : (rotator.withNewAuthority secret dates.ca dates.leaf caKey leafKey).IsKeptAs stored) :
    rotator.HasHealed clock result (scene.withSecret stored) ↔
      LastsUntil dates.ca instant ∧ LastsUntil dates.leaf instant := by
  obtain ⟨hca, hleaf⟩ := isValid_withNewAuthority secret instant hplain hcaKey hleafKey hwindows.1
    hwindows.2
  rw [← authorityIsValid_congr hkept.entries] at hca
  rw [← leafIsValid_congr hkept.entries] at hleaf
  constructor
  · rintro ⟨_, other, _, -, hother, hsecret, -, hpasses⟩
    obtain rfl := Option.some.inj (hinstant.symm.trans hother)
    obtain rfl := Option.some.inj hsecret
    exact ⟨⟨hwindows.1, (hleaf.1 hpasses).1⟩, hwindows.2, (hleaf.1 hpasses).2⟩
  · rintro ⟨⟨-, hcaLasts⟩, -, hleafLasts⟩
    exact ⟨_, instant, stored, hends, hinstant, rfl, hca.2 hcaLasts,
      hleaf.2 ⟨hcaLasts, hleafLasts⟩⟩

/-- An attempt has an outcome if it finds what can be healed. -/
theorem Checks.exists_outcome (hnames : rotator.HasAsciiNames) (hkeys : IsReliableSource isKey)
    {attempt : Except Halt (Except Error RotationOutcome)} {scene' : Scene}
    (h : rotator.Checks readings isKey scene attempt scene')
    (hcan : rotator.CanHeal readings (rotator.subject scene)) :
    ∃ outcome, attempt = .ok (.ok outcome) := by
  cases h with
  | crashed hinstant => simp [CanHeal, hinstant] at hcan
  | failedLeaf hinstant hverdict hcannot =>
    rw [canHeal_iff hinstant, hverdict] at hcan
    rw [hkeys.canAlwaysMake_iff] at hcannot
    obtain ⟨⟨hwindow, -⟩, ca, cert, issuer, hload, -, hissuer, -⟩ := hcan
    exact (hcannot ⟨by rintro _ rfl; exact hwindow, hnames, ca, issuer, hload, hissuer⟩).elim
  | failedCa hinstant hverdict hcannot =>
    rw [canHeal_iff hinstant, hverdict] at hcan
    rw [hkeys.canAlwaysMake_iff] at hcannot
    exact (hcannot ⟨by simp [hcan.1.1, hcan.2.1], hnames⟩).elim
  | unchanged | rotatedLeaf | rotatedCa => exact ⟨_, rfl⟩

/-- **An attempt with an outcome heals exactly if it found what can be healed.** -/
theorem Checks.hasHealed_iff (hplain : rotator.IsPlain) (hkeys : IsReliableSource isKey)
    (hstored : (rotator.subject scene).HasReliableAuthority)
    {outcome : RotationOutcome} {scene' : Scene}
    (h : rotator.Checks readings isKey scene (.ok (.ok outcome)) scene')
    (hends : rotator.EndsWith outcome result) :
    rotator.HasHealed readings.now result scene' ↔
      rotator.CanHeal readings (rotator.subject scene) := by
  cases h with
  | @unchanged instant hsecret hinstant hverdict =>
    obtain ⟨hca, hleaf⟩ := verdict_eq_unchanged.1 hverdict
    rw [canHeal_iff hinstant, hverdict]
    exact iff_of_true ⟨_, instant, _, hends, hinstant, hsecret, hca, hleaf⟩ trivial
  | @rotatedLeaf stored instant ca issuer key hinstant hverdict hload hissuer hwindow hkey hkept =>
    rw [canHeal_iff hinstant, hverdict]
    have hvalid := (verdict_eq_rotatedLeaf.1 hverdict).1
    obtain ⟨ca', cert, hload', hcert, -⟩ := exists_of_authorityIsValid hvalid
    obtain rfl := Except.ok.inj (hload'.symm.trans hload)
    obtain ⟨hfits, hverifies⟩ := hstored _ issuer hload hissuer
    rw [hasHealed_withNewLeaf hplain hends hinstant hvalid hload hcert hissuer hfits hverifies
      (hkeys.isFit key hkey) hwindow hkept]
    refine and_congr_right fun _ ↦ ⟨fun htext ↦ ⟨_, cert, issuer, hload, hcert, hissuer, htext⟩, ?_⟩
    rintro ⟨ca, other, name, hother, hotherCert, hname, htext⟩
    obtain rfl := Except.ok.inj (hload.symm.trans hother)
    obtain rfl := Except.ok.inj (hcert.symm.trans hotherCert)
    obtain rfl := Option.some.inj (hissuer.2.2.symm.trans hname.2.2)
    exact htext
  | @rotatedCa stored instant caKey leafKey hinstant hverdict hnames hwindows hcaKey hleafKey
      hkept =>
    rw [canHeal_iff hinstant, hverdict]
    exact hasHealed_withNewAuthority hplain hends hinstant (hkeys.isFit _ hcaKey)
      (hkeys.isFit _ hleafKey) hwindows hkept

/-- **A check heals exactly what can be healed**, with as many attempts as it makes. -/
theorem ensures_refresh_heals (hplain : rotator.IsPlain) (hnames : rotator.HasAsciiNames)
    (hkeys : IsReliableSource isKey) (hplace : rotator.IsPlaced scene)
    (hstored : (rotator.subject scene).HasReliableAuthority) :
    Ensures (.sole rotator.config.secretKey isTime isKey fun _ ↦ True)
      (fun result scene' ↦ ∃ readings : Readings, readings.AreWithin isTime ∧
        (rotator.HasHealed readings.now result scene' ↔
          rotator.CanHeal readings (rotator.subject scene)))
      rotator.refresh scene := by
  -- what can be healed is healed by the first attempt; what cannot, by no number of them
  by_cases hcan : ∀ readings : Readings, readings.AreWithin isTime →
      rotator.CanHeal readings (rotator.subject scene)
  · refine (ensures_refresh_of_ok hplain hkeys.isFit hplace
      fun readings e scene' hwithin hchecks ↦ ?_).mono ?_
    · obtain ⟨outcome, houtcome⟩ := hchecks.exists_outcome hnames hkeys (hcan readings hwithin)
      simp at houtcome
    · rintro result scene' ⟨readings, attempt, hwithin, hchecks, hconcludes⟩
      obtain ⟨outcome, rfl⟩ := hchecks.exists_outcome hnames hkeys (hcan readings hwithin)
      exact ⟨readings, hwithin, hchecks.hasHealed_iff hplain hkeys hstored hconcludes⟩
  · simp only [not_forall] at hcan
    obtain ⟨bad, hbad, hcannot⟩ := hcan
    refine (ensures_refresh_sole hplain hkeys.isFit hplace).mono ?_
    rintro result scene' (⟨readings, outcome, hwithin, hchecks, hends⟩ | ⟨-, rfl⟩)
    · exact ⟨readings, hwithin, hchecks.hasHealed_iff hplain hkeys hstored hends⟩
    · exact ⟨bad, hbad, iff_of_false (fun hhealed ↦ hcannot hhealed.canHeal) hcannot⟩

/-- **A check by the only writer has an outcome and leaves certificates that pass, exactly if what
it finds can be healed**, at readings that its clock showed. Keys are made and fit to sign, and the
stored key, if it may sign, verifies what it signs. -/
theorem refresh_heals_iff {σ : Type} {answer : (effect : Effect) → σ → effect.Reply × σ}
    {shows : σ → Scene → Prop} {real : σ} (hregular : rotator.IsRegular)
    (hkeys : IsReliableSource isKey)
    (hplace : ∀ secret, scene.secret = some secret → secret.key? = some rotator.config.secretKey)
    (hstored : (rotator.subject scene).HasReliableAuthority)
    (hkept : (Contract.sole rotator.config.secretKey isTime isKey fun _ ↦ True).KeptBy answer shows)
    (hshows : shows real scene) :
    ∃ scene' readings, shows (rotator.refresh.run answer real).2 scene' ∧
      Readings.AreWithin readings
        (fun now ↦ isTime now ∧ now ∈ rotator.refresh.readings answer real) ∧
      (rotator.HasHealed readings.now (rotator.refresh.run answer real).1 scene' ↔
        rotator.CanHeal readings (rotator.subject scene)) := by
  obtain ⟨scene', hshows', readings, hwithin, hiff⟩ := (ensures_refresh_heals hregular.toIsPlain
    hregular.names hkeys (key?_subject hplace) hstored).run_shown hkept hshows
  exact ⟨scene', readings, hshows', hwithin, hiff⟩

/-- A check that finds no Secret heals, in the world in memory. -/
theorem refresh_heals_absent :
    ∃ scene', (Simulation.sampleRotator.refresh.run
        (Simulation.answerMain (Simulation.sampleSetting ⟨0, 0⟩) (.rotator 0))
        (Simulation.sampleWorld none)).2.Shows Simulation.sampleRotator.config.secretKey
          (.rotator 0) scene' ∧
      Simulation.sampleRotator.HasHealed ⟨0, 0⟩ (Simulation.sampleRotator.refresh.run
        (Simulation.answerMain (Simulation.sampleSetting ⟨0, 0⟩) (.rotator 0))
        (Simulation.sampleWorld none)).1 scene' := by
  obtain ⟨scene', readings, hshows, hwithin, hiff⟩ := refresh_heals_iff Simulation.isRegular_sample
    Simulation.isReliableSource_sample (by rintro _ ⟨⟩) (by rintro _ _ ⟨⟩)
    (Simulation.keptBy_sample _ ⟨0, 0⟩) (Simulation.shows_sample none)
  obtain rfl := Readings.areWithin_eq.1 (hwithin.mono fun _ ↦ And.left)
  refine ⟨scene', hshows, hiff.2 ?_⟩
  have hinstant : Simulation.sampleRotator.horizon? ⟨0, 0⟩ =
      some (Simulation.sampleRotator.horizon ⟨0, 0⟩) := by decide
  have hverdict : Simulation.sampleRotator.verdict
      (Simulation.sampleRotator.subject (Simulation.sampleScene none))
      (Simulation.sampleRotator.horizon ⟨0, 0⟩) = .rotatedCa :=
    verdict_new _
  refine (canHeal_still_iff Simulation.isRegular_sample).2 ⟨_, hinstant, ?_⟩
  rw [hverdict]
  constructor <;> decide

/-! ### Authorities that cannot be used -/

/-- An authority that starts with a byte that no text has cannot issue. -/
theorem not_canIssue_of_byte {secret : Secret} {rest : Bytes} {ca : KeyPair} {issuer : Name}
    (hcert : secret.lookup? Secret.caCert = some (0xFF :: rest))
    (hload : secret.authority = .ok ca) :
    ¬ Issuance.CanIssue ca issuer := by
  rintro ⟨htext, -⟩
  have hpem := (Secret.authority_eq_ok.1 hload).1
  have hnone : Utf8.toString? (0xFF :: rest) = none := rfl
  rw [hcert, Option.some.injEq] at hpem
  rw [← hpem, hnone] at htext
  exact Bool.false_ne_true htext

/-- **An authority that was made still passes behind such a byte, and then stands in the way.** -/
theorem not_canHeal_of_byte (rest : Bytes) (hregular : rotator.IsRegular) {secret : Secret}
    (hrest : (45 : UInt8) ∉ rest) {now : Instant} {key : Rsa.PrivateKey} (hkey : key.IsFit)
    (hwindow : Issuance.IsWritableWindow (.standard now))
    (hcert : secret.lookup? Secret.caCert =
      some (0xFF :: (rest ++ (rotator.newAuthority now key).certPem)))
    (hcaKey : secret.lookup? Secret.caKey = some (rotator.newAuthority now key).keyPem)
    {instant : Instant}
    (hinstant : rotator.horizon? readings.now = some instant)
    (hcovers : (Issuance.periodOf (.standard now)).Covers instant)
    (hleaf : rotator.leafIsValid secret instant = false) :
    rotator.authorityIsValid secret instant = true ∧ ¬ rotator.CanHeal readings secret := by
  have hvalid : rotator.authorityIsValid secret instant = true := by
    rw [authorityIsValid, Secret.lookup, Secret.lookup, hcert, hcaKey, Validation.validate_eq_true,
      hregular.scheme]
    exact (Validation.check_authority (0xFF :: rest) (by simpa using hrest) hkey
      hregular.caNameFits hregular.caOrganizationFits hwindow).2 hcovers
  refine ⟨hvalid, ?_⟩
  intro hcan
  rw [canHeal_iff hinstant, verdict_eq_rotatedLeaf.2 ⟨hvalid, hleaf⟩] at hcan
  obtain ⟨-, ca, cert, issuer, hload, -, hissuer, -⟩ := hcan
  exact not_canIssue_of_byte hcert hload hissuer

/-- A Secret with such an authority and nothing else. -/
def unusable (rotator : Rotator) (now : Instant) (key : Rsa.PrivateKey) : Secret :=
  ((Secret.new rotator.config.secretKey).setEntry Secret.caCert
    (0xFF :: 0x0A :: (rotator.newAuthority now key).certPem)).setEntry Secret.caKey
      (rotator.newAuthority now key).keyPem

/-- The entries of a Secret with a byte before its authority, and without a serving certificate. -/
theorem lookup?_unusable (rotator : Rotator) (now : Instant) (key : Rsa.PrivateKey) :
    (rotator.unusable now key).lookup? Secret.caCert =
      some (0xFF :: 0x0A :: (rotator.newAuthority now key).certPem) ∧
    (rotator.unusable now key).lookup? Secret.caKey =
      some (rotator.newAuthority now key).keyPem ∧
    (rotator.unusable now key).lookup? Secret.serverCert = none := by
  have hne : Secret.caCert ≠ Secret.caKey ∧ Secret.serverCert ≠ Secret.caKey ∧
      Secret.serverCert ≠ Secret.caCert := by decide
  obtain ⟨h₁, h₂, h₃⟩ := hne
  simp only [unusable, Secret.lookup?_setEntry_self, Secret.lookup?_setEntry_of_ne h₁,
    Secret.lookup?_setEntry_of_ne h₂, Secret.lookup?_setEntry_of_ne h₃, true_and]
  rfl

/-- **Such a Secret is not healed.** -/
theorem ensures_refresh_not_heals (hregular : rotator.IsRegular) (hkeys : IsReliableSource isKey)
    {key : Rsa.PrivateKey} (hkey : key.IsFit)
    (hwindow : Issuance.IsWritableWindow (.standard clock))
    (hsecret : scene.secret = some (rotator.unusable clock key)) :
    Ensures (.sole rotator.config.secretKey (· = clock) isKey fun _ ↦ True)
      (fun result scene' ↦ ¬ rotator.HasHealed clock result scene') rotator.refresh scene := by
  obtain ⟨hcert, hcaKey, hmissing⟩ := lookup?_unusable rotator clock key
  have hsubject : rotator.subject scene = rotator.unusable clock key := by
    rw [subject, hsecret]
    rfl
  have hplace : rotator.IsPlaced scene := by rw [IsPlaced, hsubject]; rfl
  have hinstant : rotator.horizon? (Readings.still clock).now = some (rotator.horizon clock) :=
    hregular.horizon?_eq hwindow
  obtain ⟨-, hcannot⟩ := not_canHeal_of_byte [0x0A] hregular (by decide) hkey hwindow hcert hcaKey
    hinstant (covers_horizon? hregular hinstant) (leafIsValid_of_missing hmissing)
  rw [← hsubject] at hcannot hcert
  refine (ensures_refresh_heals hregular.toIsPlain hregular.names hkeys hplace
    fun _ _ hload hissuer ↦ (not_canIssue_of_byte hcert hload hissuer).elim).mono ?_
  rintro result scene' ⟨readings, hwithin, hends⟩ hhealed
  obtain rfl := Readings.areWithin_eq.1 hwithin
  exact hcannot (hends.1 hhealed)

/-- Such a Secret is not healed in the world in memory, by a rotator whose configuration is
accepted. -/
theorem not_heals_of_byte :
    let clock : Instant := ⟨0, 0⟩
    let key := Simulation.sampleRotator.config.secretKey
    let secret := Simulation.sampleRotator.unusable clock Rsa.pierpontKey
    let after := Simulation.sampleRotator.refresh.run
      (Simulation.answerMain (Simulation.sampleSetting clock) (.rotator 0))
      (Simulation.sampleWorld (some secret))
    Simulation.sampleRotator.config.validate = .ok () ∧
      ∃ scene', after.2.Shows key (.rotator 0) scene' ∧
        ¬ Simulation.sampleRotator.HasHealed clock after.1 scene' :=
  ⟨by decide, (ensures_refresh_not_heals Simulation.isRegular_sample
    Simulation.isReliableSource_sample Rsa.isFit_pierpontKey (by constructor <;> decide) rfl).run
    (Simulation.keptBy_sample _ _) (Simulation.shows_sample _)⟩

end Rotator

end WebhookTrust
