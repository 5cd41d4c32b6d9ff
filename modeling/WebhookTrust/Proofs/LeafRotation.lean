import WebhookTrust.Proofs.Attempts
import WebhookTrust.Proofs.Refresh
import WebhookTrust.Proofs.StoredAuthority

/-!
# Replacing the serving certificate alone

An authority that passes is kept when the serving certificate does not pass: it is loaded from the
Secret, signs a new serving certificate, and is written back as the bytes that were read. These may
have any form that passes, so nothing is said of their form here; it is enough that loading keeps
them.

Nothing is assumed of the surroundings either. The contract allows everything (`Contract.free`): the
clock and the source of keys may do as they like, every call may be answered in any way, and anybody
may write in between. What is said is of the effects of the attempt, not of the store after it.

## The theorems, and what each rests on

* `Secret.isReissueOf_withCertificates`: an authority that was loaded is put back as it was. So
  nothing but the serving certificate and its key is changed (`Secret.IsReissueOf`).
* `Rotator.ensures_rotate_reissues`: a rotation of the serving certificate writes nothing else.
* `Rotator.refreshOnce_rotates_leaf`: an attempt that finds such a Secret writes nothing else, and
  if it succeeds it has written just once. Loading cannot fail in it, since an authority that passes
  can be loaded; so it fails for want of a certificate, or by the store.
-/

namespace WebhookTrust

open Procedure

/-- The call that an effect is, if it writes. -/
def Effect.write? : Effect → Option StoreCall
  | .store (.createSecret secret) => some (.createSecret secret)
  | .store (.replaceSecret secret) => some (.replaceSecret secret)
  | .store (.replaceConsumer consumer object) => some (.replaceConsumer consumer object)
  | _ => none

theorem Effect.IsApart.write?_eq_none {effect : Effect} (h : effect.IsApart) :
    effect.write? = none := by
  cases effect <;> first | rfl | exact h.elim

/-- Surroundings that may do anything. -/
def Contract.free : Contract Unit where
  permits _ _ := True
  answers _ _ _ _ := True

theorem Contract.ignoresApart_free : free.IgnoresApart := fun _ _ _ ↦ ⟨trivial, fun _ _ _ ↦ rfl⟩

theorem Contract.keptBy_free {σ : Type} (answer : (effect : Effect) → σ → effect.Reply × σ) :
    free.KeptBy answer fun _ _ ↦ True := fun _ _ _ _ _ ↦ ⟨(), trivial, trivial⟩

namespace Secret

/-- Nothing but the serving certificate and its key differs from another Secret. -/
structure IsReissueOf (written secret : Secret) : Prop where
  metadata : written.metadata = secret.metadata
  type : written.type = secret.type
  others : written.others = secret.others
  lookup? : ∀ name, name ≠ serverCert → name ≠ serverKey →
    written.lookup? name = secret.lookup? name

/-- **An authority that was loaded is put back as it was.** -/
theorem isReissueOf_withCertificates {secret : Secret} {ca : KeyPair} (leaf : PemPair)
    (hload : secret.authority = .ok ca) : (secret.withCertificates ca leaf).IsReissueOf secret where
  metadata := rfl
  type := rfl
  others := rfl
  lookup? name hcert hkey := by
    obtain ⟨hcaCert, hcaKey, -⟩ := authority_eq_ok.1 hload
    rw [withCertificates, lookup?_setEntry_of_ne hkey, lookup?_setEntry_of_ne hcert]
    by_cases hname : name = caKey
    · rw [hname, lookup?_setEntry_self, hcaKey]
    rw [lookup?_setEntry_of_ne hname]
    by_cases hname : name = caCert
    · rw [hname, lookup?_setEntry_self, hcaCert]
    · rw [lookup?_setEntry_of_ne hname]

end Secret

namespace Rotator

variable {rotator : Rotator} {secret : Secret} {instant : Instant}

/-- What an attempt may have written that replaces the serving certificate alone. -/
structure Reissues (secret : Secret) (writes : List StoreCall)
    (result : Except Halt (Except Error RotationOutcome)) : Prop where
  write : ∀ call ∈ writes, ∃ written, call = .replaceSecret written ∧ written.IsReissueOf secret
  success : ∀ outcome, result = .ok (.ok outcome) →
    outcome = .rotatedLeaf ∧ ∃ written, writes = [.replaceSecret written]

/-- **A rotation of the serving certificate writes nothing else.** -/
theorem ensures_rotate_reissues :
    Ensures (Contract.free.noting Effect.write?)
      (fun result state ↦ Reissues secret state.1 result) (rotator.rotate .rotatedLeaf true secret)
      ([], ()) := by
  refine ensures_rotate (Contract.ignoresApart_free.noting fun _ ↦ Effect.IsApart.write?_eq_none)
    (fun e ↦ ⟨by simp, by simp⟩) fun ca leaf hca ↦ ⟨trivial, ?_⟩
  have hwritten := Secret.isReissueOf_withCertificates leaf (hca (by simp))
  rintro reply ⟨writes, ⟨⟩⟩ ⟨hwrites, -⟩
  obtain rfl : writes = [.replaceSecret (secret.withCertificates ca leaf)] := hwrites
  refine ⟨?_, ?_⟩
  · simp only [List.forall_mem_singleton]
    exact ⟨_, rfl, hwritten⟩
  · intro outcome hresult
    rcases reply with e | u
    · cases hresult
    · cases hresult
      exact ⟨rfl, _, rfl⟩

/-- **A check that finds a valid authority and an invalid serving certificate replaces the serving
certificate alone.** The authority can always be loaded, from bytes that are kept; whatever the
surroundings do, nothing is written but the Secret that was read with another serving certificate
and key; and a check that succeeds has written it once, as such a rotation. -/
theorem refreshOnce_rotates_leaf {σ : Type} {answer : (effect : Effect) → σ → effect.Reply × σ}
    {real afterRead afterTime : σ} {now : Instant}
    (hread : answer (.store (.getSecret rotator.config.secretKey)) real =
      (.ok (some secret), afterRead))
    (hnow : answer .now afterRead = (now, afterTime))
    (hinstant : rotator.horizon? now = some instant)
    (hauthority : rotator.authorityIsValid secret instant = true)
    (hleaf : rotator.leafIsValid secret instant = false) :
    (∃ ca, secret.authority = .ok ca ∧ secret.lookup? Secret.caCert = some ca.certPem ∧
      secret.lookup? Secret.caKey = some ca.keyPem) ∧
    Reissues secret ((rotator.refreshOnce.trace answer real).filterMap Effect.write?)
      (rotator.refreshOnce.run answer real).1 := by
  obtain ⟨ca, -, hload, -⟩ := exists_of_authorityIsValid hauthority
  obtain ⟨hcaCert, hcaKey, -⟩ := Secret.authority_eq_ok.1 hload
  refine ⟨⟨ca, hload, hcaCert, hcaKey⟩, ?_⟩
  have hidle : (Contract.free.noting Effect.write?).IsIdle :=
    (Contract.ignoresApart_free.noting fun _ ↦ Effect.IsApart.write?_eq_none).isIdle
  have hrest : Ensures (Contract.free.noting Effect.write?)
      (fun result state ↦ Reissues secret state.1 result)
      ((rotator.assess secret instant).bind (rotator.act true secret)) ([], ()) := by
    refine ensures_assess_bind hidle ?_
    rw [verdict_eq_rotatedLeaf.2 ⟨hauthority, hleaf⟩]
    exact ensures_rotate_reissues
  have hshows : (fun (_ : σ) (_ : Unit) ↦ True) afterTime () := trivial
  obtain ⟨_, _, hreissues⟩ := hrest.run_noting (Contract.keptBy_free answer) hshows
  obtain ⟨hrun, htrace⟩ := run_refreshOnce_of_found hread hnow hinstant
  rw [hrun, htrace]
  exact hreissues

/-- An expired serving certificate under an authority that was just made. -/
theorem refreshOnce_rotates_leaf_expired :
    let expired : Instant := ⟨-Issuance.lifetime, 0⟩
    let secret := Simulation.sampleRotator.withNewAuthority
      (.new Simulation.sampleRotator.config.secretKey) ⟨0, 0⟩ expired Rsa.pierpontKey
      Rsa.pierpontKey
    let answer := Simulation.answerMain (Simulation.sampleSetting ⟨0, 0⟩) (.rotator 0)
    ∃ written, (Simulation.sampleRotator.refreshOnce.trace answer
        (Simulation.sampleWorld (some secret))).filterMap Effect.write? =
          [.replaceSecret written] ∧ written.IsReissueOf secret := by
  intro expired secret answer
  have hregular := Simulation.isRegular_sample
  have hwindow : Issuance.IsWritableWindow (.standard ⟨0, 0⟩) := by
    unfold Issuance.IsWritableWindow
    decide
  have hexpired : Issuance.IsWritableWindow (.standard expired) := by
    unfold Issuance.IsWritableWindow
    decide
  have hinstant := hregular.horizon?_eq hwindow
  obtain ⟨hcaValid, hleafValid⟩ := isValid_withNewAuthority (.new _)
    (Simulation.sampleRotator.horizon ⟨0, 0⟩) hregular.toIsPlain Rsa.isFit_pierpontKey
    Rsa.isFit_pierpontKey hwindow hexpired
  have hauthority := hcaValid.2 (covers_horizon? hregular hinstant)
  have hleaf : Simulation.sampleRotator.leafIsValid secret
      (Simulation.sampleRotator.horizon ⟨0, 0⟩) = false := by
    rw [← Bool.not_eq_true, hleafValid, covers_periodOf_standard, covers_periodOf_standard]
    decide
  obtain ⟨afterRead, hread⟩ : ∃ after,
      answer (.store (.getSecret Simulation.sampleRotator.config.secretKey))
        (Simulation.sampleWorld (some secret)) = (.ok (some secret), after) := ⟨_, rfl⟩
  obtain ⟨afterTime, hnow⟩ : ∃ after, answer .now afterRead = (⟨0, 0⟩, after) := ⟨_, rfl⟩
  obtain ⟨-, hreissues⟩ := refreshOnce_rotates_leaf hread hnow hinstant hauthority hleaf
  have hverdict := verdict_eq_rotatedLeaf.2 ⟨hauthority, hleaf⟩
  have hplace : Simulation.sampleRotator.IsPlaced (Simulation.sampleScene (some secret)) := rfl
  obtain ⟨scene, -, readings, hwithin, hchecks⟩ := (ensures_refreshOnce_sole hregular.toIsPlain
    Simulation.isReliableSource_sample.isFit hplace).run (Simulation.keptBy_sample _ ⟨0, 0⟩)
      (Simulation.shows_sample (some secret))
  obtain rfl := Readings.areWithin_eq.1 hwithin
  -- with an authority that was just made nothing can fail
  have hcan : CanAlwaysMake (· = ⟨0, 0⟩) Simulation.isSampleKey :=
    Simulation.isReliableSource_sample.canAlwaysMake_iff.2 (by rintro _ rfl; exact hwindow)
  have hload : secret.authority =
      .ok (Simulation.sampleRotator.newAuthority ⟨0, 0⟩ Rsa.pierpontKey) :=
    Secret.authority_withCertificates
      (load_newAuthority hregular.toIsPlain Rsa.isFit_pierpontKey hwindow).1
  have hissue := canIssue_newAuthority hregular.toIsPlain Rsa.isFit_pierpontKey hwindow
  obtain ⟨hresult, -⟩ := hchecks.of_rotatedLeaf hregular.names hcan hinstant hverdict hload hissue
  obtain ⟨-, written, hwrites⟩ := hreissues.success _ hresult
  obtain ⟨_, hwritten, hreissue⟩ := hreissues.write _ (hwrites ▸ List.mem_singleton_self _)
  cases hwritten
  exact ⟨written, hwrites, hreissue⟩

end Rotator

end WebhookTrust
