import WebhookTrust.Proofs.Atomicity
import WebhookTrust.Proofs.Boundary
import WebhookTrust.Proofs.Healing

/-!
# What a look ahead says about now

A check looks at one instant ahead, and what passes there need not pass now: a certificate may begin
in between (`Rotator.not_passes_before_begin`). This is all that can be amiss. Everything but the
periods is the same at all times, so stored certificates pass exactly while their periods last, and
these end no sooner than the instant that was looked at, unless the check made them itself; then
they run from an hour before they were made until ten years after.

Calls may fail on the way and the clock may show whatever it likes: each certificate that is made is
dated by a reading of its own, and the readings are those in the books of
`WebhookTrust.Proofs.Atomicity`.

## The two theorems, and what each rests on

* `Rotator.passes_during_periods`: after a check with an outcome, the stored certificates pass
  exactly while their periods last. For certificates that were left alone this rests on validation
  depending on the instant through the periods only (`Rotator.exists_lastsDuring_of_unchanged`); for
  those that were made, on their being read as they were written
  (`Rotator.lastsDuring_withNewAuthority`, `Rotator.exists_lastsDuring_withNewLeaf`). One thing is
  left out: a serving certificate under a stored authority whose name does not print as it is taken
  over may pass at no time at all.
* `Rotator.not_passes_before_begin`: certificates that begin in 40 days are left alone by a check
  that looks 90 days ahead. Nothing is wrong with the check; an instant is not a period.
-/

namespace WebhookTrust

/-- The entry is a certificate with that period. -/
def Secret.HasPeriod (secret : Secret) (name : String) (period : Validity) : Prop :=
  ∃ der cert, Material.decodePem (secret.lookup name) Material.certificateTag = .ok der ∧
    Certificate.read? der = some cert ∧ cert.validity = period

/-- Does the authority of the Secret, if it can issue, do so under a name that prints like its own?
-/
def Secret.IssuesUnderItsName (secret : Secret) : Prop :=
  ∀ ca cert issuer, secret.authority = .ok ca → ca.certificate = .ok cert →
    Issuance.CanIssue ca issuer → issuer.text = cert.subject.text

namespace Rotator

open Procedure

variable {rotator : Rotator} {isTime : Instant → Prop}
  {isKey : Except KeyFault Rsa.PrivateKey → Prop} {stored : Option Secret} {ledger : Ledger}
  {attempt : Attempt} {outcome : RotationOutcome} {instant now caNow leafNow : Instant}
  {secret : Secret} {ca : KeyPair} {issuer : Name} {key caKey leafKey : Rsa.PrivateKey}

/-- How long the certificates of a Secret pass that an attempt left when it had looked at an instant
and come to an outcome: exactly while their periods last, if a new serving certificate names its
authority as that prints. What was there before lasts until that instant, and what is new is dated
by a reading of the clock. -/
structure LastsDuring (rotator : Rotator) (attempt : Attempt) (instant : Instant)
    (outcome : RotationOutcome) (secret : Secret) (caPeriod leafPeriod : Validity) : Prop where
  ca : secret.HasPeriod Secret.caCert caPeriod
  leaf : secret.HasPeriod Secret.serverCert leafPeriod
  caPasses : ∀ later, rotator.authorityIsValid secret later = true ↔ caPeriod.Covers later
  leafPasses : (outcome = .rotatedLeaf → (rotator.basis attempt.found).IssuesUnderItsName) →
    ∀ later, rotator.leafIsValid secret later = true ↔
      caPeriod.Covers later ∧ leafPeriod.Covers later
  caEnd : if outcome = .rotatedCa then
      ∃ made ∈ attempt.times, caPeriod = Issuance.periodOf (.standard made)
    else instant.seconds ≤ caPeriod.notAfter.seconds
  leafEnd : if outcome = .unchanged then instant.seconds ≤ leafPeriod.notAfter.seconds
    else ∃ made ∈ attempt.times, leafPeriod = Issuance.periodOf (.standard made)

/-! ### Stored certificates -/

/-- The authority that is loaded is the one in the entry. -/
theorem lookup_of_authority (h : secret.authority = .ok ca) :
    secret.lookup Secret.caCert = ca.certPem := by
  rw [Secret.lookup, (Secret.authority_eq_ok.1 h).1]
  rfl

/-- **Certificates that are left alone pass exactly while their periods last**, which is until the
instant that was looked at. -/
theorem exists_lastsDuring_of_unchanged
    (hverdict : rotator.verdict secret instant = .unchanged) :
    ∃ caPeriod leafPeriod,
      rotator.LastsDuring attempt instant .unchanged secret caPeriod leafPeriod := by
  obtain ⟨hca, hleaf⟩ := verdict_eq_unchanged.1 hverdict
  obtain ⟨ca, cert, hload, hcert, hholds, hpasses⟩ := exists_of_authorityIsValid hca
  obtain ⟨cert', key, leaf, hleafHolds, hleafPasses⟩ :=
    Validation.check_eq_ok.1 (Validation.validate_eq_true.1 hleaf)
  obtain ⟨der, hder, hread⟩ := hholds.ca
  obtain ⟨der', hder', hread'⟩ := hleafHolds.ca
  obtain ⟨leafDer, hleafDer, hleafRead⟩ := hleafHolds.cert
  rw [← lookup_of_authority hload] at hder
  -- both checks read the authority from one entry
  obtain rfl : der = der' := Except.ok.inj (hder.symm.trans hder')
  obtain rfl : cert = cert' := Option.some.inj (hread.symm.trans hread')
  refine ⟨cert.validity, leaf.validity, ⟨der, cert, hder, hread, rfl⟩,
    ⟨leafDer, leaf, hleafDer, hleafRead, rfl⟩, authorityIsValid_iff hca hload hcert, ?_,
    hpasses.caCovers.2, hleafPasses.certCovers.2⟩
  intro _ later
  rw [leafIsValid, Validation.validate_eq_true]
  exact Validation.check_eq_ok_of_passes hleafHolds hleafPasses

/-! ### New certificates -/

/-- The entries of a Secret with a new serving certificate. -/
theorem lookup_withCertificates (secret : Secret) (ca : KeyPair) (leaf : PemPair) :
    (secret.withCertificates ca leaf).lookup Secret.caCert = ca.certPem ∧
      (secret.withCertificates ca leaf).lookup Secret.serverCert = leaf.certPem := by
  obtain ⟨hca, -, hleaf, -⟩ := Secret.lookup?_withCertificates secret ca leaf
  rw [Secret.lookup, Secret.lookup, hca, hleaf]
  exact ⟨rfl, rfl⟩

/-- A new serving certificate is read with the period that it was made for. -/
theorem hasPeriod_withNewLeaf (hplain : rotator.IsPlain) (hsigner : ca.key.isConsistent = true)
    (hkey : key.IsFit) (hissuer : issuer.IsWritable) (hlength : issuer.encode.length ≤ 2 ^ 62)
    (hwindow : Issuance.IsWritableWindow (.standard now)) :
    (rotator.withNewLeaf secret ca issuer now key).HasPeriod Secret.serverCert
      (Issuance.periodOf (.standard now)) := by
  refine ⟨_, _, ?_, Issuance.read?_leaf hkey.consistent hsigner hplain.dnsNameFits hissuer hlength
    hwindow, rfl⟩
  rw [withNewLeaf, (lookup_withCertificates _ _ _).2]
  exact Issuance.decodePem_certificatePem [] (by simp) _

/-- **A pair that was made passes exactly while its periods last.** -/
theorem lastsDuring_withNewAuthority (hplain : rotator.IsPlain) (hcaKey : caKey.IsFit)
    (hleafKey : leafKey.IsFit) (hcaWindow : Issuance.IsWritableWindow (.standard caNow))
    (hleafWindow : Issuance.IsWritableWindow (.standard leafNow))
    (hcaTime : caNow ∈ attempt.times) (hleafTime : leafNow ∈ attempt.times) :
    rotator.LastsDuring attempt instant .rotatedCa
      (rotator.withNewAuthority secret caNow leafNow caKey leafKey)
      (Issuance.periodOf (.standard caNow)) (Issuance.periodOf (.standard leafNow)) := by
  have hvalid := fun later ↦ isValid_withNewAuthority secret later hplain hcaKey hleafKey hcaWindow
    hleafWindow
  have hread := Issuance.read?_authority hcaKey.consistent hplain.caNameFits
    hplain.caOrganizationFits hcaWindow
  refine ⟨⟨_, _, ?_, hread, rfl⟩, ?_, fun later ↦ (hvalid later).1, fun _ later ↦ (hvalid later).2,
    ⟨caNow, hcaTime, rfl⟩, ⟨leafNow, hleafTime, rfl⟩⟩
  · rw [withNewAuthority, withNewLeaf, (lookup_withCertificates _ _ _).1]
    exact Issuance.decodePem_certificatePem [] (by simp) _
  · exact hasPeriod_withNewLeaf hplain hcaKey.consistent hleafKey
      (Issuance.isWritable_authorityName _ _)
      (Issuance.length_authorityName_le hplain.caNameFits hplain.caOrganizationFits) hleafWindow

/-- **A serving certificate that was made under a stored authority passes exactly while both periods
last**, if its issuer prints as the authority. -/
theorem exists_lastsDuring_withNewLeaf (hplain : rotator.IsPlain)
    (hstored : (rotator.basis attempt.found).HasReliableAuthority)
    (hvalid : rotator.authorityIsValid (rotator.basis attempt.found) instant = true)
    (hload : (rotator.basis attempt.found).authority = .ok ca)
    (hissuer : Issuance.CanIssue ca issuer) (hkey : key.IsFit)
    (hwindow : Issuance.IsWritableWindow (.standard now)) (htime : now ∈ attempt.times) :
    ∃ caPeriod leafPeriod, rotator.LastsDuring attempt instant .rotatedLeaf
      (rotator.withNewLeaf (rotator.basis attempt.found) ca issuer now key) caPeriod
      leafPeriod := by
  obtain ⟨ca', cert, hload', hcert, hholds, hpasses⟩ := exists_of_authorityIsValid hvalid
  obtain rfl : ca' = ca := Except.ok.inj (hload'.symm.trans hload)
  obtain ⟨hfits, hverifies⟩ := hstored ca' issuer hload hissuer
  obtain ⟨der, hder, hread⟩ := hholds.ca
  refine ⟨cert.validity, Issuance.periodOf (.standard now), ⟨der, cert, ?_, hread, rfl⟩, ?_, ?_, ?_,
    hpasses.caCovers.2, ⟨now, htime, rfl⟩⟩
  · rw [withNewLeaf, (lookup_withCertificates _ _ _).1]
    exact hder
  · exact hasPeriod_withNewLeaf hplain (Material.isConsistent_of_readKey hholds.key) hkey
      hissuer.isWritable (hissuer.length_encode_le hfits) hwindow
  · intro later
    rw [authorityIsValid_withNewLeaf hload]
    exact authorityIsValid_iff hvalid hload hcert later
  · intro hname later
    have htext := hname rfl ca' cert issuer hload hcert hissuer
    rw [leafIsValid_withNewLeaf hplain hload hvalid hcert hissuer hfits hverifies hkey hwindow]
    exact and_iff_right htext

/-- What a store keeps of a Secret lasts as long. -/
theorem LastsDuring.congr {caPeriod leafPeriod : Validity} {other : Secret}
    (h : rotator.LastsDuring attempt instant outcome secret caPeriod leafPeriod)
    (hentries : other.entries = secret.entries) :
    rotator.LastsDuring attempt instant outcome other caPeriod leafPeriod where
  ca := by
    rw [Secret.HasPeriod, lookup_congr hentries]
    exact h.ca
  leaf := by
    rw [Secret.HasPeriod, lookup_congr hentries]
    exact h.leaf
  caPasses later := by
    rw [authorityIsValid_congr hentries]
    exact h.caPasses later
  leafPasses hname later := by
    rw [leafIsValid_congr hentries]
    exact h.leafPasses hname later
  caEnd := h.caEnd
  leafEnd := h.leafEnd

/-! ### Checks -/

/-- **What an attempt prepared lasts while its periods do.** -/
theorem Prepares.exists_lastsDuring (hplain : rotator.IsPlain)
    (hkeys : ∀ key, .ok key ∈ attempt.keys → Rsa.PrivateKey.IsFit key)
    (hstored : (rotator.basis attempt.found).HasReliableAuthority)
    (h : rotator.Prepares attempt outcome secret) :
    ∃ now instant caPeriod leafPeriod, attempt.times.head? = some now ∧
      rotator.horizon? now = some instant ∧
      rotator.LastsDuring attempt instant outcome secret caPeriod leafPeriod := by
  cases h with
  | @authority now instant caNow leafNow _ _ ca leaf htimes hdrawn hinstant hinvalid hca hleaf =>
    rw [hplain.scheme] at hca hleaf
    obtain ⟨-, caKey, rfl, -, hcaWindow, rfl⟩ := (Issuance.authority_eq_ok _).1 hca
    obtain ⟨-, leafKey, issuer, rfl, -, hissuer, hleafWindow, rfl⟩ := Issuance.leaf_eq_ok.1 hleaf
    have hcaKey := hkeys caKey (by simp [hdrawn])
    have hleafKey := hkeys leafKey (by simp [hdrawn])
    -- the new authority issues under the name that it was made with
    have hissue := canIssue_newAuthority hplain hcaKey hcaWindow
    obtain rfl := Option.some.inj (hissuer.2.2.symm.trans hissue.2.2)
    exact ⟨now, instant, _, _, by rw [htimes]; rfl, hinstant, lastsDuring_withNewAuthority hplain
      hcaKey hleafKey hcaWindow hleafWindow (by simp [htimes]) (by simp [htimes])⟩
  | @leaf now instant leafNow _ ca leaf htimes hdrawn hinstant hvalid hinvalid hca hleaf =>
    rw [hplain.scheme] at hleaf
    obtain ⟨-, leafKey, issuer, rfl, -, hissuer, hleafWindow, rfl⟩ := Issuance.leaf_eq_ok.1 hleaf
    obtain ⟨caPeriod, leafPeriod, hlasts⟩ := exists_lastsDuring_withNewLeaf hplain hstored hvalid
      hca hissuer (hkeys leafKey (by simp [hdrawn])) hleafWindow (by simp [htimes])
    exact ⟨now, instant, caPeriod, leafPeriod, by rw [htimes]; rfl, hinstant, hlasts⟩

/-- **So does what an attempt with an outcome leaves.** -/
theorem Settles.exists_lastsDuring (hplain : rotator.IsPlain)
    (hkeys : ∀ key, .ok key ∈ ledger.attempt.keys → Rsa.PrivateKey.IsFit key)
    (hstored : (rotator.basis stored).HasReliableAuthority)
    (h : rotator.Settles stored (.ok (.ok outcome)) ledger) :
    ∃ now instant secret caPeriod leafPeriod, ledger.attempt.times.head? = some now ∧
      rotator.horizon? now = some instant ∧ ledger.stored = some secret ∧
      rotator.LastsDuring ledger.attempt instant outcome secret caPeriod leafPeriod := by
  cases h with
  | @unchanged _ secret now instant huntouched hsecret hattempt hinstant hverdict =>
    obtain ⟨caPeriod, leafPeriod, hlasts⟩ := exists_lastsDuring_of_unchanged hverdict
    exact ⟨now, instant, secret, caPeriod, leafPeriod, by rw [hattempt]; rfl, hinstant,
      huntouched.stored.trans hsecret, hlasts⟩
  | @rotated _ _ write hcommits hattempt _ =>
    obtain ⟨kept, hkept, hledger⟩ := hcommits.kept
    have hprepares := hcommits.prepares
    rw [hattempt] at hprepares
    rw [← hcommits.found, hattempt] at hstored
    obtain ⟨now, instant, caPeriod, leafPeriod, htime, hinstant, hlasts⟩ :=
      hprepares.exists_lastsDuring hplain hkeys hstored
    exact ⟨now, instant, kept, caPeriod, leafPeriod, htime, hinstant, hledger,
      hlasts.congr hkept.entries⟩

/-- An attempt with an outcome has found what was stored. -/
theorem Settles.found (h : rotator.Settles stored (.ok (.ok outcome)) ledger) :
    ledger.attempt.found = stored := by
  cases h with
  | unchanged _ _ hattempt => rw [hattempt]
  | rotated hcommits hattempt => rw [← hattempt, hcommits.found]

/-- A check with an outcome ends as an attempt settled, but for what the hook is told. -/
theorem ensures_refresh_settles (hhook : rotator.hook.IsQuiet)
    (hplace : (rotator.basis stored).key? = some rotator.config.secretKey) :
    Ensures (.fallible rotator.config.secretKey isTime isKey)
      (fun result ledger ↦ ∀ outcome, result = .ok (.ok outcome) →
        ∃ settled, rotator.Settles stored (.ok (.ok outcome)) settled ∧
          ledger.stored = settled.stored ∧ ledger.attempt = settled.attempt)
      rotator.refresh (.opening stored) := by
  rw [refresh, ensures_andThen]
  refine (ensures_retry_fallible hplace).mono ?_
  intro result settled hsettles
  rcases result with halt | (e | given)
  · show ∀ outcome, _
    simp
  · show ∀ outcome, _
    simp
  have hends : Ensures (.fallible rotator.config.secretKey isTime isKey)
      (fun _ ledger ↦ ledger.stored = settled.stored ∧ ledger.attempt = settled.attempt)
      (rotator.hook given) settled := by
    refine (ensures_of_only (fun ledger ↦ ledger.stored = settled.stored ∧
      ledger.attempt = settled.attempt) (hhook given).only ?_ ⟨rfl, rfl⟩).mono fun _ _ h ↦ h.2
    intro effect hquiet ledger hsame
    cases effect with
    | jitter | sleep | log | record | notify =>
      refine ⟨trivial, ?_⟩
      rintro _ _ rfl
      exact hsame
    | _ => exact hquiet.elim
  cases hwrote : given.wroteSecret with
  | false =>
    simp only [afterOk, hwrote, Bool.false_eq_true, if_false]
    intro outcome houtcome
    obtain rfl : given = outcome := by simpa using houtcome
    exact ⟨settled, hsettles, rfl, rfl⟩
  | true =>
    simp only [afterOk, hwrote, if_true, bind_eq, ensures_bind]
    refine hends.mono ?_
    rintro (halt | u) ledger hsame
    · show ∀ outcome, _
      simp
    · intro outcome houtcome
      obtain rfl : given = outcome := by simpa using houtcome
      exact ⟨settled, hsettles, hsame⟩

/-- What an attempt was given is what the surroundings may give. -/
theorem ensures_given {α : Type} {key : SecretKey} {post : Except Halt α → Ledger → Prop}
    {procedure : Procedure α}
    (h : Ensures (.fallible key isTime isKey) post procedure (.opening stored)) :
    Ensures (.fallible key isTime isKey) (fun result ledger ↦ post result ledger ∧
        (∀ now ∈ ledger.attempt.times, isTime now) ∧ ∀ newKey ∈ ledger.attempt.keys, isKey newKey)
      procedure (.opening stored) := by
  refine h.keeping ?_ ⟨by simp [Ledger.opening], by simp [Ledger.opening]⟩
  intro ledger effect reply ledger' hanswer hgiven
  cases effect with
  | store call =>
    cases call with
    | getSecret =>
      rcases hanswer with ⟨-, rfl⟩ | ⟨-, rfl⟩
      · exact hgiven
      · exact ⟨by simp [Ledger.afterRead], by simp [Ledger.afterRead]⟩
    | createSecret | replaceSecret =>
      rcases hanswer with ⟨-, rfl⟩ | ⟨-, kept, -, rfl⟩ <;> exact hgiven
    | getConsumer | replaceConsumer =>
      obtain rfl := hanswer
      exact hgiven
  | now =>
    obtain ⟨htime, rfl⟩ := hanswer
    exact ⟨List.forall_mem_append.2 ⟨hgiven.1, List.forall_mem_singleton.2 htime⟩, hgiven.2⟩
  | newKey =>
    obtain ⟨hkey, rfl⟩ := hanswer
    exact ⟨hgiven.1, List.forall_mem_append.2 ⟨hgiven.2, List.forall_mem_singleton.2 hkey⟩⟩
  | _ =>
    obtain rfl := hanswer
    exact hgiven

/-- **After a check with an outcome, the stored certificates pass exactly while their periods
last.** These end no sooner than the instant that was looked at, or the check made them, dated by
readings of the clock. Keys are fit to sign, and the stored key, if it may sign, verifies what it
signs. -/
theorem passes_during_periods {σ : Type} {answer : (effect : Effect) → σ → effect.Reply × σ}
    {shows : σ → Ledger → Prop} {real after : σ} (hplain : rotator.IsPlain)
    (hkeys : ∀ key, isKey (.ok key) → key.IsFit)
    (hplace : ∀ secret, stored = some secret → secret.key? = some rotator.config.secretKey)
    (hstored : (rotator.basis stored).HasReliableAuthority)
    (hkept : (Contract.fallible rotator.config.secretKey isTime isKey).KeptBy answer shows)
    (hshows : shows real (.opening stored))
    (hrefresh : rotator.refresh.run answer real = (.ok (.ok outcome), after)) :
    ∃ ledger now instant secret caPeriod leafPeriod, shows after ledger ∧
      ledger.stored = some secret ∧ ledger.attempt.found = stored ∧
      ledger.attempt.times.head? = some now ∧ (∀ time ∈ ledger.attempt.times, isTime time) ∧
      rotator.horizon? now = some instant ∧
      rotator.LastsDuring ledger.attempt instant outcome secret caPeriod leafPeriod := by
  obtain ⟨ledger, hshows', hends, htimes, hdrawn⟩ :=
    (ensures_given (ensures_refresh_settles hplain.hook (key?_basis hplace))).run hkept hshows
  rw [hrefresh] at hshows' hends
  obtain ⟨settled, hsettles, hsame, hattempt⟩ := hends outcome rfl
  rw [hattempt] at htimes hdrawn
  obtain ⟨now, instant, secret, caPeriod, leafPeriod, htime, hinstant, hsecret, hlasts⟩ :=
    hsettles.exists_lastsDuring hplain (fun key hkey ↦ hkeys key (hdrawn _ hkey)) hstored
  refine ⟨ledger, now, instant, secret, caPeriod, leafPeriod, hshows', hsame.trans hsecret, ?_⟩
  rw [hattempt]
  exact ⟨hsettles.found, htime, htimes, hinstant, hlasts⟩

/-- In the world in memory, what the first check makes passes from then on as far as it looked. -/
theorem passes_during_periods_absent :
    ∃ after secret, Simulation.sampleRotator.refresh.run
        (Simulation.answerMain (Simulation.sampleSetting ⟨0, 0⟩) (.rotator 0))
        (Simulation.sampleWorld none) = (.ok (.ok .rotatedCa), after) ∧
      after.store.secret? Simulation.sampleRotator.config.secretKey = some secret ∧
      ∀ later : Instant, 0 ≤ later.seconds → later.seconds ≤ Issuance.standardLookahead →
        Simulation.sampleRotator.authorityIsValid secret later = true ∧
          Simulation.sampleRotator.leafIsValid secret later = true := by
  have hwindow : Issuance.IsWritableWindow (.standard ⟨0, 0⟩) := by constructor <;> decide
  have hplace : Simulation.sampleRotator.IsPlaced (Simulation.sampleScene none) := rfl
  obtain ⟨-, -, -, -, hends, -⟩ := (ensures_refresh_of_rotatedCa Simulation.isRegular_sample
    Simulation.isReliableSource_sample hplace (by rintro _ rfl; exact hwindow)
    fun _ _ ↦ verdict_new _).run (Simulation.keptBy_sample (.rotator 0) ⟨0, 0⟩)
      (Simulation.shows_sample none)
  obtain ⟨after, hrefresh⟩ := exists_run_eq (Simulation.eq_of_endsWith_sample hends)
  have hkept : (Contract.fallible Simulation.sampleRotator.config.secretKey (· = ⟨0, 0⟩)
      Simulation.isSampleKey).KeptBy (Simulation.answerMain (Simulation.sampleSetting ⟨0, 0⟩)
        (.rotator 0)) (Simulation.World.ShowsLedger Simulation.sampleRotator.config.secretKey) :=
    Simulation.keptBy_fallible _ _ rfl fun _ ↦ rfl
  have hshows : (Simulation.sampleWorld none).ShowsLedger
      Simulation.sampleRotator.config.secretKey (.opening none) := ⟨rfl, rfl, rfl, rfl⟩
  obtain ⟨ledger, now, instant, secret, caPeriod, leafPeriod, hshows', hsecret, -, -, htimes, -,
      hlasts⟩ :=
    passes_during_periods Simulation.isRegular_sample.toIsPlain
      Simulation.isReliableSource_sample.isFit (by rintro _ ⟨⟩) (by rintro _ _ ⟨⟩) hkept hshows
      hrefresh
  refine ⟨after, secret, hrefresh, hshows'.stored.symm.trans hsecret, ?_⟩
  intro later hfirst hlast
  -- both certificates were made at the only time that there is
  obtain ⟨caMade, hcaMade, rfl⟩ := hlasts.caEnd
  obtain ⟨leafMade, hleafMade, rfl⟩ := hlasts.leafEnd
  obtain rfl := htimes caMade hcaMade
  obtain rfl := htimes leafMade hleafMade
  have hcovers : (Issuance.periodOf (.standard ⟨0, 0⟩)).Covers later := by
    rw [covers_periodOf_standard]
    simp only [Issuance.clockSkew, Issuance.lifetime, Issuance.standardLookahead] at hlast ⊢
    omega
  exact ⟨(hlasts.caPasses later).2 hcovers,
    (hlasts.leafPasses (by simp) later).2 ⟨hcovers, hcovers⟩⟩

/-- **What passes ahead need not pass now**: certificates that begin in 40 days are left alone by a
check that looks 90 days ahead, although they do not pass when it is made. -/
theorem not_passes_before_begin :
    let rotator := Simulation.sampleRotator
    let key := rotator.config.secretKey
    let begin : Instant := ⟨40 * 86400, 0⟩
    let secret := rotator.withNewAuthority (.new key) begin begin Rsa.pierpontKey Rsa.pierpontKey
    ∃ after, rotator.refresh.run
        (Simulation.answerMain (Simulation.sampleSetting ⟨0, 0⟩) (.rotator 0))
        (Simulation.sampleWorld (some secret)) = (.ok (.ok .unchanged), after) ∧
      0 ≤ rotator.config.lookahead ∧ after.store.secret? key = some secret ∧
      rotator.authorityIsValid secret ⟨0, 0⟩ = false ∧
      rotator.leafIsValid secret ⟨0, 0⟩ = false := by
  intro rotator key begin secret
  have hbegin : Issuance.IsWritableWindow (.standard begin) := by constructor <;> decide
  have hvalid := fun later ↦ isValid_withNewAuthority (.new key) later
    Simulation.isRegular_sample.toIsPlain Rsa.isFit_pierpontKey Rsa.isFit_pierpontKey hbegin hbegin
  have hnot : ¬ (Issuance.periodOf (.standard begin)).Covers ⟨0, 0⟩ := by decide
  have hcovers : (Issuance.periodOf (.standard begin)).Covers (rotator.horizon ⟨0, 0⟩) := by decide
  have hverdict : rotator.verdict (rotator.subject (Simulation.sampleScene (some secret)))
      (rotator.horizon ⟨0, 0⟩) = .unchanged :=
    verdict_eq_unchanged.2 ⟨(hvalid _).1.2 hcovers, (hvalid _).2.2 ⟨hcovers, hcovers⟩⟩
  have hwindow : Issuance.IsWritableWindow (.standard ⟨0, 0⟩) := by constructor <;> decide
  have hplace : rotator.IsPlaced (Simulation.sampleScene (some secret)) := rfl
  obtain ⟨scene, hshows, -, hresult, rfl⟩ := (ensures_refresh_of_unchanged
    Simulation.isRegular_sample.toIsPlain Simulation.isReliableSource_sample.isFit hplace
    (by rintro _ rfl; exact ⟨Simulation.isRegular_sample.horizon?_eq hwindow, hverdict⟩)).run
      (Simulation.keptBy_sample (.rotator 0) ⟨0, 0⟩) (Simulation.shows_sample (some secret))
  obtain ⟨after, hrefresh⟩ := exists_run_eq hresult
  rw [hrefresh] at hshows
  refine ⟨after, hrefresh, by decide, hshows.secret.symm, ?_, ?_⟩
  · rw [← Bool.not_eq_true, (hvalid _).1]
    exact hnot
  · rw [← Bool.not_eq_true, (hvalid _).2]
    exact fun hboth ↦ hnot hboth.1

end Rotator

end WebhookTrust
