import WebhookTrust.Proofs.Contract
import WebhookTrust.Proofs.Validation

/-!
# What a check does

A check comes to a verdict on a Secret and acts on it. The verdict is a function of the stored bytes
(`Rotator.verdict`); what is written on a verdict is known up to the times that are read and the
keys that are drawn (`Rotator.withNewAuthority`, `Rotator.withNewLeaf`).

The rules here ask little of the surroundings: that there is a clock, and a source of keys which may
take note of what it gives (`Contract.Equips`). How the store answers is left to those who use them,
and so is what the clock shows from one look to the next.

## What is asked of a rotator

* `Rotator.IsPlain`: it signs with the standard scheme, its names are no longer than a memory, and
  its hook does nothing that concerns the store.
* `Rotator.HasAsciiNames`: its names can stand in certificates. A rotator without it can never make
  any.
* `Rotator.IsRegular`: it is plain, has such names, and looks at most nine years ahead, so that what
  it makes passes when it looks again.
* `Rotator.IsTimely`: whatever two times the clock shows, what is made at one of them passes at the
  instant that is looked at from the other.

## The theorems, and what each rests on

* `Rotator.ensures_refreshOnce`: what a single check ensures, from what is ensured of its read and
  of the rotation by its verdict.
* `Rotator.ensures_rotate_ca`, `Rotator.ensures_rotate_leaf`: what replacing ensures, from what is
  ensured of the write. A rotation that fails before it writes does so for a reason that is given: a
  time that no certificate can tell, a key that could not be made, a name, or an authority that
  cannot issue.
* `Rotator.isValid_withNewAuthority`: what was made passes exactly while its periods last. It rests
  on issuance and validation being inverse to each other on certificates that are written.
* `Rotator.ensures_refresh`: a check ends as its last attempt, but for what the hook does.
-/

namespace WebhookTrust

variable {γ α β : Type} {contract : Contract γ} {state : γ}

/-! ### Secrets with certificates -/

namespace Secret

/-- All four entries are what was written. -/
theorem lookup?_withCertificates (secret : Secret) (ca : KeyPair) (leaf : PemPair) :
    (secret.withCertificates ca leaf).lookup? caCert = some ca.certPem ∧
    (secret.withCertificates ca leaf).lookup? caKey = some ca.keyPem ∧
    (secret.withCertificates ca leaf).lookup? serverCert = some leaf.certPem ∧
    (secret.withCertificates ca leaf).lookup? serverKey = some leaf.keyPem := by
  have hne : caCert ≠ caKey ∧ caCert ≠ serverCert ∧ caCert ≠ serverKey ∧ caKey ≠ serverCert ∧
      caKey ≠ serverKey ∧ serverCert ≠ serverKey := by decide
  obtain ⟨h₁, h₂, h₃, h₄, h₅, h₆⟩ := hne
  simp only [withCertificates, lookup?_setEntry_self, lookup?_setEntry_of_ne h₁,
    lookup?_setEntry_of_ne h₂, lookup?_setEntry_of_ne h₃, lookup?_setEntry_of_ne h₄,
    lookup?_setEntry_of_ne h₅, lookup?_setEntry_of_ne h₆, and_self]

end Secret

/-! ### The instant to check -/

/-- At most one second is carried over from the nanoseconds. -/
theorem Instant.seconds_addNanos (instant : Instant) (nanos : Int) :
    instant.seconds - 1 ≤ (instant.addNanos nanos).seconds ∧
      (instant.addNanos nanos).seconds ≤ instant.seconds + 1 := by
  simp only [addNanos]
  split_ifs <;> simp only <;> omega

namespace Validation

variable {now instant : Instant} {window nanos : Int}

theorem lookaheadInstant?_eq_some (h : lookaheadInstant? now window nanos = some instant) :
    instant = (now.addSeconds window).addNanos nanos := by
  simp only [lookaheadInstant?, Option.ite_none_right_eq_some, Option.some.injEq] at h
  exact h.2.symm

/-- As far as nine years ahead there is an instant to check, if a certificate can be written. -/
theorem lookaheadInstant?_of_isWritable (hwindow : Issuance.IsWritableWindow (.standard now))
    (h : 0 ≤ window) (hle : window ≤ 9 * 366 * 86400) :
    lookaheadInstant? now window nanos = some ((now.addSeconds window).addNanos nanos) := by
  have hfirst := (Issuance.hasFourDigitYear_iff.1 hwindow.1).1
  have hlast := (Issuance.hasFourDigitYear_iff.1 hwindow.2).2
  obtain ⟨hbefore, hafter⟩ := (now.addSeconds window).seconds_addNanos nanos
  simp only [Window.standard, Window.until, Instant.addSeconds, Issuance.clockSkew,
    Issuance.lifetime] at hfirst hlast hbefore hafter
  have hlower := Calendar.year_mono (a := (now.seconds + -3600) / 86400)
    (b := ((now.addSeconds window).addNanos nanos).seconds / 86400)
    (by simp only [Instant.addSeconds]; omega)
  have hupper := Calendar.year_mono (a := ((now.addSeconds window).addNanos nanos).seconds / 86400)
    (b := (now.seconds + 10 * 365 * 86400) / 86400) (by simp only [Instant.addSeconds]; omega)
  refine if_pos ⟨?_, ?_⟩ <;> simp only [yearLimit] <;> omega

end Validation

/-! ### Surroundings with a clock and a source of keys -/

/-- The surroundings tell the time, give keys, and ignore what is quiet. `draw` is what they note of
a key that they gave, or failed to give. -/
structure Contract.Equips (contract : Contract γ) (isTime : Instant → Prop)
    (isKey : Except KeyFault Rsa.PrivateKey → Prop)
    (draw : γ → Except KeyFault Rsa.PrivateKey → γ) : Prop where
  quiet : contract.IsQuiet
  now : ∀ state, contract.permits state .now ∧
    ∀ (now : Instant) state', contract.answers state .now now state' →
      isTime now ∧ state' = state
  newKey : ∀ state, contract.permits state .newKey ∧
    ∀ (newKey : Except KeyFault Rsa.PrivateKey) state',
      contract.answers state .newKey newKey state' → isKey newKey ∧ state' = draw state newKey

/-- Whenever it is, and whatever key is given, a certificate can be made. -/
def CanAlwaysMake (isTime : Instant → Prop)
    (isKey : Except KeyFault Rsa.PrivateKey → Prop) : Prop :=
  (∀ now, isTime now → Issuance.IsWritableWindow (.standard now)) ∧
    ∀ newKey, isKey newKey → ∃ key, newKey = .ok key

/-- The source of keys never fails, and its keys are fit to sign. -/
def IsReliableSource (isKey : Except KeyFault Rsa.PrivateKey → Prop) : Prop :=
  ∀ newKey, isKey newKey → ∃ key, newKey = .ok key ∧ key.IsFit

theorem IsReliableSource.isFit {isKey : Except KeyFault Rsa.PrivateKey → Prop}
    (h : IsReliableSource isKey) (key : Rsa.PrivateKey) (hkey : isKey (.ok key)) : key.IsFit := by
  obtain ⟨other, hother, hfit⟩ := h _ hkey
  exact Except.ok.inj hother ▸ hfit

/-- With such a source, certificates can be made whenever the times can be written. -/
theorem IsReliableSource.canAlwaysMake_iff {isTime : Instant → Prop}
    {isKey : Except KeyFault Rsa.PrivateKey → Prop} (h : IsReliableSource isKey) :
    CanAlwaysMake isTime isKey ↔ ∀ now, isTime now → Issuance.IsWritableWindow (.standard now) := by
  refine and_iff_left fun newKey hnew ↦ ?_
  obtain ⟨key, hkey, -⟩ := h newKey hnew
  exact ⟨key, hkey⟩

/-- What can always be made can be made at some of the times. -/
theorem CanAlwaysMake.mono {isTime isTime' : Instant → Prop}
    {isKey : Except KeyFault Rsa.PrivateKey → Prop} (h : CanAlwaysMake isTime isKey)
    (htimes : ∀ now, isTime' now → isTime now) : CanAlwaysMake isTime' isKey :=
  ⟨fun now htime ↦ h.1 now (htimes now htime), h.2⟩

namespace Rotator

/-- A rotator that signs with the standard scheme. Its hook may tell of what was done, and end the
process. -/
structure IsPlain (rotator : Rotator) : Prop where
  scheme : rotator.scheme = Signature.standard
  hook : rotator.hook.IsQuiet
  caNameFits : FitsMemory rotator.config.caName
  caOrganizationFits : FitsMemory rotator.config.caOrganization
  dnsNameFits : FitsMemory rotator.config.dnsName

/-- Are the names such as certificates can have? -/
def HasAsciiNames (rotator : Rotator) : Prop :=
  Issuance.isAscii rotator.config.caName = true ∧ Issuance.isAscii rotator.config.dnsName = true

/-- A plain rotator with such names that looks at most nine years ahead. -/
structure IsRegular (rotator : Rotator) : Prop extends rotator.IsPlain where
  names : rotator.HasAsciiNames
  lookahead_nonneg : 0 ≤ rotator.config.lookahead
  lookahead_le : rotator.config.lookahead ≤ 9 * 366 * 86400

open Procedure

/-! ### The instant that a check looks at -/

/-- The instant that a check at a time looks at. -/
def horizon (rotator : Rotator) (clock : Instant) : Instant :=
  (clock.addSeconds rotator.config.lookahead).addNanos rotator.config.lookaheadNanos

theorem horizon?_eq_some {rotator : Rotator} {clock instant : Instant}
    (h : rotator.horizon? clock = some instant) : instant = rotator.horizon clock :=
  Validation.lookaheadInstant?_eq_some h

theorem IsRegular.horizon?_eq {rotator : Rotator} (hregular : rotator.IsRegular) {clock : Instant}
    (hwindow : Issuance.IsWritableWindow (.standard clock)) :
    rotator.horizon? clock = some (rotator.horizon clock) :=
  Validation.lookaheadInstant?_of_isWritable hwindow hregular.lookahead_nonneg
    hregular.lookahead_le

/-- A regular rotator looks neither back by more than a second nor further ahead than certificates
last. -/
theorem IsRegular.seconds_horizon {rotator : Rotator} (hregular : rotator.IsRegular)
    (clock : Instant) : clock.seconds - 1 ≤ (rotator.horizon clock).seconds ∧
      (rotator.horizon clock).seconds ≤ clock.seconds + Issuance.lifetime := by
  have hnonneg := hregular.lookahead_nonneg
  have hle := hregular.lookahead_le
  obtain ⟨hbefore, hafter⟩ := (clock.addSeconds rotator.config.lookahead).seconds_addNanos
    rotator.config.lookaheadNanos
  simp only [horizon, Instant.addSeconds, Issuance.lifetime] at hbefore hafter ⊢
  omega

/-! ### Verdicts -/

/-- Does the authority of a Secret pass validation against itself? -/
def authorityIsValid (rotator : Rotator) (secret : Secret) (instant : Instant) : Bool :=
  Validation.validate rotator.scheme (secret.lookup Secret.caCert) (secret.lookup Secret.caCert)
    (secret.lookup Secret.caKey) rotator.config.caName instant

/-- Does the serving certificate of a Secret pass validation under its authority? -/
def leafIsValid (rotator : Rotator) (secret : Secret) (instant : Instant) : Bool :=
  Validation.validate rotator.scheme (secret.lookup Secret.caCert)
    (secret.lookup Secret.serverCert) (secret.lookup Secret.serverKey) rotator.config.dnsName
    instant

/-- What has to be done about a Secret. -/
def verdict (rotator : Rotator) (secret : Secret) (instant : Instant) : RotationOutcome :=
  if rotator.authorityIsValid secret instant then
    if rotator.leafIsValid secret instant then .unchanged else .rotatedLeaf
  else .rotatedCa

variable {rotator : Rotator} {secret : Secret} {instant : Instant}

theorem verdict_eq_unchanged : rotator.verdict secret instant = .unchanged ↔
    rotator.authorityIsValid secret instant = true ∧ rotator.leafIsValid secret instant = true := by
  rw [verdict]
  split_ifs <;> simp_all

theorem verdict_eq_rotatedLeaf : rotator.verdict secret instant = .rotatedLeaf ↔
    rotator.authorityIsValid secret instant = true ∧
      rotator.leafIsValid secret instant = false := by
  rw [verdict]
  split_ifs <;> simp_all

theorem verdict_eq_rotatedCa : rotator.verdict secret instant = .rotatedCa ↔
    rotator.authorityIsValid secret instant = false := by
  rw [verdict]
  split_ifs <;> simp_all

/-- A serving certificate that is missing does not pass. -/
theorem leafIsValid_of_missing (h : secret.lookup? Secret.serverCert = none) :
    rotator.leafIsValid secret instant = false := by
  rw [leafIsValid, ← Bool.not_eq_true, Validation.validate_eq_true, Secret.lookup, Secret.lookup, h]
  intro hcheck
  obtain ⟨ca, key, cert, hholds, -⟩ := Validation.check_eq_ok.1 hcheck
  exact hholds.nonempty.2.1 rfl

/-- Nothing passes without an authority. -/
theorem verdict_new (key : SecretKey) : rotator.verdict (.new key) instant = .rotatedCa := rfl

/-! What passes depends on the entries alone. -/

theorem lookup_congr {other : Secret} (h : other.entries = secret.entries) (name : String) :
    other.lookup name = secret.lookup name := by
  rw [Secret.lookup, Secret.lookup, Secret.lookup?, Secret.lookup?, h]

theorem authorityIsValid_congr {other : Secret} (h : other.entries = secret.entries) :
    rotator.authorityIsValid other instant = rotator.authorityIsValid secret instant := by
  simp only [authorityIsValid, lookup_congr h]

theorem leafIsValid_congr {other : Secret} (h : other.entries = secret.entries) :
    rotator.leafIsValid other instant = rotator.leafIsValid secret instant := by
  simp only [leafIsValid, lookup_congr h]

theorem verdict_congr {other : Secret} (h : other.entries = secret.entries) :
    rotator.verdict other instant = rotator.verdict secret instant := by
  rw [verdict, verdict, authorityIsValid_congr h, leafIsValid_congr h]

/-! ### Coming to a verdict -/

/-- Validation is a function of its material; it only logs what it finds. -/
theorem ensures_passes_bind {post : Except Halt α → γ → Prop} (hcontract : contract.IsIdle)
    {scheme : SignatureScheme} {caPem certPem keyPem : Bytes} {dnsName : String}
    {next : Bool → Procedure α}
    (h : Ensures contract post
      (next (Validation.validate scheme caPem certPem keyPem dnsName instant)) state) :
    Ensures contract post ((passes scheme caPem certPem keyPem dnsName instant).bind next)
      state := by
  rw [passes]
  rw [Validation.validate] at h
  cases hcheck : Validation.check scheme caPem certPem keyPem dnsName instant with
  | ok u =>
    rw [hcheck] at h
    exact h
  | error fault =>
    rw [hcheck] at h
    exact ensures_log_bind hcontract h

/-- **A check comes to the verdict.** -/
theorem ensures_assess_bind {post : Except Halt α → γ → Prop} (hcontract : contract.IsIdle)
    {next : RotationOutcome → Procedure α}
    (h : Ensures contract post (next (rotator.verdict secret instant)) state) :
    Ensures contract post ((rotator.assess secret instant).bind next) state := by
  rw [assess, bind_eq, Procedure.bind_assoc]
  refine ensures_passes_bind hcontract ?_
  cases hca : rotator.authorityIsValid secret instant with
  | false =>
    rw [verdict_eq_rotatedCa.2 hca] at h
    rw [authorityIsValid] at hca
    simpa [hca] using h
  | true =>
    have hvalid := hca
    rw [authorityIsValid] at hca
    simp only [hca, if_true, bind_eq, Procedure.bind_assoc]
    refine ensures_passes_bind hcontract ?_
    cases hleaf : rotator.leafIsValid secret instant with
    | false =>
      rw [verdict_eq_rotatedLeaf.2 ⟨hvalid, hleaf⟩] at h
      rw [leafIsValid] at hleaf
      simpa [hleaf] using h
    | true =>
      rw [verdict_eq_unchanged.2 ⟨hvalid, hleaf⟩] at h
      rw [leafIsValid] at hleaf
      simpa [hleaf] using h

/-! ### Making -/

variable {isTime : Instant → Prop} {isKey : Except KeyFault Rsa.PrivateKey → Prop}
  {draw : γ → Except KeyFault Rsa.PrivateKey → γ}

/-- A new authority is the one for a time that is read and a key that is drawn. -/
theorem ensures_makeAuthority {post : Except Halt (Except Error KeyPair) → γ → Prop}
    (hequips : contract.Equips isTime isKey draw) (hplain : rotator.IsPlain)
    (hunnamed : ∀ e now, isTime now → ¬ rotator.HasAsciiNames → post (.ok (.error e)) state)
    (h : ∀ now newKey, isTime now → isKey newKey →
      post (.ok ((Issuance.authority Signature.standard rotator.config.caName
        rotator.config.caOrganization (.standard now) newKey).mapError
          (issueError "CA generation"))) (draw state newKey)) :
    Ensures contract post rotator.makeAuthority state := by
  refine ⟨(hequips.now state).1, ?_⟩
  intro now state' hnow
  obtain ⟨htime, rfl⟩ := (hequips.now state).2 now state' hnow
  cases hname : Issuance.ensureDnsName rotator.config.caName with
  | error cause =>
    refine hunnamed _ now htime fun hnames ↦ ?_
    have hok := Issuance.ensureDnsName_eq_ok (u := ()).2 hnames.1
    simp [hok] at hname
  | ok u =>
    refine ⟨(hequips.newKey _).1, ?_⟩
    intro newKey state' hnew
    obtain ⟨hkey, rfl⟩ := (hequips.newKey _).2 newKey state' hnew
    rw [hplain.scheme]
    exact h now newKey htime hkey

/-- A new serving certificate is the one for a time that is read and a key that is drawn. -/
theorem ensures_makeLeaf {post : Except Halt (Except Error PemPair) → γ → Prop}
    (hequips : contract.Equips isTime isKey draw) (hplain : rotator.IsPlain) {ca : KeyPair}
    (hunnamed : ∀ e now, isTime now → ¬ rotator.HasAsciiNames → post (.ok (.error e)) state)
    (h : ∀ now newKey, isTime now → isKey newKey →
      post (.ok ((Issuance.leaf Signature.standard rotator.config.dnsName ca (.standard now)
        newKey).mapError (issueError "leaf generation"))) (draw state newKey)) :
    Ensures contract post (rotator.makeLeaf ca) state := by
  refine ⟨(hequips.now state).1, ?_⟩
  intro now state' hnow
  obtain ⟨htime, rfl⟩ := (hequips.now state).2 now state' hnow
  cases hname : Issuance.ensureDnsName rotator.config.dnsName with
  | error cause =>
    refine hunnamed _ now htime fun hnames ↦ ?_
    have hok := Issuance.ensureDnsName_eq_ok (u := ()).2 hnames.2
    simp [hok] at hname
  | ok u =>
    refine ⟨(hequips.newKey _).1, ?_⟩
    intro newKey state' hnew
    obtain ⟨hkey, rfl⟩ := (hequips.newKey _).2 newKey state' hnew
    rw [hplain.scheme]
    exact h now newKey htime hkey

/-! ### What is made -/

/-- The Secret with a serving certificate that was made under an authority. -/
def withNewLeaf (rotator : Rotator) (secret : Secret) (ca : KeyPair) (issuer : Name) (now : Instant)
    (key : Rsa.PrivateKey) : Secret :=
  secret.withCertificates ca
    (Issuance.leafPair rotator.config.dnsName issuer (Issuance.periodOf (.standard now)) ca.key key)

/-- The authority that is made at a time with a key. -/
def newAuthority (rotator : Rotator) (now : Instant) (key : Rsa.PrivateKey) : KeyPair :=
  Issuance.authorityPair rotator.config.caName rotator.config.caOrganization
    (Issuance.periodOf (.standard now)) key

/-- The name that an authority is made with. -/
def authorityName (rotator : Rotator) : Name :=
  Issuance.authorityName rotator.config.caName rotator.config.caOrganization

/-- The Secret with an authority and a serving certificate, made at two times with two keys. -/
def withNewAuthority (rotator : Rotator) (secret : Secret) (caNow leafNow : Instant)
    (caKey leafKey : Rsa.PrivateKey) : Secret :=
  rotator.withNewLeaf secret (rotator.newAuthority caNow caKey) rotator.authorityName leafNow
    leafKey

/-- An authority that was made can issue, under the name of the configuration. -/
theorem canIssue_newAuthority (hplain : rotator.IsPlain) {now : Instant}
    {key : Rsa.PrivateKey} (hkey : key.IsFit)
    (hwindow : Issuance.IsWritableWindow (.standard now)) :
    Issuance.CanIssue (rotator.newAuthority now key) rotator.authorityName :=
  Issuance.canIssue_authorityPair hkey.consistent hkey.canSign hplain.caNameFits
    hplain.caOrganizationFits hwindow

/-! ### Verdicts on what was made -/

/-- The authority that is checked is the one that was written. -/
theorem authorityIsValid_withCertificates (ca : KeyPair) (leaf : PemPair) :
    rotator.authorityIsValid (secret.withCertificates ca leaf) instant =
      Validation.validate rotator.scheme ca.certPem ca.certPem ca.keyPem rotator.config.caName
        instant := by
  obtain ⟨hcaCert, hcaKey, -, -⟩ := Secret.lookup?_withCertificates secret ca leaf
  rw [authorityIsValid, Secret.lookup, Secret.lookup, hcaCert, hcaKey]
  rfl

/-- The serving certificate that is checked is the one that was written, under that authority. -/
theorem leafIsValid_withCertificates (ca : KeyPair) (leaf : PemPair) :
    rotator.leafIsValid (secret.withCertificates ca leaf) instant =
      Validation.validate rotator.scheme ca.certPem leaf.certPem leaf.keyPem rotator.config.dnsName
        instant := by
  obtain ⟨hcaCert, -, hcert, hkey⟩ := Secret.lookup?_withCertificates secret ca leaf
  rw [leafIsValid, Secret.lookup, Secret.lookup, Secret.lookup, hcaCert, hcert, hkey]
  rfl

/-- The period of a certificate that was made at a time, in seconds. -/
theorem covers_periodOf_standard {now : Instant} :
    (Issuance.periodOf (.standard now)).Covers instant ↔
      now.seconds - Issuance.clockSkew ≤ instant.seconds ∧
        instant.seconds ≤ now.seconds + Issuance.lifetime := Iff.rfl

/-- What is made at a time passes as far ahead as a rotator looks. -/
theorem covers_horizon? (hregular : rotator.IsRegular) {clock : Instant}
    (h : rotator.horizon? clock = some instant) :
    (Issuance.periodOf (.standard clock)).Covers instant := by
  obtain ⟨hbefore, hafter⟩ := hregular.seconds_horizon clock
  rw [horizon?_eq_some h, covers_periodOf_standard]
  simp only [Issuance.clockSkew]
  omega

/-- At all of the times the instant that is looked at lies in the period of what is made at any. -/
def IsTimely (rotator : Rotator) (isTime : Instant → Prop) : Prop :=
  ∀ now made, isTime now → isTime made →
    (Issuance.periodOf (.standard made)).Covers (rotator.horizon now)

/-- **Made at any of the times of an hour, certificates last as far as a regular rotator looks at
any other.** Nothing is asked of their order. -/
theorem IsRegular.isTimely (hregular : rotator.IsRegular) {isTime : Instant → Prop}
    (hhour : ∀ now other, isTime now → isTime other →
      other.seconds < now.seconds + Issuance.clockSkew) : rotator.IsTimely isTime := by
  intro now made hnow hmade
  have hlookahead := hregular.lookahead_nonneg
  have hle := hregular.lookahead_le
  obtain ⟨hbefore, hafter⟩ := (now.addSeconds rotator.config.lookahead).seconds_addNanos
    rotator.config.lookaheadNanos
  have hforward := hhour now made hnow hmade
  have hback := hhour made now hmade hnow
  rw [covers_periodOf_standard]
  simp only [horizon, Instant.addSeconds, Issuance.clockSkew, Issuance.lifetime] at *
  omega

/-- A regular rotator that knows one time only looks within what it makes. -/
theorem IsRegular.isTimely_eq (hregular : rotator.IsRegular) (clock : Instant) :
    rotator.IsTimely (· = clock) :=
  hregular.isTimely <| by
    rintro _ _ rfl rfl
    simp [Issuance.clockSkew]

/-- **What was made passes exactly as long as both periods last.** -/
theorem isValid_withNewAuthority (secret : Secret) (instant : Instant) (hplain : rotator.IsPlain)
    {caNow leafNow : Instant}
    {caKey leafKey : Rsa.PrivateKey} (hcaKey : caKey.IsFit) (hleafKey : leafKey.IsFit)
    (hcaWindow : Issuance.IsWritableWindow (.standard caNow))
    (hleafWindow : Issuance.IsWritableWindow (.standard leafNow)) :
    let made := rotator.withNewAuthority secret caNow leafNow caKey leafKey
    (rotator.authorityIsValid made instant = true ↔
      (Issuance.periodOf (.standard caNow)).Covers instant) ∧
    (rotator.leafIsValid made instant = true ↔
      (Issuance.periodOf (.standard caNow)).Covers instant ∧
        (Issuance.periodOf (.standard leafNow)).Covers instant) := by
  refine ⟨?_, ?_⟩
  · rw [withNewAuthority, withNewLeaf, authorityIsValid_withCertificates,
      Validation.validate_eq_true, hplain.scheme]
    exact Validation.check_authority [] (by simp) hcaKey hplain.caNameFits
      hplain.caOrganizationFits hcaWindow
  · rw [withNewAuthority, withNewLeaf, leafIsValid_withCertificates, Validation.validate_eq_true,
      hplain.scheme]
    exact Validation.check_leaf_of_authority hcaKey hleafKey hplain.caNameFits
      hplain.caOrganizationFits hplain.dnsNameFits hcaWindow hleafWindow

/-! ### Replacing certificates -/

variable {post : Except Halt (Except Error RotationOutcome) → γ → Prop} {existed : Bool}

/-- What is left to do once there is an authority: a serving certificate under it is made and both
are written, or it cannot be made at the time that was read for it. -/
theorem ensures_makeLeaf_andThen_write (hequips : contract.Equips isTime isKey draw)
    (hplain : rotator.IsPlain) (hkeys : ∀ key, isKey (.ok key) → key.IsFit) {ca : KeyPair}
    {outcome : RotationOutcome}
    (hfails : ∀ e replies now, isTime now → ¬ (CanAlwaysMake (· = now) isKey ∧
        rotator.HasAsciiNames ∧ ∃ issuer, Issuance.CanIssue ca issuer) →
      post (.ok (.error e)) (List.foldl draw state replies))
    (hwrites : ∀ now key issuer, Issuance.isAscii rotator.config.dnsName = true → isTime now →
      isKey (.ok key) → Issuance.IsWritableWindow (.standard now) → Issuance.CanIssue ca issuer →
        Ensures contract (fun result ↦ post (result.map (Except.map fun _ ↦ outcome)))
          (write existed (rotator.withNewLeaf secret ca issuer now key)) (draw state (.ok key))) :
    Ensures contract post ((rotator.makeLeaf ca).andThen fun leaf ↦
      (write existed (secret.withCertificates ca leaf)).andThen fun () ↦ do
        perform (.record (.rotation (scopeOf outcome)))
        log .info "server certs refreshed"
          [("secret", .text rotator.config.secretKey.text), ("outcome", .text outcome.text)]
        return .ok outcome) state := by
  rw [ensures_andThen]
  refine ensures_makeLeaf hequips hplain
    (fun e now htime hunnamed ↦ hfails e [] now htime fun hall ↦ hunnamed hall.2.1)
    fun now newKey htime hkey ↦ ?_
  cases hmade : Issuance.leaf Signature.standard rotator.config.dnsName ca (.standard now)
      newKey with
  | error e =>
    -- a key of a reliable source and a window that can be written leave issuing no way to fail
    refine hfails _ [newKey] now htime fun ⟨⟨hwindows, hall⟩, hnames, issuer, hissuer⟩ ↦ ?_
    obtain ⟨key, rfl⟩ := hall newKey hkey
    have hok := Issuance.leaf_eq_ok.2 ⟨hnames.2, key, issuer, rfl, (hkeys key hkey).canSign,
      hissuer, hwindows now rfl, rfl⟩
    simp [hok] at hmade
  | ok leaf =>
    obtain ⟨hname, key, issuer, rfl, -, hissuer, hwindow, rfl⟩ := Issuance.leaf_eq_ok.1 hmade
    refine (ensures_andThen _ _).2
      ((hwrites now key issuer hname htime hkey hwindow hissuer).mono ?_)
    rintro (halt | (e | u)) state' hpost
    · exact hpost
    · exact hpost
    · refine ensures_record_bind hequips.quiet ?_
      exact ensures_log_bind hequips.quiet.isIdle hpost

/-- **Replacing everything writes an authority and a serving certificate under it**, for the times
that are read and the keys that are drawn on the way. -/
theorem ensures_rotate_ca (hequips : contract.Equips isTime isKey draw)
    (hplain : rotator.IsPlain) (hkeys : ∀ key, isKey (.ok key) → key.IsFit)
    (hfails : ∀ e replies caNow leafNow, isTime caNow → isTime leafNow →
        ¬ (CanAlwaysMake (· ∈ [caNow, leafNow]) isKey ∧ rotator.HasAsciiNames) →
      post (.ok (.error e)) (List.foldl draw state replies))
    (hwrites : ∀ caNow leafNow caKey leafKey, rotator.HasAsciiNames → isTime caNow →
      isTime leafNow → isKey (.ok caKey) → isKey (.ok leafKey) →
      Issuance.IsWritableWindow (.standard caNow) → Issuance.IsWritableWindow (.standard leafNow) →
        Ensures contract (fun result ↦ post (result.map (Except.map fun _ ↦ .rotatedCa)))
          (write existed (rotator.withNewAuthority secret caNow leafNow caKey leafKey))
          (draw (draw state (.ok caKey)) (.ok leafKey))) :
    Ensures contract post (rotator.rotate .rotatedCa existed secret) state := by
  rw [rotate, ensures_andThen, obtainAuthority, if_pos rfl]
  refine ensures_log_bind hequips.quiet.isIdle ?_
  refine ensures_makeAuthority hequips hplain
    (fun e now htime hunnamed ↦ hfails e [] now now htime htime fun hall ↦ hunnamed hall.2)
    fun now newKey htime hkey ↦ ?_
  cases hmade : Issuance.authority Signature.standard rotator.config.caName
      rotator.config.caOrganization (.standard now) newKey with
  | error e =>
    -- the time for the serving certificate was not read, so any will do
    refine hfails _ [newKey] now now htime htime fun ⟨⟨hwindows, hall⟩, hnames⟩ ↦ ?_
    obtain ⟨key, rfl⟩ := hall newKey hkey
    have hok := (Issuance.authority_eq_ok rotator.config.caOrganization).2
      ⟨hnames.1, key, rfl, (hkeys key hkey).canSign, hwindows now List.mem_cons_self, rfl⟩
    simp [hok] at hmade
  | ok ca =>
    obtain ⟨hcaName, key, rfl, -, hwindow, rfl⟩ := (Issuance.authority_eq_ok _).1 hmade
    have hissue := canIssue_newAuthority hplain (hkeys key hkey) hwindow
    refine ensures_makeLeaf_andThen_write hequips hplain hkeys ?_ ?_
    -- the authority that was just made can issue, so only the source of keys can be at fault
    · intro e replies leafNow hleafTime hnot
      refine hfails e (.ok key :: replies) now leafNow htime hleafTime fun ⟨hcan, hnames⟩ ↦ ?_
      exact hnot ⟨hcan.mono (by simp), hnames, _, hissue⟩
    · intro leafNow leafKey issuer hdnsName hleafTime hleafKey hleafWindow hissuer
      obtain rfl := Option.some.inj (hissuer.2.2.symm.trans hissue.2.2)
      exact hwrites now leafNow key leafKey ⟨hcaName, hdnsName⟩ htime hleafTime hkey hleafKey
        hwindow hleafWindow

/-- **Replacing the serving certificate keeps the authority**, if that can be loaded and can issue.
An authority that cannot is found out before the time is read again. -/
theorem ensures_rotate_leaf (hequips : contract.Equips isTime isKey draw)
    (hplain : rotator.IsPlain) (hkeys : ∀ key, isKey (.ok key) → key.IsFit) {before : Instant}
    (hbefore : isTime before)
    (hfails : ∀ e replies now, isTime now → ¬ (CanAlwaysMake (· = now) isKey ∧
        rotator.HasAsciiNames ∧
        ∃ ca issuer, secret.authority = .ok ca ∧ Issuance.CanIssue ca issuer) →
      post (.ok (.error e)) (List.foldl draw state replies))
    (hwrites : ∀ ca now key issuer, secret.authority = .ok ca → isTime now → isKey (.ok key) →
      Issuance.IsWritableWindow (.standard now) → Issuance.CanIssue ca issuer →
        Ensures contract (fun result ↦ post (result.map (Except.map fun _ ↦ .rotatedLeaf)))
          (write existed (rotator.withNewLeaf secret ca issuer now key)) (draw state (.ok key))) :
    Ensures contract post (rotator.rotate .rotatedLeaf existed secret) state := by
  rw [rotate, ensures_andThen, obtainAuthority, if_neg (by simp)]
  refine ensures_log_bind hequips.quiet.isIdle ?_
  cases hload : secret.authority with
  | error cause =>
    refine hfails _ [] before hbefore fun ⟨_, _, ca, issuer, hok, _⟩ ↦ ?_
    simp [hload] at hok
  | ok ca =>
    refine ensures_makeLeaf_andThen_write hequips hplain hkeys ?_ ?_
    · intro e replies now htime hnot
      refine hfails e replies now htime fun ⟨hcan, hnames, other, issuer, hok, hissuer⟩ ↦ hnot ?_
      exact ⟨hcan, hnames, issuer, Except.ok.inj (hload.symm.trans hok) ▸ hissuer⟩
    · exact fun now key issuer _ htime hkey hwindow hissuer ↦
        hwrites ca now key issuer hload htime hkey hwindow hissuer

/-! ### Checks -/

/-- The Secret that a write is based on. -/
def basis (rotator : Rotator) (found : Option Secret) : Secret :=
  found.getD (.new rotator.config.secretKey)

/-- Without a Secret a check goes on with a new one. -/
theorem ensures_foundOrNew_bind {post : Except Halt α → γ → Prop} (hcontract : contract.IsIdle)
    {found : Option Secret} {next : Secret → Procedure α}
    (h : Ensures contract post (next (found.getD (.new rotator.config.secretKey))) state) :
    Ensures contract post ((rotator.foundOrNew found).bind next) state := by
  cases found with
  | none => exact ensures_log_bind hcontract h
  | some secret => exact h

/-- **A single check reads the Secret and the time, and acts on the verdict.** -/
theorem ensures_refreshOnce (hequips : contract.Equips isTime isKey draw)
    (hpermits : contract.permits state (.store (.getSecret rotator.config.secretKey)))
    (hfails : ∀ e state',
      contract.answers state (.store (.getSecret rotator.config.secretKey)) (.error e) state' →
        post (.ok (.error e)) state')
    (hreads : ∀ (found : Option Secret) state' now,
      contract.answers state (.store (.getSecret rotator.config.secretKey)) (.ok found) state' →
        isTime now →
        (rotator.horizon? now = none → post (.error .crashed) state') ∧
        ∀ instant, rotator.horizon? now = some instant →
          let secret := found.getD (.new rotator.config.secretKey)
          (rotator.verdict secret instant = .unchanged → post (.ok (.ok .unchanged)) state') ∧
          (rotator.verdict secret instant ≠ .unchanged → Ensures contract post
            (rotator.rotate (rotator.verdict secret instant) found.isSome secret) state')) :
    Ensures contract post rotator.refreshOnce state := by
  rw [refreshOnce, ensures_andThen]
  refine ⟨hpermits, ?_⟩
  rintro (e | found) state' hanswer
  · exact hfails e state' hanswer
  refine ensures_foundOrNew_bind hequips.quiet.isIdle ?_
  refine ⟨(hequips.now state').1, ?_⟩
  intro now state'' hnow
  obtain ⟨htime, rfl⟩ := (hequips.now state').2 now state'' hnow
  obtain ⟨hcrash, hverdict⟩ := hreads found state'' now hanswer htime
  simp only [pure_bind]
  cases hinstant : rotator.horizon? now with
  | none => exact hcrash hinstant
  | some instant =>
    obtain ⟨hunchanged, hrotate⟩ := hverdict instant hinstant
    refine ensures_assess_bind hequips.quiet.isIdle ?_
    cases houtcome : rotator.verdict (found.getD (.new rotator.config.secretKey)) instant with
    | unchanged => exact ensures_log_bind hequips.quiet.isIdle (hunchanged houtcome)
    | rotatedLeaf => simpa [houtcome] using hrotate (by simp [houtcome])
    | rotatedCa => simpa [houtcome] using hrotate (by simp [houtcome])

/-- How may a check end that comes to an outcome? With the outcome, or as the hook ends after the
Secret was written. -/
def EndsWith (rotator : Rotator) (outcome : RotationOutcome)
    (result : Except Halt (Except Error RotationOutcome)) : Prop :=
  if outcome.wroteSecret then
    ∃ ending, (rotator.hook outcome).Yields ending ∧ result = ending.map fun () ↦ .ok outcome
  else result = .ok (.ok outcome)

variable {outcome : RotationOutcome} {result : Except Halt (Except Error RotationOutcome)}

theorem endsWith_unchanged :
    rotator.EndsWith .unchanged result ↔ result = .ok (.ok .unchanged) := Iff.rfl

/-- A check that gives an outcome has come to it. -/
theorem EndsWith.eq_of_ok {given : RotationOutcome}
    (h : rotator.EndsWith outcome (.ok (.ok given))) : given = outcome := by
  rw [EndsWith] at h
  split_ifs at h
  · rcases h with ⟨(halt | u), -, hgiven⟩
    · cases hgiven
    · simpa [Except.map] using hgiven
  · simpa using h

/-- With a hook that returns, a check gives the outcome that it comes to. -/
theorem EndsWith.eq (h : rotator.EndsWith outcome result)
    (hreturns : ∀ halt, ¬ (rotator.hook outcome).Yields (.error halt)) :
    result = .ok (.ok outcome) := by
  rw [EndsWith] at h
  split_ifs at h
  · rcases h with ⟨(halt | u), hyields, rfl⟩
    · exact absurd hyields (hreturns halt)
    · rfl
  · exact h

/-- A check that wrote may end as its hook may. -/
theorem endsWith_of_yields {ending : Except Halt Unit} (hwrote : outcome.wroteSecret = true)
    (h : (rotator.hook outcome).Yields ending) :
    rotator.EndsWith outcome (ending.map fun () ↦ .ok outcome) := by
  rw [EndsWith, if_pos hwrote]
  exact ⟨ending, h, rfl⟩

/-- **After a write a check ends as its hook does.** -/
theorem ensures_conclude {post : Except Halt (Except Error RotationOutcome) → γ → Prop}
    (hwrote : outcome.wroteSecret = true)
    (h : Ensures contract (fun ending ↦ post (ending.map fun () ↦ .ok outcome))
      (rotator.hook outcome) state) :
    Ensures contract post (do
      if outcome.wroteSecret then rotator.hook outcome
      return .ok outcome : Procedure (Except Error RotationOutcome)) state := by
  simp only [hwrote, if_true, bind_eq, ensures_bind]
  refine h.mono ?_
  rintro (halt | u) state hpost <;> exact hpost

/-- How may a check end whose last attempt ended so? -/
def Concludes (rotator : Rotator) :
    (attempt result : Except Halt (Except Error RotationOutcome)) → Prop
  | .ok (.ok outcome), result => rotator.EndsWith outcome result
  | attempt, result => result = attempt

/-- **A check ends as its last attempt**, but for what the hook does. -/
theorem ensures_refresh (hequips : contract.Equips isTime isKey draw) (hplain : rotator.IsPlain)
    (h : Ensures contract
      (fun attempt state ↦ ∀ result, rotator.Concludes attempt result → post result state)
      (rotator.config.refreshBackoff.retry "refresh_certs" Error.message rotator.refreshOnce)
      state) :
    Ensures contract post rotator.refresh state := by
  rw [refresh, ensures_andThen]
  refine h.mono ?_
  rintro (halt | (e | outcome)) state hpost
  · exact hpost _ rfl
  · exact hpost _ rfl
  · simp only [Concludes, EndsWith] at hpost
    cases hwrote : outcome.wroteSecret with
    | false => simpa [afterOk, hwrote] using hpost
    | true =>
      simp only [hwrote, if_true] at hpost
      refine ensures_conclude hwrote (ensures_of_isQuiet (hplain.hook outcome) hequips.quiet ?_)
      exact fun ending hyields ↦ hpost _ ⟨ending, hyields, rfl⟩

end Rotator

end WebhookTrust
