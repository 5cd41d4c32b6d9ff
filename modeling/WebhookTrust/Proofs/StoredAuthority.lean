import WebhookTrust.Proofs.IssuerName
import WebhookTrust.Proofs.Rotation

/-!
# Authorities in storage

An authority is stored as PEM bytes, and is loaded when a serving certificate has to be made or
consumers are to trust it. Loading keeps the stored bytes.

* `KeyPair.load_eq_ok`, `Secret.authority_eq_ok`: when a key pair is loaded, and which one; the
  authority of a Secret is read off two entries.
* `Rotator.exists_of_authorityIsValid`: **an authority that passes against itself can be loaded**,
  since passing has read all that loading reads.
* `Rotator.authorityIsValid_iff`: **an authority that passes once passes exactly while its period
  lasts.**
* `Rotator.leafIsValid_withNewLeaf`: **a serving certificate that was made under a stored authority
  passes while both periods last, if the authority issues under a name that prints like its own**,
  and never otherwise. Replacing the serving certificate does not touch the authority
  (`Rotator.authorityIsValid_withNewLeaf`).

The name that an authority issues under is made of its subject, with one attribute for each relative
name; what becomes of other subjects is in `WebhookTrust.Proofs.IssuerName`.
-/

namespace WebhookTrust

/-! ### Loading -/

/-- When a key pair is loaded, and which one. -/
theorem KeyPair.load_eq_ok {certPem keyPem : Bytes} {ca : KeyPair} :
    KeyPair.load certPem keyPem = .ok ca ↔
      ca.certPem = certPem ∧ ca.keyPem = keyPem ∧
        Material.decodePem certPem Material.certificateTag = .ok ca.certDer ∧
        (∃ cert, Certificate.read? ca.certDer = some cert) ∧
        Material.readKey keyPem = .ok ca.key := by
  simp only [KeyPair.load, Except.bind_eq_ok, Validation.readCertificate_eq_ok, Pure.pure,
    Except.pure, Except.ok.injEq]
  constructor
  · rintro ⟨der, hder, cert, hcert, key, hkey, rfl⟩
    exact ⟨rfl, rfl, hder, ⟨cert, hcert⟩, hkey⟩
  · rintro ⟨rfl, rfl, hder, ⟨cert, hcert⟩, hkey⟩
    exact ⟨_, hder, cert, hcert, _, hkey, rfl⟩

/-- **What was made as an authority is loaded as it was made.** -/
theorem KeyPair.load_authorityPair {commonName organization : String} {window : Window}
    {key : Rsa.PrivateKey} (hkey : key.isConsistent = true) (hsign : key.canSign = true)
    (hname : FitsMemory commonName) (horganization : FitsMemory organization)
    (hwindow : Issuance.IsWritableWindow window) :
    let ca := Issuance.authorityPair commonName organization (Issuance.periodOf window) key
    load ca.certPem ca.keyPem = .ok ca := by
  intro ca
  have hread := Issuance.read?_authority hkey hname horganization hwindow
  have hder := Issuance.decodePem_certificatePem [] (by simp) ca.certDer
  exact load_eq_ok.2 ⟨rfl, rfl, hder, ⟨_, hread⟩, Issuance.readKey_keyPem hkey hsign⟩

/-- **The authority of a Secret is read off two entries, whose bytes it keeps.** -/
theorem Secret.authority_eq_ok {secret : Secret} {ca : KeyPair} :
    secret.authority = .ok ca ↔
      secret.lookup? Secret.caCert = some ca.certPem ∧
        secret.lookup? Secret.caKey = some ca.keyPem ∧
        KeyPair.load ca.certPem ca.keyPem = .ok ca := by
  rw [Secret.authority]
  cases hcert : secret.lookup? Secret.caCert with
  | none => simp
  | some certPem =>
    cases hkey : secret.lookup? Secret.caKey with
    | none => simp
    | some keyPem =>
      simp only [Except.mapError_eq_ok, Option.some.injEq]
      constructor
      · intro hload
        obtain ⟨rfl, rfl, -⟩ := KeyPair.load_eq_ok.1 hload
        exact ⟨rfl, rfl, hload⟩
      · rintro ⟨rfl, rfl, hload⟩
        exact hload

/-- The authority depends on the entries alone. -/
theorem Secret.authority_congr {secret other : Secret} (h : other.entries = secret.entries) :
    other.authority = secret.authority := by
  rw [Secret.authority, Secret.authority, Secret.lookup?, Secret.lookup?, Secret.lookup?,
    Secret.lookup?, h]

/-- **A pair that can be loaded is loaded from the Secret that it is put into.** -/
theorem Secret.authority_withCertificates {secret : Secret} {ca : KeyPair} {leaf : PemPair}
    (h : KeyPair.load ca.certPem ca.keyPem = .ok ca) :
    (secret.withCertificates ca leaf).authority = .ok ca := by
  obtain ⟨hcert, hkey, -⟩ := Secret.lookup?_withCertificates secret ca leaf
  exact Secret.authority_eq_ok.2 ⟨hcert, hkey, h⟩

namespace Rotator

variable {rotator : Rotator} {secret : Secret} {instant now : Instant} {ca : KeyPair}
  {cert : Certificate} {issuer : Name} {key : Rsa.PrivateKey}

/-- An entry that is not empty is there. -/
theorem lookup?_of_lookup_ne_nil {name : String} (h : secret.lookup name ≠ []) :
    secret.lookup? name = some (secret.lookup name) := by
  rw [Secret.lookup] at h ⊢
  cases hentry : secret.lookup? name with
  | none => simp [hentry] at h
  | some bytes => rfl

/-- **An authority that passes can be loaded.** -/
theorem exists_of_authorityIsValid (h : rotator.authorityIsValid secret instant = true) :
    ∃ ca cert, secret.authority = .ok ca ∧ ca.certificate = .ok cert ∧
      Validation.Holds ca.certPem ca.certPem ca.keyPem cert ca.key cert ∧
      Validation.Passes rotator.scheme cert ca.key cert rotator.config.caName instant := by
  obtain ⟨cert, key, other, hholds, hpasses⟩ :=
    Validation.check_eq_ok.1 (Validation.validate_eq_true.1 h)
  obtain ⟨der, hder, hcert⟩ := hholds.ca
  obtain ⟨otherDer, hotherDer, hother⟩ := hholds.cert
  obtain rfl : der = otherDer := Except.ok.inj (hder.symm.trans hotherDer)
  obtain rfl : cert = other := Option.some.inj (hcert.symm.trans hother)
  obtain ⟨hcertNe, -, hkeyNe⟩ := hholds.nonempty
  let ca : KeyPair := ⟨der, key, secret.lookup Secret.caCert, secret.lookup Secret.caKey⟩
  have hload : KeyPair.load ca.certPem ca.keyPem = .ok ca :=
    KeyPair.load_eq_ok.2 ⟨rfl, rfl, hder, ⟨cert, hcert⟩, hholds.key⟩
  exact ⟨ca, cert, Secret.authority_eq_ok.2 ⟨lookup?_of_lookup_ne_nil hcertNe,
    lookup?_of_lookup_ne_nil hkeyNe, hload⟩, Validation.readCertificate_eq_ok.2 hcert, hholds,
    hpasses⟩

/-- **An authority that passes once passes exactly while its period lasts.** -/
theorem authorityIsValid_iff (h : rotator.authorityIsValid secret instant = true)
    (hload : secret.authority = .ok ca) (hcert : ca.certificate = .ok cert) (later : Instant) :
    rotator.authorityIsValid secret later = true ↔ cert.validity.Covers later := by
  obtain ⟨ca', cert', hload', hcert', hholds, hpasses⟩ := exists_of_authorityIsValid h
  obtain rfl : ca' = ca := Except.ok.inj (hload'.symm.trans hload)
  obtain rfl : cert' = cert := Except.ok.inj (hcert'.symm.trans hcert)
  obtain ⟨hcertPem, hkeyPem, -⟩ := Secret.authority_eq_ok.1 hload
  rw [authorityIsValid, Secret.lookup, Secret.lookup, hcertPem, hkeyPem,
    Validation.validate_eq_true]
  exact (Validation.check_eq_ok_of_passes hholds hpasses).trans and_self_iff

/-- **An authority that was made is loaded as it was made.** -/
theorem load_newAuthority (hplain : rotator.IsPlain) (hkey : key.IsFit)
    (hwindow : Issuance.IsWritableWindow (.standard now)) :
    let ca := rotator.newAuthority now key
    KeyPair.load ca.certPem ca.keyPem = .ok ca ∧ ∃ cert, ca.certificate = .ok cert ∧
      cert.validity = Issuance.periodOf (.standard now) := by
  have hload := KeyPair.load_authorityPair hkey.consistent hkey.canSign hplain.caNameFits
    hplain.caOrganizationFits hwindow
  have hread := Issuance.read?_authority hkey.consistent hplain.caNameFits
    hplain.caOrganizationFits hwindow
  exact ⟨hload, _, Validation.readCertificate_eq_ok.2 hread, rfl⟩

/-! ### New serving certificates -/

/-- Replacing the serving certificate does not touch the authority. -/
theorem authorityIsValid_withNewLeaf (hload : secret.authority = .ok ca) :
    rotator.authorityIsValid (rotator.withNewLeaf secret ca issuer now key) instant =
      rotator.authorityIsValid secret instant := by
  obtain ⟨hcert, hkey, -⟩ := Secret.authority_eq_ok.1 hload
  rw [withNewLeaf, authorityIsValid_withCertificates, authorityIsValid, Secret.lookup,
    Secret.lookup, hcert, hkey]
  rfl

/-- **A serving certificate that was made under a stored authority passes while both periods last,
if the authority issues under a name that prints like its own**, and never otherwise. -/
theorem leafIsValid_withNewLeaf (hplain : rotator.IsPlain) (hload : secret.authority = .ok ca)
    (hvalid : rotator.authorityIsValid secret instant = true) (hcert : ca.certificate = .ok cert)
    (hissuer : Issuance.CanIssue ca issuer) (hfits : ca.certPem.length ≤ 2 ^ 56)
    (hverifies : ∀ message,
      Rsa.verify .sha256 ca.key.publicKey message (Rsa.sign .sha256 ca.key message) = true)
    (hkey : key.IsFit) (hwindow : Issuance.IsWritableWindow (.standard now)) (later : Instant) :
    rotator.leafIsValid (rotator.withNewLeaf secret ca issuer now key) later = true ↔
      issuer.text = cert.subject.text ∧ cert.validity.Covers later ∧
        (Issuance.periodOf (.standard now)).Covers later := by
  obtain ⟨ca', cert', hload', hcert', hholds, hpasses⟩ := exists_of_authorityIsValid hvalid
  obtain rfl : ca' = ca := Except.ok.inj (hload'.symm.trans hload)
  obtain rfl : cert' = cert := Except.ok.inj (hcert'.symm.trans hcert)
  have hfit : ca'.key.IsFit :=
    ⟨Material.isConsistent_of_readKey hholds.key, hissuer.2.1, hverifies⟩
  -- the authority's own signature shows which key it is verified with
  have hread : Signature.rsaKey? 2048 cert'.publicKey.bits = some ca'.key.publicKey := by
    have hsigned := hpasses.signedBy
    rw [hplain.scheme, Validation.ensureSignedBy, Except.mapError_eq_ok] at hsigned
    obtain ⟨numbers, hparsed, hmatch⟩ := Validation.ensureKeyMatches_eq_ok.1 hpasses.keyMatches
    exact Signature.rsaKey?_of_verify hsigned hparsed hmatch hissuer.2.1
  obtain ⟨der, hder, hcertRead⟩ := hholds.ca
  rw [withNewLeaf, leafIsValid_withCertificates, Validation.validate_eq_true, hplain.scheme]
  exact Validation.check_leaf hholds.nonempty.1 hder hcertRead hpasses.canSign hfit hread hkey
    hplain.dnsNameFits hissuer.isWritable (hissuer.length_encode_le hfits) hwindow

end Rotator

end WebhookTrust
