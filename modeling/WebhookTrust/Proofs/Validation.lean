import WebhookTrust.Pki.Validation
import WebhookTrust.Proofs.Issuance
import WebhookTrust.Proofs.Labels

/-!
# What passes validation

Validation is a chain of checks, and passing is passing all of them (`Validation.Passes`). A
certificate that was made passes under the authority that made it, exactly as long as both periods
last: every check but those of the periods is settled when the certificate is made.

## The theorems, and what each rests on

* `Validation.check_eq_ok`: **passing validation is holding readable material that passes all
  checks.** The parts that material holds are determined (`Validation.Holds.unique`), and of the
  checks only those of the periods depend on the instant (`Validation.check_eq_ok_of_passes`).
* `Validation.check_authority_iff`: **an authority that was made passes against itself exactly under
  the names that match its own and as long as its period lasts.**
* `Validation.check_leaf_iff`: **a serving certificate that was made passes under an authority whose
  key verifies what was signed, exactly if the issuer's names agree**, under the names that match
  its own, and while both periods last. What is asked of the authority is what validation looks at:
  that it is one, that its name prints like the name it issues under, and that its key verifies what
  was signed.
* `Validation.check_leaf_of_authority_iff`: an authority that was made meets this, and so does a
  stored one whose key may sign (`Validation.check_leaf_of_text_eq`), since a certificate that
  passes against itself shows its key to the canonical reader (`Signature.rsaKey?_of_verify`).

Issuers and subjects are compared as they print. What that lets pass is in
`WebhookTrust.Proofs.Chaining`.
-/

namespace WebhookTrust

/-- Does the whole second of the instant lie in the period? -/
def Validity.Covers (validity : Validity) (instant : Instant) : Prop :=
  validity.notBefore.seconds ≤ instant.seconds ∧ instant.seconds ≤ validity.notAfter.seconds

instance (validity : Validity) (instant : Instant) : Decidable (validity.Covers instant) :=
  inferInstanceAs (Decidable (_ ∧ _))

namespace Validation

variable {scheme : SignatureScheme} {ca cert : Certificate} {key : Rsa.PrivateKey}
  {caPem certPem keyPem : Bytes} {dnsName : String} {instant : Instant}

/-! ### Passing all checks -/

/-- All checks on readable material pass. -/
structure Passes (scheme : SignatureScheme) (ca : Certificate) (key : Rsa.PrivateKey)
    (cert : Certificate) (dnsName : String) (instant : Instant) : Prop where
  keyMatches : ensureKeyMatches cert key = .ok ()
  canSign : ensureCanSign ca = .ok ()
  issuedBy : ensureIssuedBy ca cert = .ok ()
  signedBy : ensureSignedBy scheme ca cert = .ok ()
  caCovers : ca.validity.Covers instant
  certCovers : cert.validity.Covers instant
  dnsName : ensureDnsName cert dnsName = .ok ()
  serverAuth : ensureServerAuth cert = .ok ()

theorem ensureValidAt_eq_ok {u : Unit} :
    ensureValidAt cert instant = .ok u ↔ cert.validity.Covers instant := by
  rw [ensureValidAt, Validity.Covers]
  split_ifs <;> simp <;> omega

theorem ensureIssuedBy_eq_ok {u : Unit} :
    ensureIssuedBy ca cert = .ok u ↔ cert.issuer.text = ca.subject.text := by
  rw [ensureIssuedBy]
  split_ifs with h <;> simp [h]

/-- The checks pass if each of them does. -/
theorem checkParts_eq_ok {u : Unit} :
    checkParts scheme ca key cert dnsName instant = .ok u ↔
      Passes scheme ca key cert dnsName instant := by
  simp only [checkParts, Except.bind_eq_ok, ensureValidAt_eq_ok]
  constructor
  · rintro ⟨_, hkey, _, hca, _, hissuer, _, hsigned, _, hcaCovers, _, hcovers, _, hname, hauth⟩
    exact ⟨hkey, hca, hissuer, hsigned, hcaCovers, hcovers, hname, hauth⟩
  · rintro ⟨hkey, hca, hissuer, hsigned, hcaCovers, hcovers, hname, hauth⟩
    exact ⟨_, hkey, _, hca, _, hissuer, _, hsigned, (), hcaCovers, (), hcovers, _, hname, hauth⟩

/-- The material holds these parts. -/
structure Holds (caPem certPem keyPem : Bytes) (ca : Certificate) (key : Rsa.PrivateKey)
    (cert : Certificate) : Prop where
  nonempty : caPem ≠ [] ∧ certPem ≠ [] ∧ keyPem ≠ []
  ca : ∃ der, Material.decodePem caPem Material.certificateTag = .ok der ∧
    Certificate.read? der = some ca
  key : Material.readKey keyPem = .ok key
  cert : ∃ der, Material.decodePem certPem Material.certificateTag = .ok der ∧
    Certificate.read? der = some cert

theorem readCertificate_eq_ok {fault : ParseFault} {der : Bytes} :
    Material.readCertificate fault der = .ok cert ↔ Certificate.read? der = some cert := by
  rw [Material.readCertificate]
  cases Certificate.read? der <;> simp

/-- Material is read part by part. -/
theorem readMaterial_eq_ok :
    readMaterial caPem certPem keyPem = .ok (ca, key, cert) ↔
      Holds caPem certPem keyPem ca key cert := by
  rw [readMaterial]
  by_cases hempty : caPem.isEmpty = true ∨ certPem.isEmpty = true ∨ keyPem.isEmpty = true
  · simp only [if_pos hempty]
    constructor
    · intro h
      simp [throw, throwThe, MonadExceptOf.throw, Bind.bind, Except.bind] at h
    · intro h
      simp only [List.isEmpty_iff] at hempty
      exact absurd hempty (by simpa using h.nonempty)
  · simp only [if_neg hempty, Except.bind_eq_ok, readCertificate_eq_ok, Pure.pure, Except.pure,
      Except.ok.injEq, Prod.mk.injEq]
    simp only [List.isEmpty_iff, not_or] at hempty
    constructor
    · rintro ⟨caDer, hcaDer, ca, hca, key, hkey, certDer, hcertDer, cert, hcert, rfl, rfl, rfl⟩
      exact ⟨hempty, ⟨caDer, hcaDer, hca⟩, hkey, ⟨certDer, hcertDer, hcert⟩⟩
    · rintro ⟨-, ⟨caDer, hcaDer, hca⟩, hkey, ⟨certDer, hcertDer, hcert⟩⟩
      exact ⟨caDer, hcaDer, ca, hca, key, hkey, certDer, hcertDer, cert, hcert, rfl, rfl, rfl⟩

/-- **Passing validation is holding readable material that passes all checks.** -/
theorem check_eq_ok {u : Unit} :
    check scheme caPem certPem keyPem dnsName instant = .ok u ↔
      ∃ ca key cert, Holds caPem certPem keyPem ca key cert ∧
        Passes scheme ca key cert dnsName instant := by
  rw [check, Except.bind_eq_ok]
  constructor
  · rintro ⟨⟨ca, key, cert⟩, hparts, hchecks⟩
    exact ⟨ca, key, cert, readMaterial_eq_ok.1 hparts, checkParts_eq_ok.1 hchecks⟩
  · rintro ⟨ca, key, cert, hholds, hpasses⟩
    exact ⟨(ca, key, cert), readMaterial_eq_ok.2 hholds, checkParts_eq_ok.2 hpasses⟩

/-- Validating is passing the check. -/
theorem validate_eq_true :
    validate scheme caPem certPem keyPem dnsName instant = true ↔
      check scheme caPem certPem keyPem dnsName instant = .ok () := by
  rw [validate]
  cases check scheme caPem certPem keyPem dnsName instant <;> simp [Except.isOk, Except.toBool]

/-- The parts that material holds are determined. -/
theorem Holds.unique {ca' cert' : Certificate} {key' : Rsa.PrivateKey}
    (h : Holds caPem certPem keyPem ca key cert) (h' : Holds caPem certPem keyPem ca' key' cert') :
    ca = ca' ∧ key = key' ∧ cert = cert' := by
  have heq := (readMaterial_eq_ok.2 h).symm.trans (readMaterial_eq_ok.2 h')
  simpa using heq

/-- **Only the periods depend on the instant**: what passes once passes exactly while both of them
last. -/
theorem check_eq_ok_of_passes {later : Instant} (hholds : Holds caPem certPem keyPem ca key cert)
    (hpasses : Passes scheme ca key cert dnsName instant) :
    check scheme caPem certPem keyPem dnsName later = .ok () ↔
      ca.validity.Covers later ∧ cert.validity.Covers later := by
  refine check_eq_ok.trans ⟨?_, ?_⟩
  · rintro ⟨ca', key', cert', hother, hlater⟩
    obtain ⟨rfl, -, rfl⟩ := hholds.unique hother
    exact ⟨hlater.caCovers, hlater.certCovers⟩
  · rintro ⟨hcaCovers, hcertCovers⟩
    exact ⟨ca, key, cert, hholds,
      { hpasses with caCovers := hcaCovers, certCovers := hcertCovers }⟩

/-! ### DNS names -/

/-- The octet strings of the extension for a DNS name name it. -/
theorem generalNames?_dnsName {name : String} (h : FitsMemory name) :
    Extension.generalNames? (Extension.dnsName name).value = some [.dns name] := by
  have hname : (Utf8.ofString name).length < Nat.pow 2 64 :=
    lt_of_le_of_lt h (by decide)
  have hencode := Der.length_encode_le_of_le 0x82 h (by omega)
  have hvalue : (Extension.dnsName name).value.length < Nat.pow 2 64 := by
    refine lt_of_le_of_lt (Der.length_sequence_le (n := 2 ^ 60 + 10) ?_ (by omega)) (by decide)
    simpa using hencode
  have hsequence := Der.contents?_sequence hvalue []
  have hall : Der.all? Der.element? ([Utf8.ofString name].flatMap (Der.encode 0x82)) =
      some ([Utf8.ofString name].map (Der.elementOf 0x82)) :=
    Der.all?_flatMap _ (by simpa using Der.element?_encode (by decide) hname) rfl
      fun item _ ↦ Der.encode_ne_nil _ _
  rw [List.append_nil] at hsequence
  refine Option.bind_eq_some_iff.2 ⟨_, hsequence, ?_⟩
  refine Option.bind_eq_some_iff.2 ⟨_, hall, ?_⟩
  simp [Extension.GeneralName.ofElement?, Der.elementOf, Der.TagClass.ofOctet]

/-! ### Certificates that were made -/

end Validation

namespace Signature

/-- What a fit key signs verifies under its public key, as a certificate carries it. -/
theorem verify_of_rsaKey? (info : PublicKeyInfo) {key : Rsa.PrivateKey} (hkey : key.IsFit)
    (hread : rsaKey? 2048 info.bits = some key.publicKey) (message : Bytes) :
    verify info (.plain sha256WithRsa) message (Rsa.sign .sha256 key message) = .ok () := by
  have hmethod : Method.of? info (.plain sha256WithRsa) = some (.rsa .sha256 2048) := by
    have hother : ¬ (sha256WithRsa = .ofArcs [1, 2, 840, 113549, 1, 1, 5] ∨
        sha256WithRsa = .ofArcs [1, 3, 14, 3, 2, 29]) := by decide
    simp only [Method.of?, AlgorithmId.plain, if_neg hother, if_true]
  have haccepts : Method.accepts info.bits message (Rsa.sign .sha256 key message)
      (.rsa .sha256 2048) = true := by
    rw [Method.accepts, hread]
    exact hkey.verifies message
  exact verify_eq_ok.2 ⟨_, hmethod, haccepts⟩

end Signature

namespace Validation

variable {commonName organization : String} {validity : Validity} {issuer : Name}
  {signer : Rsa.PrivateKey} {window : Window}

/-- The key of a certificate that was made for it matches. -/
theorem ensureKeyMatches_certificate {template : Template} (hkey : key.isConsistent = true)
    (hpublic : template.publicKey = key.publicKey) (signature : Bytes) :
    ensureKeyMatches (template.certificate signature) key = .ok () := by
  have hparsed : (template.certificate signature).publicKey.parsed? =
      some (.rsa key.publicKey.numbers) := by
    rw [Template.certificate, hpublic]
    exact Rsa.PublicKey.parsed?_info
      (lt_of_le_of_lt (Rsa.PrivateKey.length_encode_le hkey) (by decide))
  exact ensureKeyMatches_eq_ok.2 ⟨_, hparsed, keyMatches_numbers hkey⟩

/-- A certificate with the extension for a DNS name is good under the names that match it. -/
theorem ensureDnsName_of_extension {name : String} (h : FitsMemory name)
    (hextension : cert.extension? Extension.alternativeNames =
      .ok (some (Extension.dnsName name).value)) (wanted : String) :
    ensureDnsName cert wanted = .ok () ↔ DnsName.isMatch name.toList wanted.toList = true := by
  have hnames : cert.generalNames? = .ok (some [.dns name]) := by
    simp only [Certificate.generalNames?, Certificate.extensionAs?, hextension,
      generalNames?_dnsName h, Bind.bind, Except.bind, Pure.pure, Except.pure]
  rw [ensureDnsName, hnames]
  simp

/-- The certificate of an authority may sign certificates. -/
theorem ensureCanSign_authority :
    ensureCanSign (Issuance.authorityCertificate commonName organization validity key) =
      .ok () := by
  have hauthority :
      (Issuance.authorityCertificate commonName organization validity key).isAuthority = true := rfl
  have husages :
      (Issuance.authorityCertificate commonName organization validity key).keyUsages? =
        .ok (some 37) := rfl
  rw [ensureCanSign, hauthority, husages]
  decide

/-- The certificate of an authority verifies its own signature. -/
theorem ensureSignedBy_authority (hkey : key.IsFit) :
    let ca := Issuance.authorityCertificate commonName organization validity key
    ensureSignedBy Signature.standard ca ca = .ok () := by
  have hverify := Signature.verify_of_rsaKey? key.publicKey.info hkey
    (Signature.rsaKey?_encode hkey.consistent hkey.canSign)
    (Issuance.authorityTemplate commonName organization validity key.publicKey).body
  exact Except.mapError_eq_ok.2 hverify

/-- The material of an authority that was made, twice. -/
theorem holds_authority (before : Bytes) (hbefore : (45 : UInt8) ∉ before) (hkey : key.IsFit)
    (hname : FitsMemory commonName) (horganization : FitsMemory organization)
    (hwindow : Issuance.IsWritableWindow window) :
    let pair := Issuance.authorityPair commonName organization (Issuance.periodOf window) key
    let ca := Issuance.authorityCertificate commonName organization (Issuance.periodOf window) key
    Holds (before ++ pair.certPem) (before ++ pair.certPem) pair.keyPem ca key ca := by
  have hder := Issuance.decodePem_certificatePem before hbefore
    (Issuance.authorityPair commonName organization (Issuance.periodOf window) key).certDer
  have hread := Issuance.read?_authority hkey.consistent hname horganization hwindow
  have hne := List.append_ne_nil_of_right_ne_nil before
    (Issuance.ne_nil_pem ⟨Material.certificateTag,
      (Issuance.authorityPair commonName organization (Issuance.periodOf window) key).certDer⟩)
  exact
    { nonempty := ⟨hne, hne, Issuance.ne_nil_pem _⟩
      ca := ⟨_, hder, hread⟩
      key := Issuance.readKey_keyPem hkey.consistent hkey.canSign
      cert := ⟨_, hder, hread⟩ }

/-- **An authority that was made passes against itself exactly under the names that match its own
and as long as its period lasts**, also behind bytes without a dash. -/
theorem check_authority_iff (before : Bytes) (hbefore : (45 : UInt8) ∉ before) (hkey : key.IsFit)
    (hname : FitsMemory commonName) (horganization : FitsMemory organization)
    (hwindow : Issuance.IsWritableWindow window) (wanted : String) :
    let pair := Issuance.authorityPair commonName organization (Issuance.periodOf window) key
    check Signature.standard (before ++ pair.certPem) (before ++ pair.certPem) pair.keyPem
        wanted instant = .ok () ↔
      DnsName.isMatch commonName.toList wanted.toList = true ∧
        (Issuance.periodOf window).Covers instant := by
  have hholds := holds_authority before hbefore hkey hname horganization hwindow
  have hwanted : ensureDnsName (Issuance.authorityCertificate commonName organization
      (Issuance.periodOf window) key) wanted = .ok () ↔ _ :=
    ensureDnsName_of_extension hname rfl wanted
  refine check_eq_ok.trans ⟨?_, fun ⟨hmatch, hcovers⟩ ↦ ⟨_, _, _, hholds, ?_⟩⟩
  · rintro ⟨ca, key, cert, hother, hpasses⟩
    obtain ⟨rfl, -, rfl⟩ := hholds.unique hother
    exact ⟨hwanted.1 hpasses.dnsName, hpasses.caCovers⟩
  · exact
      { keyMatches := ensureKeyMatches_certificate hkey.consistent rfl _
        canSign := ensureCanSign_authority
        issuedBy := if_pos rfl
        signedBy := ensureSignedBy_authority hkey
        caCovers := hcovers
        certCovers := hcovers
        dnsName := hwanted.2 hmatch
        serverAuth := rfl }

/-- Under its own name an authority that was made passes as long as its period lasts. -/
theorem check_authority (before : Bytes) (hbefore : (45 : UInt8) ∉ before) (hkey : key.IsFit)
    (hname : FitsMemory commonName) (horganization : FitsMemory organization)
    (hwindow : Issuance.IsWritableWindow window) :
    let pair := Issuance.authorityPair commonName organization (Issuance.periodOf window) key
    check Signature.standard (before ++ pair.certPem) (before ++ pair.certPem) pair.keyPem
        commonName instant = .ok () ↔ (Issuance.periodOf window).Covers instant :=
  (check_authority_iff before hbefore hkey hname horganization hwindow commonName).trans
    (and_iff_right (DnsName.isMatch_self _))

/-- The material of a serving certificate that was made, under any authority that can be read. -/
theorem holds_leaf {caDer : Bytes} (hne : caPem ≠ [])
    (hder : Material.decodePem caPem Material.certificateTag = .ok caDer)
    (hca : Certificate.read? caDer = some ca) (hsigner : signer.IsFit) (hkey : key.IsFit)
    (hname : FitsMemory dnsName) (hissuer : issuer.IsWritable)
    (hlength : issuer.encode.length ≤ 2 ^ 62) (hwindow : Issuance.IsWritableWindow window) :
    let pair := Issuance.leafPair dnsName issuer (Issuance.periodOf window) signer key
    Holds caPem pair.certPem pair.keyPem ca key
      (Issuance.leafCertificate dnsName issuer (Issuance.periodOf window) signer key) where
  nonempty := ⟨hne, Issuance.ne_nil_pem _, Issuance.ne_nil_pem _⟩
  ca := ⟨_, hder, hca⟩
  key := Issuance.readKey_keyPem hkey.consistent hkey.canSign
  cert := ⟨_, Issuance.decodePem_certificatePem [] (by simp) _,
    Issuance.read?_leaf hkey.consistent hsigner.consistent hname hissuer hlength hwindow⟩

/-- **A serving certificate that was made passes under an authority whose key verifies what was
signed, exactly if the issuer's names agree, under the names that match its own, and as long as both
periods last.** -/
theorem check_leaf_iff {caDer : Bytes} (hne : caPem ≠ [])
    (hder : Material.decodePem caPem Material.certificateTag = .ok caDer)
    (hca : Certificate.read? caDer = some ca) (hcanSign : ensureCanSign ca = .ok ())
    (hsigner : signer.IsFit)
    (hread : Signature.rsaKey? 2048 ca.publicKey.bits = some signer.publicKey)
    (hkey : key.IsFit) (hname : FitsMemory dnsName) (hissuer : issuer.IsWritable)
    (hlength : issuer.encode.length ≤ 2 ^ 62) (hwindow : Issuance.IsWritableWindow window)
    (wanted : String) :
    let pair := Issuance.leafPair dnsName issuer (Issuance.periodOf window) signer key
    check Signature.standard caPem pair.certPem pair.keyPem wanted instant = .ok () ↔
      issuer.text = ca.subject.text ∧ DnsName.isMatch dnsName.toList wanted.toList = true ∧
        ca.validity.Covers instant ∧ (Issuance.periodOf window).Covers instant := by
  have hholds := holds_leaf hne hder hca hsigner hkey hname hissuer hlength hwindow
  have hwanted : ensureDnsName (Issuance.leafCertificate dnsName issuer
      (Issuance.periodOf window) signer key) wanted = .ok () ↔ _ :=
    ensureDnsName_of_extension hname rfl wanted
  refine check_eq_ok.trans ⟨?_, ?_⟩
  · rintro ⟨ca', key', cert', hother, hpasses⟩
    obtain ⟨rfl, -, rfl⟩ := hholds.unique hother
    exact ⟨ensureIssuedBy_eq_ok.1 hpasses.issuedBy, hwanted.1 hpasses.dnsName, hpasses.caCovers,
      hpasses.certCovers⟩
  · rintro ⟨htext, hmatch, hcaCovers, hcovers⟩
    -- the authority is stored, so what its key verifies is not known from how it was made
    have hverify := Signature.verify_of_rsaKey? ca.publicKey hsigner hread
      (Issuance.leafTemplate dnsName issuer (Issuance.periodOf window) key.publicKey).body
    exact ⟨ca, key, _, hholds,
      { keyMatches := ensureKeyMatches_certificate hkey.consistent rfl _
        canSign := hcanSign
        issuedBy := if_pos htext
        signedBy := Except.mapError_eq_ok.2 hverify
        caCovers := hcaCovers
        certCovers := hcovers
        dnsName := hwanted.2 hmatch
        serverAuth := rfl }⟩

/-- Under its own name a serving certificate that was made passes if the issuer's names agree, and
as long as both periods last. -/
theorem check_leaf {caDer : Bytes} (hne : caPem ≠ [])
    (hder : Material.decodePem caPem Material.certificateTag = .ok caDer)
    (hca : Certificate.read? caDer = some ca) (hcanSign : ensureCanSign ca = .ok ())
    (hsigner : signer.IsFit)
    (hread : Signature.rsaKey? 2048 ca.publicKey.bits = some signer.publicKey)
    (hkey : key.IsFit) (hname : FitsMemory dnsName) (hissuer : issuer.IsWritable)
    (hlength : issuer.encode.length ≤ 2 ^ 62) (hwindow : Issuance.IsWritableWindow window) :
    let pair := Issuance.leafPair dnsName issuer (Issuance.periodOf window) signer key
    check Signature.standard caPem pair.certPem pair.keyPem dnsName instant = .ok () ↔
      issuer.text = ca.subject.text ∧ ca.validity.Covers instant ∧
        (Issuance.periodOf window).Covers instant :=
  (check_leaf_iff hne hder hca hcanSign hsigner hread hkey hname hissuer hlength hwindow
    dnsName).trans (and_congr_right fun _ ↦ and_iff_right (DnsName.isMatch_self _))

/-- **A serving certificate passes under the authority whose key signed it if its issuer prints like
the name of that**, exactly under the names that match its own and as long as both periods last. -/
theorem check_leaf_of_text_eq {caWindow : Window} (hsigner : signer.IsFit) (hkey : key.IsFit)
    (hcommonName : FitsMemory commonName) (horganization : FitsMemory organization)
    (hname : FitsMemory dnsName) (hissuer : issuer.IsWritable)
    (hlength : issuer.encode.length ≤ 2 ^ 62)
    (htext : issuer.text = (Issuance.authorityName commonName organization).text)
    (hcaWindow : Issuance.IsWritableWindow caWindow)
    (hwindow : Issuance.IsWritableWindow window) (wanted : String) :
    let ca := Issuance.authorityPair commonName organization (Issuance.periodOf caWindow) signer
    let leaf := Issuance.leafPair dnsName issuer (Issuance.periodOf window) signer key
    check Signature.standard ca.certPem leaf.certPem leaf.keyPem wanted instant = .ok () ↔
      DnsName.isMatch dnsName.toList wanted.toList = true ∧
        (Issuance.periodOf caWindow).Covers instant ∧
        (Issuance.periodOf window).Covers instant := by
  have hholds :=
    holds_authority [] (by simp) hsigner hcommonName horganization hcaWindow
  obtain ⟨der, hder, hca⟩ := hholds.ca
  refine (check_leaf_iff hholds.nonempty.1 hder hca ensureCanSign_authority hsigner
    (Signature.rsaKey?_encode hsigner.consistent hsigner.canSign) hkey hname hissuer hlength
    hwindow wanted).trans ?_
  exact ⟨fun h ↦ h.2, fun h ↦ ⟨htext, h⟩⟩

/-- **A serving certificate passes under the authority that was made with it, exactly under the
names that match its own and as long as both periods last.** -/
theorem check_leaf_of_authority_iff {caWindow : Window} (hsigner : signer.IsFit) (hkey : key.IsFit)
    (hcommonName : FitsMemory commonName) (horganization : FitsMemory organization)
    (hname : FitsMemory dnsName) (hcaWindow : Issuance.IsWritableWindow caWindow)
    (hwindow : Issuance.IsWritableWindow window) (wanted : String) :
    let ca := Issuance.authorityPair commonName organization (Issuance.periodOf caWindow) signer
    let leaf := Issuance.leafPair dnsName (Issuance.authorityName commonName organization)
      (Issuance.periodOf window) signer key
    check Signature.standard ca.certPem leaf.certPem leaf.keyPem wanted instant = .ok () ↔
      DnsName.isMatch dnsName.toList wanted.toList = true ∧
        (Issuance.periodOf caWindow).Covers instant ∧
        (Issuance.periodOf window).Covers instant :=
  check_leaf_of_text_eq hsigner hkey hcommonName horganization hname
    (Issuance.isWritable_authorityName commonName organization)
    (Issuance.length_authorityName_le hcommonName horganization) rfl hcaWindow hwindow wanted

/-- Under its own name a serving certificate passes as long as both periods last. -/
theorem check_leaf_of_authority {caWindow : Window} (hsigner : signer.IsFit) (hkey : key.IsFit)
    (hcommonName : FitsMemory commonName) (horganization : FitsMemory organization)
    (hname : FitsMemory dnsName) (hcaWindow : Issuance.IsWritableWindow caWindow)
    (hwindow : Issuance.IsWritableWindow window) :
    let ca := Issuance.authorityPair commonName organization (Issuance.periodOf caWindow) signer
    let leaf := Issuance.leafPair dnsName (Issuance.authorityName commonName organization)
      (Issuance.periodOf window) signer key
    check Signature.standard ca.certPem leaf.certPem leaf.keyPem dnsName instant = .ok () ↔
      (Issuance.periodOf caWindow).Covers instant ∧
        (Issuance.periodOf window).Covers instant :=
  (check_leaf_of_authority_iff hsigner hkey hcommonName horganization hname hcaWindow hwindow
    dnsName).trans (and_iff_right (DnsName.isMatch_self _))

end Validation

end WebhookTrust
