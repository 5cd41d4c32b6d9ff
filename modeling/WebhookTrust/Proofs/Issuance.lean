import WebhookTrust.Proofs.CertificateSize
import WebhookTrust.Proofs.Pem

/-!
# What issuing makes

Issuing succeeds under exactly the conditions that it checks, and then makes a certificate that is
known in full. Everything is said for keys that are fit to sign, which is what a key generator
promises: the numbers fit together, they are of the right size, and what the key signs verifies
(`Rsa.PrivateKey.IsFit`). The texts that go into certificates are shorter than 2⁶⁰ bytes, as texts
are on any machine.

* `Issuance.authority_eq_ok`, `Issuance.leaf_eq_ok`: when an authority and a serving certificate are
  made, and which ones: names have to be ASCII, years of four digits, and the key one that may sign.
* `Issuance.read_certificatePem`, `Issuance.readKey_keyPem`: the PEM material that is handed out
  reads back as the certificate and the key.
* `Issuance.read?_authority`, `Issuance.read?_leaf`: **the certificates read back**, by
  `Certificate.read?_sign` and the bounds of `WebhookTrust.Proofs.CertificateSize`.
* `Issuance.canIssue_authorityPair`: **an authority that was made can issue**, and under its own
  name (`Issuance.issuerName?_authorityName`).

An authority that was stored may be anything that can be read, and issues or not as
`Issuance.CanIssue` says.
-/

namespace WebhookTrust

/-! ### Results -/

theorem Except.mapError_eq_ok {ε ε' α : Type} {x : Except ε α} {f : ε → ε'} {a : α} :
    x.mapError f = .ok a ↔ x = .ok a := by
  cases x <;> simp [Except.mapError]

/-! ### Keys that are fit to sign -/

/-- What a key generator promises of its keys. -/
structure Rsa.PrivateKey.IsFit (key : Rsa.PrivateKey) : Prop where
  consistent : key.isConsistent = true
  canSign : key.canSign = true
  verifies : ∀ message,
    Rsa.verify .sha256 key.publicKey message (Rsa.sign .sha256 key message) = true

theorem Rsa.isFit_pierpontKey : Rsa.pierpontKey.IsFit :=
  ⟨Rsa.isConsistent_pierpontKey, Rsa.canSign_pierpontKey, Rsa.verify_sign_pierpont⟩

namespace Issuance

variable {commonName organization dnsName : String} {validity : Validity} {issuer : Name}
  {key signer : Rsa.PrivateKey} {window : Window} {newKey : Except KeyFault Rsa.PrivateKey}
  {ca : KeyPair}

/-! ### Results of issuing -/

/-- The authority for a key and a period. -/
def authorityPair (commonName organization : String) (validity : Validity)
    (key : Rsa.PrivateKey) : KeyPair :=
  let certDer :=
    (authorityTemplate commonName organization validity key.publicKey).sign Signature.standard key
  ⟨certDer, key, certificatePem certDer, keyPem key⟩

/-- The serving certificate for a key and a period, which `signer` signs in the issuer's name. -/
def leafPair (dnsName : String) (issuer : Name) (validity : Validity)
    (signer key : Rsa.PrivateKey) :
    PemPair :=
  ⟨certificatePem
    ((leafTemplate dnsName issuer validity key.publicKey).sign Signature.standard signer),
    keyPem key⟩

theorem ensureDnsName_eq_ok {u : Unit} :
    ensureDnsName dnsName = .ok u ↔ isAscii dnsName = true := by
  rw [ensureDnsName]
  split_ifs with h <;> simp [h]

theorem ensureCanSign_eq_ok {u : Unit} :
    ensureCanSign key = .ok u ↔ key.canSign = true := by
  rw [ensureCanSign]
  split_ifs with h <;> simp [h]

/-- The period that a window is written as. -/
def periodOf (window : Window) : Validity :=
  ⟨.ofInstant window.notBefore, .ofInstant window.notAfter⟩

theorem hasFourDigitYear_iff {instant : Instant} : hasFourDigitYear instant = true ↔
    0 ≤ (Calendar.dateFromDays (instant.seconds / 86400)).1 ∧
      (Calendar.dateFromDays (instant.seconds / 86400)).1 ≤ 9999 := by
  simp only [hasFourDigitYear, Bool.and_eq_true, decide_eq_true_eq]

/-- Can both ends of the window be written with four digits for the year? -/
def IsWritableWindow (window : Window) : Prop :=
  hasFourDigitYear window.notBefore = true ∧ hasFourDigitYear window.notAfter = true

/-- A window that can be written is written as its period. -/
theorem validityOf_eq_ok : validityOf window = .ok validity ↔
    IsWritableWindow window ∧ validity = periodOf window := by
  rw [validityOf, IsWritableWindow, periodOf]
  split_ifs with h
  · simp only [h, true_and, Except.ok.injEq]
    exact eq_comm
  · simp [h]

/-- **When an authority is made, and which one.** -/
theorem authority_eq_ok (organization : String) :
    authority Signature.standard commonName organization window newKey = .ok ca ↔
      isAscii commonName = true ∧ ∃ key, newKey = .ok key ∧ key.canSign = true ∧
        IsWritableWindow window ∧
        ca = authorityPair commonName organization (periodOf window) key := by
  rw [authority]
  simp only [Except.bind_eq_ok, ensureDnsName_eq_ok, ensureCanSign_eq_ok, Except.mapError_eq_ok,
    validityOf_eq_ok, Pure.pure, Except.pure, Except.ok.injEq]
  constructor
  · rintro ⟨-, hascii, key, hkey, -, hsign, validity, ⟨hwindow, rfl⟩, rfl⟩
    exact ⟨hascii, key, hkey, hsign, hwindow, rfl⟩
  · rintro ⟨hascii, key, hkey, hsign, hwindow, rfl⟩
    exact ⟨(), hascii, key, hkey, (), hsign, _, ⟨hwindow, rfl⟩, rfl⟩

/-- Can an authority issue: is its certificate text, may its key sign, and has it a name to issue
under? -/
def CanIssue (ca : KeyPair) (issuer : Name) : Prop :=
  (Utf8.toString? ca.certPem).isSome ∧ ca.key.canSign = true ∧ issuerOf? ca.certPem = some issuer

/-- **When a serving certificate is made, and which one.** -/
theorem leaf_eq_ok {pair : PemPair} :
    leaf Signature.standard dnsName ca window newKey = .ok pair ↔
      isAscii dnsName = true ∧ ∃ key issuer, newKey = .ok key ∧ key.canSign = true ∧
        CanIssue ca issuer ∧ IsWritableWindow window ∧
        pair = leafPair dnsName issuer (periodOf window) ca.key key := by
  rw [leaf]
  simp only [Except.bind_eq_ok, ensureDnsName_eq_ok, ensureCanSign_eq_ok, Except.mapError_eq_ok,
    CanIssue]
  constructor
  · rintro ⟨-, hascii, key, hkey, -, hsign, hrest⟩
    cases htext : Utf8.toString? ca.certPem with
    | none =>
      rw [htext] at hrest
      simp [throw, throwThe, MonadExceptOf.throw, Bind.bind, Except.bind] at hrest
    | some text =>
      simp only [htext, Option.isNone_some, Bool.false_eq_true, if_false, Except.bind_eq_ok,
        ensureCanSign_eq_ok] at hrest
      obtain ⟨-, hcanSign, hlast⟩ := hrest
      cases hissuer : issuerOf? ca.certPem with
      | none => simp [hissuer, throw, throwThe, MonadExceptOf.throw] at hlast
      | some issuer =>
        simp only [hissuer, Except.bind_eq_ok, validityOf_eq_ok, Pure.pure, Except.pure,
          Except.ok.injEq] at hlast
        obtain ⟨-, ⟨hwindow, rfl⟩, rfl⟩ := hlast
        exact ⟨hascii, key, issuer, hkey, hsign, ⟨rfl, hcanSign, rfl⟩, hwindow, rfl⟩
  · rintro ⟨hascii, key, issuer, hkey, hsign, ⟨htext, hcanSign, hissuer⟩, hwindow, rfl⟩
    refine ⟨(), hascii, key, hkey, (), hsign, ?_⟩
    -- every check is passed, so nothing is thrown on the way
    obtain ⟨text, htext⟩ := Option.isSome_iff_exists.1 htext
    simp only [htext, Option.isNone_some, Bool.false_eq_true, if_false, hissuer,
      Except.bind_eq_ok, ensureCanSign_eq_ok, validityOf_eq_ok, Pure.pure, Except.pure,
      Except.ok.injEq]
    exact ⟨(), hcanSign, _, ⟨hwindow, rfl⟩, rfl⟩

/-! ### Material -/

theorem read_certificatePem (before : Bytes) (h : (45 : UInt8) ∉ before) (der : Bytes) :
    Pem.read (before ++ certificatePem der) = .ok ⟨Material.certificateTag, der⟩ :=
  Pem.read_append_write before h (by simp only; decide) (by simp only; decide)

/-- **What is written as a certificate is read as one**, also behind bytes without a dash. -/
theorem decodePem_certificatePem (before : Bytes) (h : (45 : UInt8) ∉ before) (der : Bytes) :
    Material.decodePem (before ++ certificatePem der) Material.certificateTag = .ok der := by
  rw [Material.decodePem, read_certificatePem before h]
  rfl

/-- What is written as a certificate is text. -/
theorem toString?_certificatePem (der : Bytes) :
    (Utf8.toString? (certificatePem der)).isSome := by
  have htag : (Utf8.ofString Material.certificateTag).all (· < 0x80) = true := by decide
  have hascii := Pem.write_ascii ⟨Material.certificateTag, der⟩ (Utf8.lt_of_all htag)
  rw [certificatePem, Utf8.toString?, Utf8.toString, Utf8.decode_ascii hascii]
  rfl

/-- **What is written as a private key is read as that key.** -/
theorem readKey_keyPem (hkey : key.isConsistent = true) (hsign : key.canSign = true) :
    Material.readKey (keyPem key) = .ok key := by
  have hread : Pem.read (keyPem key) = .ok ⟨Material.rsaKeyTag, key.toPkcs1⟩ :=
    Pem.read_append_write [] (by simp) (by simp only; decide) (by simp only; decide)
  rw [Material.readKey, hread]
  simp only [Except.mapError, Bind.bind, Except.bind, if_true,
    Rsa.PrivateKey.ofPkcs1?_toPkcs1 hkey hsign]
  rfl

theorem ne_nil_pem (block : Pem.Block) : Pem.write block ≠ [] := by
  simp [Pem.write, Pem.beginMarker, Bytes.ofAscii]

/-! ### Certificates -/

/-- Both ends of a window that can be written can be. -/
theorem isWritable_periodOf (h : IsWritableWindow window) :
    (periodOf window).notBefore.IsWritable ∧ (periodOf window).notAfter.IsWritable := by
  have hyear : ∀ {instant : Instant}, hasFourDigitYear instant = true →
      (CertificateTime.ofInstant instant).IsWritable := by
    exact fun hinstant ↦ CertificateTime.isWritable_ofInstant (hasFourDigitYear_iff.1 hinstant)
  exact ⟨hyear h.1, hyear h.2⟩

/-- The certificate of an authority, as it is read. -/
def authorityCertificate (commonName organization : String) (validity : Validity)
    (key : Rsa.PrivateKey) : Certificate :=
  let template := authorityTemplate commonName organization validity key.publicKey
  template.certificate (Rsa.sign .sha256 key template.body)

/-- A serving certificate, as it is read. -/
def leafCertificate (dnsName : String) (issuer : Name) (validity : Validity)
    (signer key : Rsa.PrivateKey) : Certificate :=
  let template := leafTemplate dnsName issuer validity key.publicKey
  template.certificate (Rsa.sign .sha256 signer template.body)

/-- **The certificate of an authority reads back.** -/
theorem read?_authority (hkey : key.isConsistent = true) (hname : FitsMemory commonName)
    (horganization : FitsMemory organization) (hwindow : IsWritableWindow window) :
    Certificate.read? (authorityPair commonName organization (periodOf window) key).certDer =
      some (authorityCertificate commonName organization (periodOf window) key) := by
  have hnames := isWritable_authorityName commonName organization
  have hlength := length_authorityName_le hname horganization
  have htimes := isWritable_periodOf hwindow
  have hwritable : (authorityTemplate commonName organization (periodOf window)
      key.publicKey).IsWritable := ⟨hnames, hnames, htimes.1, htimes.2⟩
  exact Certificate.read?_sign hwritable (Template.length_sign_lt key hkey hwritable hkey rfl
    hlength hlength (length_authorityExtensions_le key.publicKey hname))

/-- **A serving certificate reads back.** -/
theorem read?_leaf (hkey : key.isConsistent = true) (hsigner : signer.isConsistent = true)
    (hname : FitsMemory dnsName) (hissuer : issuer.IsWritable)
    (hlength : issuer.encode.length ≤ 2 ^ 62) (hwindow : IsWritableWindow window) :
    Certificate.read? ((leafTemplate dnsName issuer (periodOf window) key.publicKey).sign
        Signature.standard signer) =
      some (leafCertificate dnsName issuer (periodOf window) signer key) := by
  have hsubject : (⟨[Name.utf8Part Name.commonName dnsName]⟩ : Name).IsWritable :=
    Name.isWritable_utf8Parts [(Name.commonName, dnsName)]
  have htimes := isWritable_periodOf hwindow
  have hwritable : (leafTemplate dnsName issuer (periodOf window) key.publicKey).IsWritable :=
    ⟨hissuer, hsubject, htimes.1, htimes.2⟩
  exact Certificate.read?_sign hwritable (Template.length_sign_lt signer hsigner hwritable hkey rfl
    hlength (length_commonName_le hname) (length_leafExtensions_le key.publicKey hname))

/-! ### Names of issuers -/

/-- **An authority that was made issues under its own name.** -/
theorem issuerName?_authorityName (commonName organization : String) :
    issuerName? (authorityName commonName organization) =
      some (authorityName commonName organization) := by
  have hsole : ∀ kind text, kind.arcs.all (· < Nat.pow 2 63) = true → Oid.ofArcs kind.arcs = kind →
      soleAttribute? (Name.utf8Part kind text) =
        some ⟨kind, Der.utf8StringTag, Utf8.ofString text⟩ := by
    intro kind text harcs hkind
    have hvalue : isNameValue ⟨kind, Der.utf8StringTag, Utf8.ofString text⟩ = true := by
      simp [isNameValue, Der.utf8StringTag]
    rw [Name.utf8Part, soleAttribute?, if_pos ⟨hvalue, harcs⟩, hkind]
  have hdifferent : Name.commonName ≠ Name.organization := by decide
  rw [issuerName?, authorityName, List.mapM_cons, List.mapM_cons, List.mapM_nil,
    hsole _ commonName (by decide) (by decide), hsole _ organization (by decide) (by decide)]
  simp [putAttribute, Name.utf8Part, hdifferent]

/-- **An authority that was made can issue.** -/
theorem canIssue_authorityPair (hkey : key.isConsistent = true) (hsign : key.canSign = true)
    (hname : FitsMemory commonName) (horganization : FitsMemory organization)
    (hwindow : IsWritableWindow window) :
    CanIssue (authorityPair commonName organization (periodOf window) key)
      (authorityName commonName organization) := by
  refine ⟨toString?_certificatePem _, hsign, ?_⟩
  have hread := read?_authority hkey hname horganization hwindow
  have hpem : Pem.read (authorityPair commonName organization (periodOf window) key).certPem =
      .ok ⟨Material.certificateTag, _⟩ := read_certificatePem [] (by simp) _
  have husages : (authorityCertificate commonName organization (periodOf window) key).keyUsages? =
      .ok (some 37) := by
    simp only [Certificate.keyUsages?, Certificate.extensionAs?, Certificate.extension?,
      authorityCertificate, Template.certificate, authorityTemplate]
    rfl
  refine Option.bind_eq_some_iff.2 ⟨_, by rw [hpem]; rfl, ?_⟩
  refine Option.bind_eq_some_iff.2 ⟨_, hread, ?_⟩
  refine Option.bind_eq_some_iff.2 ⟨some 37, by rw [husages]; rfl, ?_⟩
  exact issuerName?_authorityName commonName organization

end Issuance

end WebhookTrust
