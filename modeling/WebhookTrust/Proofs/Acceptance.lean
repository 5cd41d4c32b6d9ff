import WebhookTrust.Proofs.Rotation

/-!
# What is accepted, and when

Of the checks that validation makes, those of names and periods alone ever decide about certificates
that were made: an authority and a serving certificate that it signed are accepted for every name
that theirs matches, a wildcard included, and throughout their periods, which are the windows that
they were made for with both ends cut to whole seconds. A window may end before it begins; such a
certificate is made, and is accepted at no instant.

* `Validation.validate_made_iff`: **an authority and a serving certificate that it signs can be made
  for all names and windows, and then only names and periods decide**, by
  `Validation.check_leaf_of_authority_iff`. That they are made is part of the statement.
* `Validation.check_of_leaf_ne_ok`: **nothing passes under a serving certificate**, since it does
  not call itself an authority.
* `Validation.validate_never_or_covered`: **what passes at all passes exactly while both periods
  last**, whatever the material is, since periods are all that the instant decides about.
* `Validation.validate_interval`: **the instants at which material is accepted are one closed
  interval of whole seconds**, if they are any. So what is accepted at two instants is accepted all
  the time between them.

Instants are counted in nanoseconds, and certificates know seconds only; the second of an instant is
the one that has begun, also before 1970.
-/

namespace WebhookTrust

/-- Does the whole second of the instant lie in the window, with both ends cut to whole seconds? -/
def Window.Covers (window : Window) (instant : Instant) : Prop :=
  window.notBefore.seconds ≤ instant.seconds ∧ instant.seconds ≤ window.notAfter.seconds

instance (window : Window) (instant : Instant) : Decidable (window.Covers instant) :=
  inferInstanceAs (Decidable (_ ∧ _))

/-- The period that a window is written as covers what the window covers. -/
theorem Issuance.covers_periodOf {window : Window} {instant : Instant} :
    (periodOf window).Covers instant ↔ window.Covers instant := Iff.rfl

/-- The instant that many nanoseconds after the start of 1970. -/
def Instant.ofNanos (nanos : Int) : Instant :=
  ⟨nanos / 1000000000, (nanos % 1000000000).toNat⟩

namespace Validation

variable {dnsName name : String} {validity : Validity} {issuer : Name}
  {signer key : Rsa.PrivateKey} {window : Window} {instant : Instant} {certPem keyPem : Bytes}

/-! ### Serving certificates as authorities -/

/-- A serving certificate does not call itself an authority. -/
theorem ensureCanSign_leaf :
    ensureCanSign (Issuance.leafCertificate dnsName issuer validity signer key) =
      .error .notAuthority := by
  have hauthority :
      (Issuance.leafCertificate dnsName issuer validity signer key).isAuthority = false := rfl
  rw [ensureCanSign, hauthority]
  rfl

/-- **Nothing passes under a serving certificate.** -/
theorem check_of_leaf_ne_ok (hsigner : signer.IsFit) (hkey : key.IsFit) (hname : FitsMemory dnsName)
    (hissuer : issuer.IsWritable) (hlength : issuer.encode.length ≤ 2 ^ 62)
    (hwindow : Issuance.IsWritableWindow window) :
    check Signature.standard
        (Issuance.leafPair dnsName issuer (Issuance.periodOf window) signer key).certPem certPem
        keyPem name instant ≠ .ok () := by
  intro hcheck
  obtain ⟨ca, _, _, hholds, hpasses⟩ := check_eq_ok.1 hcheck
  -- the authority that was read is the serving certificate that was written
  obtain ⟨der, hder, hread⟩ := hholds.ca
  obtain rfl := Except.ok.inj (hder.symm.trans
    (Issuance.decodePem_certificatePem [] (by simp) _))
  obtain rfl := Option.some.inj (hread.symm.trans
    (Issuance.read?_leaf hkey.consistent hsigner.consistent hname hissuer hlength hwindow))
  have hcanSign := hpasses.canSign
  rw [ensureCanSign_leaf] at hcanSign
  cases hcanSign

/-! ### Pairs that were made -/

/-- **An authority and a serving certificate that it signs can be made for all names and windows,
and then only names and periods decide.** The serving certificate passes under the authority exactly
for the names that its own matches and at the seconds that both windows cover, the authority under
itself exactly for the names that its own matches and at the seconds that its window covers, and
nothing under the serving certificate. -/
theorem validate_made_iff (commonName organization dnsName : String) (caWindow window : Window)
    (hsigner : signer.IsFit) (hkey : key.IsFit) (hcommonName : FitsMemory commonName)
    (horganization : FitsMemory organization) (hdnsName : FitsMemory dnsName)
    (hcaAscii : Issuance.isAscii commonName = true) (hleafAscii : Issuance.isAscii dnsName = true)
    (hcaWindow : Issuance.IsWritableWindow caWindow)
    (hwindow : Issuance.IsWritableWindow window) :
    ∃ ca leaf,
      Issuance.authority Signature.standard commonName organization caWindow (.ok signer) =
        .ok ca ∧
      Issuance.leaf Signature.standard dnsName ca window (.ok key) = .ok leaf ∧
      (∀ name instant,
        validate Signature.standard ca.certPem leaf.certPem leaf.keyPem name instant = true ↔
          DnsName.isMatch dnsName.toList name.toList = true ∧
            caWindow.Covers instant ∧ window.Covers instant) ∧
      (∀ name instant,
        validate Signature.standard ca.certPem ca.certPem ca.keyPem name instant = true ↔
          DnsName.isMatch commonName.toList name.toList = true ∧ caWindow.Covers instant) ∧
      ∀ certPem keyPem name instant,
        validate Signature.standard leaf.certPem certPem keyPem name instant = false := by
  refine ⟨_, _, (Issuance.authority_eq_ok organization).2
    ⟨hcaAscii, signer, rfl, hsigner.canSign, hcaWindow, rfl⟩, Issuance.leaf_eq_ok.2
    ⟨hleafAscii, key, _, rfl, hkey.canSign, Issuance.canIssue_authorityPair hsigner.consistent
      hsigner.canSign hcommonName horganization hcaWindow, hwindow, rfl⟩, ?_, ?_, ?_⟩
  · intro name instant
    simp only [validate_eq_true, ← Issuance.covers_periodOf]
    exact check_leaf_of_authority_iff hsigner hkey hcommonName horganization hdnsName hcaWindow
      hwindow name
  · intro name instant
    simp only [validate_eq_true, ← Issuance.covers_periodOf]
    exact check_authority_iff [] (by simp) hsigner hcommonName horganization hcaWindow name
  · intro certPem keyPem name instant
    rw [← Bool.not_eq_true, validate_eq_true]
    exact check_of_leaf_ne_ok hsigner hkey hdnsName
      (Issuance.isWritable_authorityName commonName organization)
      (Issuance.length_authorityName_le hcommonName horganization) hwindow

/-- A wildcard certificate whose window sticks out of that of its authority: the seconds are counted
from 1970, the first one that both windows cover is the eleventh, and the name may differ in its
first label only. -/
theorem validate_made_iff_wildcard :
    ∃ ca leaf,
      Issuance.authority Signature.standard "webhook-ca" "certwarden" ⟨⟨-10, 0⟩, ⟨20, 999999999⟩⟩
        (.ok Rsa.pierpontKey) = .ok ca ∧
      Issuance.leaf Signature.standard "*.webhook-system.svc" ca ⟨⟨10, 500000000⟩, ⟨30, 0⟩⟩
        (.ok Rsa.pierpontKey) = .ok leaf ∧
      validate Signature.standard ca.certPem leaf.certPem leaf.keyPem
        "Hook.webhook-system.svc." ⟨10, 0⟩ = true ∧
      validate Signature.standard ca.certPem leaf.certPem leaf.keyPem
        "Hook.webhook-system.svc." ⟨20, 999999999⟩ = true ∧
      validate Signature.standard ca.certPem leaf.certPem leaf.keyPem
        "Hook.webhook-system.svc." ⟨21, 0⟩ = false ∧
      validate Signature.standard ca.certPem leaf.certPem leaf.keyPem
        "a.hook.webhook-system.svc" ⟨10, 0⟩ = false ∧
      validate Signature.standard ca.certPem ca.certPem ca.keyPem "webhook-ca" ⟨-10, 7⟩ = true ∧
      validate Signature.standard leaf.certPem leaf.certPem leaf.keyPem
        "Hook.webhook-system.svc." ⟨10, 0⟩ = false := by
  obtain ⟨ca, leaf, hca, hleaf, hpair, hself, hnone⟩ := validate_made_iff "webhook-ca" "certwarden"
    "*.webhook-system.svc" ⟨⟨-10, 0⟩, ⟨20, 999999999⟩⟩ ⟨⟨10, 500000000⟩, ⟨30, 0⟩⟩
    Rsa.isFit_pierpontKey Rsa.isFit_pierpontKey (by unfold FitsMemory; decide)
    (by unfold FitsMemory; decide) (by unfold FitsMemory; decide) (by decide) (by decide)
    (by unfold Issuance.IsWritableWindow; decide) (by unfold Issuance.IsWritableWindow; decide)
  refine ⟨ca, leaf, hca, hleaf, ?_, ?_, ?_, ?_, ?_, hnone _ _ _ _⟩
  · exact (hpair _ _).2 (by decide)
  · exact (hpair _ _).2 (by decide)
  · exact Bool.eq_false_iff.2 fun h ↦ absurd ((hpair _ _).1 h) (by decide)
  · exact Bool.eq_false_iff.2 fun h ↦ absurd ((hpair _ _).1 h) (by decide)
  · exact (hself _ _).2 (by decide)

/-! ### Material of any kind -/

section Interval

variable (scheme : SignatureScheme) (caPem certPem keyPem : Bytes) (dnsName : String)

/-- **What passes at all passes exactly while both periods last**, and to the parts of the material
that the periods belong to there is no alternative (`Holds.unique`). -/
theorem validate_never_or_covered :
    (∀ instant, validate scheme caPem certPem keyPem dnsName instant = false) ∨
      ∃ ca key cert, Holds caPem certPem keyPem ca key cert ∧
        ∀ instant, validate scheme caPem certPem keyPem dnsName instant = true ↔
          ca.validity.Covers instant ∧ cert.validity.Covers instant := by
  by_cases hsome : ∃ instant, validate scheme caPem certPem keyPem dnsName instant = true
  · obtain ⟨instant, hvalid⟩ := hsome
    obtain ⟨ca, key, cert, hholds, hpasses⟩ := check_eq_ok.1 (validate_eq_true.1 hvalid)
    exact .inr ⟨ca, key, cert, hholds, fun later ↦
      validate_eq_true.trans (check_eq_ok_of_passes hholds hpasses)⟩
  · exact .inl fun instant ↦ Bool.eq_false_iff.2 fun hvalid ↦ hsome ⟨instant, hvalid⟩

/-- **The instants at which material is accepted are one closed interval of whole seconds**, if they
are any: it goes from the later start to the earlier end of the two periods. So what is accepted
twice is accepted all the time between, and what is accepted in a second is accepted throughout
it. -/
theorem validate_interval :
    ((∀ instant, validate scheme caPem certPem keyPem dnsName instant = false) ∨
      ∃ ca key cert, Holds caPem certPem keyPem ca key cert ∧
        ∀ nanos : Int,
          validate scheme caPem certPem keyPem dnsName (.ofNanos nanos) = true ↔
            max ca.validity.notBefore.seconds cert.validity.notBefore.seconds ≤
                nanos / 1000000000 ∧
              nanos / 1000000000 ≤
                min ca.validity.notAfter.seconds cert.validity.notAfter.seconds) ∧
    (∀ first middle last : Int, first ≤ middle → middle ≤ last →
      validate scheme caPem certPem keyPem dnsName (.ofNanos first) = true →
      validate scheme caPem certPem keyPem dnsName (.ofNanos last) = true →
      validate scheme caPem certPem keyPem dnsName (.ofNanos middle) = true) ∧
    ∀ instant other : Instant, instant.seconds = other.seconds →
      validate scheme caPem certPem keyPem dnsName instant =
        validate scheme caPem certPem keyPem dnsName other := by
  obtain hnever | ⟨ca, key, cert, hholds, hcovers⟩ :=
    validate_never_or_covered scheme caPem certPem keyPem dnsName
  · simp [hnever]
  · refine ⟨.inr ⟨ca, key, cert, hholds, fun nanos ↦ ?_⟩, fun first middle last hfirst hlast ↦ ?_,
      fun instant other heq ↦ ?_⟩
    · rw [hcovers, max_le_iff, le_min_iff]
      exact and_and_and_comm
    · simp only [hcovers, Validity.Covers, Instant.ofNanos]
      omega
    · rw [Bool.eq_iff_iff, hcovers, hcovers, Validity.Covers, Validity.Covers, heq]
      rfl

/-- An authority whose period goes from the tenth to the second second before 1970, tried in the
middle of its first second and of its last one, at the end of that, and in the middle of a second
between. -/
theorem validate_interval_early :
    let ca := Issuance.authorityPair "webhook-ca" "certwarden"
      (Issuance.periodOf ⟨⟨-10, 0⟩, ⟨-2, 0⟩⟩) Rsa.pierpontKey
    let isAccepted := fun nanos : Int ↦ validate Signature.standard ca.certPem ca.certPem
      ca.keyPem "webhook-ca" (.ofNanos nanos)
    isAccepted (-9500000000) = true ∧ isAccepted (-1500000000) = true ∧
      isAccepted (-1000000000) = false ∧ isAccepted (-5500000000) = true := by
  intro ca isAccepted
  have hiff : ∀ nanos, isAccepted nanos = true ↔
      (Issuance.periodOf ⟨⟨-10, 0⟩, ⟨-2, 0⟩⟩).Covers (.ofNanos nanos) := fun nanos ↦
    validate_eq_true.trans (check_authority [] (by simp) Rsa.isFit_pierpontKey
      (by unfold FitsMemory; decide) (by unfold FitsMemory; decide)
      (by unfold Issuance.IsWritableWindow; decide))
  have hfirst := (hiff (-9500000000)).2 (by decide)
  have hlast := (hiff (-1500000000)).2 (by decide)
  refine ⟨hfirst, hlast, Bool.eq_false_iff.2 fun h ↦ absurd ((hiff _).1 h) (by decide), ?_⟩
  exact (validate_interval Signature.standard ca.certPem ca.certPem ca.keyPem "webhook-ca").2.1
    _ _ _ (by decide) (by decide) hfirst hlast

end Interval
end Validation

end WebhookTrust
