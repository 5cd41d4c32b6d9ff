import WebhookTrust.Proofs.NameText
import WebhookTrust.Proofs.Validation

/-!
# Whose certificates pass

A certificate passes only if its issuer prints as the subject of the authority does. If both names
are plain, that makes them the same. In general it does not: the name of an authority that was made
has a double of one attribute, and what the authority's key signs in the name of the double passes
under it.

* `Validation.issuer_of_validate`: **what passes prints the subject of the authority as its issuer,
  and if both names are plain, that is its issuer**, by `Name.meaning_eq_of_text_eq`. Names in
  certificates are read, so every relative name in them has an attribute
  (`Certificate.isProper_of_read?`).
* `Validation.validate_joinedName_iff`: **a serving certificate in the joined name passes under the
  authority as one in its own name does**, by `Validation.check_leaf_iff`, though its issuer is not
  the authority's subject.
* `Validation.not_issuer_of_validate`: so what passes need not have the authority as its issuer.
  Those who look for the issuer by its name do not find the authority.

To make such a certificate takes the key of the authority, so nobody else's certificates pass; what
is wrong is the chain, not the signature.
-/

namespace WebhookTrust

/-! ### Names that were read -/

namespace Name

/-- A relative name that was read has an attribute. -/
theorem ne_nil_of_part? {bytes rest : Bytes} {part : List Attribute}
    (h : part? bytes = some (part, rest)) : part ≠ [] := by
  obtain ⟨⟨members, behind⟩, -, h⟩ := Option.bind_eq_some_iff.1 h
  dsimp only at h
  split at h
  · cases h
  · next hne =>
    obtain ⟨rfl, -⟩ := Prod.mk.inj (Option.some.inj h)
    exact hne

theorem isProper_of_read? {bytes rest : Bytes} {name : Name}
    (h : read? bytes = some (name, rest)) : name.IsProper := by
  obtain ⟨⟨parts, behind⟩, -, h⟩ := Option.bind_eq_some_iff.1 h
  obtain ⟨rfl, -⟩ := Prod.mk.inj (Option.some.inj h)
  exact Der.forall_mem_many (fun _ _ _ ↦ ne_nil_of_part?) parts

end Name

/-- Every relative name in a certificate has an attribute. -/
theorem Certificate.isProper_of_read? {bytes : Bytes} {cert : Certificate}
    (h : read? bytes = some cert) : cert.issuer.IsProper ∧ cert.subject.IsProper := by
  obtain ⟨_, -, h⟩ := Option.bind_eq_some_iff.1 h
  obtain ⟨_, -, h⟩ := Option.bind_eq_some_iff.1 h
  obtain ⟨_, -, h⟩ := Option.bind_eq_some_iff.1 h
  obtain ⟨_, -, h⟩ := Option.bind_eq_some_iff.1 h
  obtain ⟨_, -, h⟩ := Option.bind_eq_some_iff.1 h
  obtain ⟨⟨issuer, _⟩, hissuer, h⟩ := Option.bind_eq_some_iff.1 h
  obtain ⟨_, -, h⟩ := Option.bind_eq_some_iff.1 h
  obtain ⟨⟨subject, _⟩, hsubject, h⟩ := Option.bind_eq_some_iff.1 h
  obtain ⟨_, -, h⟩ := Option.bind_eq_some_iff.1 h
  obtain ⟨_, -, h⟩ := Option.bind_eq_some_iff.1 h
  obtain ⟨_, -, h⟩ := Option.bind_eq_some_iff.1 h
  obtain ⟨_, -, h⟩ := Option.bind_eq_some_iff.1 h
  obtain ⟨_, -, h⟩ := Option.bind_eq_some_iff.1 h
  obtain ⟨_, -, h⟩ := Option.bind_eq_some_iff.1 h
  obtain rfl := Option.some.inj h
  exact ⟨Name.isProper_of_read? hissuer, Name.isProper_of_read? hsubject⟩

namespace Validation

variable {scheme : SignatureScheme} {caPem certPem keyPem : Bytes} {dnsName : String}
  {instant : Instant} {signer key : Rsa.PrivateKey} {commonName organization : String}
  {caWindow window : Window}

/-! ### Names that tell -/

/-- **What passes prints the subject of the authority as its issuer, and if both names are plain,
that is its issuer**: the same relative names, with attributes of the same types and the same
characters as values. -/
theorem issuer_of_validate
    (h : validate scheme caPem certPem keyPem dnsName instant = true) :
    ∃ ca key cert, Holds caPem certPem keyPem ca key cert ∧
      cert.issuer.text = ca.subject.text ∧
      (cert.issuer.IsPlain → ca.subject.IsPlain → cert.issuer.meaning = ca.subject.meaning) := by
  obtain ⟨ca, key, cert, hholds, hpasses⟩ := check_eq_ok.1 (validate_eq_true.1 h)
  obtain ⟨caDer, -, hca⟩ := hholds.ca
  obtain ⟨certDer, -, hcert⟩ := hholds.cert
  have htext := ensureIssuedBy_eq_ok.1 hpasses.issuedBy
  exact ⟨ca, key, cert, hholds, htext, fun hissuer hsubject ↦
    Name.meaning_eq_of_text_eq hissuer hsubject (Certificate.isProper_of_read? hcert).1
      (Certificate.isProper_of_read? hca).2 htext⟩

/-- A serving certificate whose issuer spells the name of its authority in printable strings, while
the authority does so in UTF-8: as they are encoded the names differ, and they are the same. -/
theorem issuer_of_validate_printable :
    let validity := Issuance.periodOf ⟨⟨0, 0⟩, ⟨10, 0⟩⟩
    let ca := Issuance.authorityPair "webhook-ca" "certwarden" validity Rsa.pierpontKey
    let issuer : Name := ⟨[[⟨Name.commonName, 19, Utf8.ofString "webhook-ca"⟩],
      [⟨Name.organization, 19, Utf8.ofString "certwarden"⟩]]⟩
    let leaf := Issuance.leafPair "webhook.svc" issuer validity Rsa.pierpontKey Rsa.pierpontKey
    issuer ≠ Issuance.authorityName "webhook-ca" "certwarden" ∧
      validate Signature.standard ca.certPem leaf.certPem leaf.keyPem "webhook.svc" ⟨5, 0⟩ = true ∧
      issuer.meaning = (Issuance.authorityName "webhook-ca" "certwarden").meaning := by
  intro validity ca issuer leaf
  have hcommonName : FitsMemory "webhook-ca" := by unfold FitsMemory; decide
  have horganization : FitsMemory "certwarden" := by unfold FitsMemory; decide
  have hname : FitsMemory "webhook.svc" := by unfold FitsMemory; decide
  have hwindow : Issuance.IsWritableWindow ⟨⟨0, 0⟩, ⟨10, 0⟩⟩ := by
    unfold Issuance.IsWritableWindow; decide
  have hissuer : issuer.IsWritable := by
    simp [issuer, Name.IsWritable, Attribute.IsWritable]
  have hlength : issuer.encode.length ≤ 2 ^ 62 := by
    rw [show issuer.encode.length = 44 by decide]; decide
  have hvalid : validate Signature.standard ca.certPem leaf.certPem leaf.keyPem "webhook.svc"
      ⟨5, 0⟩ = true :=
    validate_eq_true.2 ((check_leaf_of_text_eq Rsa.isFit_pierpontKey Rsa.isFit_pierpontKey
      hcommonName horganization hname hissuer hlength (by decide) hwindow hwindow _).2 (by decide))
  refine ⟨by decide, hvalid, ?_⟩
  obtain ⟨authority, key, cert, hholds, -, hmeaning⟩ := issuer_of_validate hvalid
  obtain ⟨der, hder, hread⟩ := (holds_authority [] (by simp) Rsa.isFit_pierpontKey hcommonName
    horganization hwindow).ca
  have hother := holds_leaf (Issuance.ne_nil_pem _) hder hread Rsa.isFit_pierpontKey
    Rsa.isFit_pierpontKey hname hissuer hlength hwindow
  obtain ⟨rfl, -, rfl⟩ := hholds.unique hother
  exact hmeaning
    (Name.isPlain_of_strings [(Name.commonName, 19, "webhook-ca"),
      (Name.organization, 19, "certwarden")] (by decide))
    (Name.isPlain_of_strings [(Name.commonName, 12, "webhook-ca"),
      (Name.organization, 12, "certwarden")] (by decide))

end Validation

/-! ### Names that do not tell -/

namespace Issuance

/-- The double of an authority's name: one attribute, whose value goes on where the other began. -/
def joinedName (commonName organization : String) : Name :=
  ⟨[Name.utf8Part Name.commonName (commonName ++ ", O=" ++ organization)]⟩

/-- The double prints like the name of the authority. -/
theorem text_joinedName (commonName organization : String) :
    (joinedName commonName organization).text = (authorityName commonName organization).text := by
  have hjoined := Name.text_utf8Parts [(Name.commonName, commonName ++ ", O=" ++ organization)]
  have hauthority := Name.text_utf8Parts
    [(Name.commonName, commonName), (Name.organization, organization)]
  refine hjoined.trans (Eq.trans ?_ hauthority.symm)
  have hkinds : Name.kindText Name.commonName = "CN" ∧ Name.kindText Name.organization = "O" := by
    decide
  rw [← String.toList_inj]
  simp [hkinds]

/-- The two names are different in the number of their relative names. -/
theorem meaning_joinedName_ne (commonName organization : String) :
    (joinedName commonName organization).meaning ≠
      (authorityName commonName organization).meaning := fun h ↦
  absurd (congrArg List.length h) (by simp [Name.meaning, joinedName, authorityName])

end Issuance

namespace Validation

/-- **A serving certificate in the joined name passes under the authority as one in its own name
does**, though its issuer is not the authority's subject. -/
theorem validate_joinedName_iff (hsigner : signer.IsFit) (hkey : key.IsFit)
    (hcommonName : FitsMemory commonName) (horganization : FitsMemory organization)
    (hjoined : FitsMemory (commonName ++ ", O=" ++ organization)) (hname : FitsMemory dnsName)
    (hcaWindow : Issuance.IsWritableWindow caWindow) (hwindow : Issuance.IsWritableWindow window) :
    let ca := Issuance.authorityPair commonName organization (Issuance.periodOf caWindow) signer
    let issuer := Issuance.joinedName commonName organization
    let leaf := Issuance.leafPair dnsName issuer (Issuance.periodOf window) signer key
    (∃ authority cert, Holds ca.certPem leaf.certPem leaf.keyPem authority key cert ∧
      cert.issuer.meaning ≠ authority.subject.meaning) ∧
    ∀ name instant,
      validate Signature.standard ca.certPem leaf.certPem leaf.keyPem name instant = true ↔
        DnsName.isMatch dnsName.toList name.toList = true ∧
          (Issuance.periodOf caWindow).Covers instant ∧
          (Issuance.periodOf window).Covers instant := by
  intro ca issuer leaf
  obtain ⟨hne, -, -⟩ := (holds_authority [] (by simp) hsigner hcommonName horganization
    hcaWindow).nonempty
  obtain ⟨der, hder, hread⟩ := (holds_authority [] (by simp) hsigner hcommonName horganization
    hcaWindow).ca
  have hissuer : issuer.IsWritable :=
    Name.isWritable_utf8Parts [(Name.commonName, commonName ++ ", O=" ++ organization)]
  have hlength : issuer.encode.length ≤ 2 ^ 62 := Issuance.length_commonName_le hjoined
  refine ⟨⟨_, _, holds_leaf hne hder hread hsigner hkey hname hissuer hlength hwindow,
    Issuance.meaning_joinedName_ne commonName organization⟩, fun name instant ↦ ?_⟩
  exact validate_eq_true.trans (check_leaf_of_text_eq hsigner hkey hcommonName horganization hname
    hissuer hlength (Issuance.text_joinedName commonName organization) hcaWindow hwindow name)

/-- So what passes need not have the authority as its issuer. -/
theorem not_issuer_of_validate :
    ¬ ∀ scheme caPem certPem keyPem dnsName instant,
      validate scheme caPem certPem keyPem dnsName instant = true →
        ∀ ca key cert, Holds caPem certPem keyPem ca key cert →
          cert.issuer.meaning = ca.subject.meaning := by
  intro hall
  obtain ⟨⟨authority, cert, hholds, hne⟩, hvalid⟩ := validate_joinedName_iff
    Rsa.isFit_pierpontKey Rsa.isFit_pierpontKey
    (show FitsMemory "webhook-ca" by unfold FitsMemory; decide)
    (show FitsMemory "certwarden" by unfold FitsMemory; decide)
    (show FitsMemory ("webhook-ca" ++ ", O=" ++ "certwarden") by unfold FitsMemory; decide)
    (show FitsMemory "webhook-service.webhook-system.svc" by unfold FitsMemory; decide)
    (show Issuance.IsWritableWindow ⟨⟨0, 0⟩, ⟨10, 0⟩⟩ by unfold Issuance.IsWritableWindow; decide)
    (show Issuance.IsWritableWindow ⟨⟨0, 0⟩, ⟨10, 0⟩⟩ by unfold Issuance.IsWritableWindow; decide)
  have hpasses := (hvalid "webhook-service.webhook-system.svc" ⟨5, 0⟩).2 (by decide)
  exact hne (hall _ _ _ _ _ _ hpasses _ _ _ hholds)

end Validation

end WebhookTrust
