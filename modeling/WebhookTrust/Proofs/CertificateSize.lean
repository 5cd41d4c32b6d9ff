import WebhookTrust.Pki.Issuance
import WebhookTrust.Proofs.Keys

/-!
# The size of certificates

Lengths are read as far as 2⁶⁴, so a certificate reads back only if it is shorter, and the theorems
about reading ask for it. Here it is shown of all certificates whose names fit a machine, so that
the assumption goes away.

* `Template.length_sign_lt`: **a certificate is little longer than its names and extensions.** Every
  element is at most ten octets longer than its contents (`Der.length_encode_le_of_le`), and keys
  and signatures are short, since the modulus of a key that may sign is.
* `Issuance.length_authorityExtensions_le`, `Issuance.length_leafExtensions_le`: the extensions of
  what is made are little longer than the DNS name in them.

A text fits a machine if it is shorter than 2⁶⁰ bytes (`FitsMemory`). The bounds are generous;
nothing depends on how close they are.
-/

namespace WebhookTrust

/-! ### Keys and signatures -/

namespace Rsa.PrivateKey

variable {key : PrivateKey}

theorem length_sign_le (hkey : key.isConsistent = true) (message : Bytes) :
    (sign .sha256 key message).length ≤ 512 := by
  rw [sign, Bytes.length_ofNatPadded]
  exact byteLength_modulus_le hkey

/-- An encoded public key is short. -/
theorem length_encode_le (hkey : key.isConsistent = true) : key.publicKey.encode.length ≤ 1056 := by
  obtain ⟨-, -, hexponent, -⟩ := isConsistent_iff.1 hkey
  have hwidth := byteLength_modulus_le hkey
  have hbytes : ∀ n ∈ [key.modulus, key.publicExponent], Bytes.byteLength n ≤ 512 := by
    simp only [List.forall_mem_cons]
    exact ⟨hwidth, (byteLength_mono hexponent.le).trans hwidth, by simp⟩
  have hlength : ([key.modulus, key.publicExponent].flatMap Der.natural).length ≤ 2 * 523 :=
    length_flatMap_natural_le (by decide) hbytes
  have hencode := Der.length_encode_le 0x30 (lt_of_le_of_lt hlength (by decide))
  rw [List.flatMap_def] at hencode hlength
  exact hencode.trans (by omega)

end Rsa.PrivateKey

/-! ### Encodings -/

namespace Der

/-- Lengths are read as far as this. -/
theorem pow_sixty_four : Nat.pow 2 64 = 2 ^ 64 := rfl

theorem length_encode_le_of_le {contents : Bytes} {n : Nat} (identifier : UInt8)
    (h : contents.length ≤ n) (hn : n < 2 ^ 64) : (encode identifier contents).length ≤ n + 10 := by
  have := length_encode_le identifier (lt_of_le_of_lt h (lt_of_lt_of_eq hn pow_sixty_four.symm))
  omega

/-- A sequence is little longer than its parts together. -/
theorem length_sequence_le {parts : List Bytes} {n : Nat}
    (h : (parts.map List.length).sum ≤ n) (hn : n < 2 ^ 64) :
    (sequence parts).length ≤ n + 10 :=
  length_encode_le_of_le 0x30 (by rwa [List.length_flatten]) hn

theorem length_set_le {parts : List Bytes} {n : Nat} (h : (parts.map List.length).sum ≤ n)
    (hn : n < 2 ^ 64) : (set parts).length ≤ n + 10 :=
  length_encode_le_of_le 0x31 (by rwa [List.length_flatten]) hn

theorem length_bitString_le {octets : Bytes} {n : Nat} (h : octets.length ≤ n)
    (hn : n + 1 < 2 ^ 64) : (bitString octets).length ≤ n + 11 :=
  length_encode_le_of_le 0x03 (show (0 :: octets).length ≤ n + 1 by rw [List.length_cons]; omega) hn

theorem length_natural_le {n : Nat} (width : Nat) (h : n < 256 ^ width) (hwidth : width ≤ 1000) :
    (natural n).length ≤ width + 11 := by
  have hbytes := Bytes.byteLength_le_iff.2 h
  have hoctets := length_naturalOctets_le n
  exact length_encode_le_of_le 0x02 (n := width + 1) (by omega) (by omega)

end Der

theorem Rsa.PublicKey.length_fingerprint_le (key : Rsa.PublicKey) :
    key.fingerprint.length ≤ 20 := by
  rw [Rsa.PublicKey.fingerprint, List.length_take]
  omega

/-- A public key in a certificate is short. -/
theorem Rsa.PrivateKey.length_encodeInfo_le {key : Rsa.PrivateKey}
    (hkey : key.isConsistent = true) : key.publicKey.encodeInfo.length ≤ 1200 := by
  have halgorithm : (Der.sequence [Der.oid AlgorithmId.rsa, Der.null]).length = 15 := by
    decide +kernel
  have hbits := Der.length_bitString_le (Rsa.PrivateKey.length_encode_le hkey) (by omega)
  refine (Der.length_sequence_le (n := 1100) ?_ (by omega)).trans (by omega)
  simp only [List.map_cons, List.map_nil, List.sum_cons, List.sum_nil]
  omega

namespace Template

variable {template : Template} {key : Rsa.PrivateKey}

/-- **A certificate is little longer than its names and extensions.** -/
theorem length_sign_lt (signer : Rsa.PrivateKey) (hsigner : signer.isConsistent = true)
    (h : template.IsWritable) (hkey : key.isConsistent = true)
    (hpublic : template.publicKey = key.publicKey)
    (hissuer : template.issuer.encode.length ≤ 2 ^ 62)
    (hsubject : template.subject.encode.length ≤ 2 ^ 62)
    (hextensions : (Der.sequence (template.extensions.map Extension.encode)).length ≤ 2 ^ 62) :
    (template.sign Signature.standard signer).length < Nat.pow 2 64 := by
  have hserial : (Der.natural template.serial).length ≤ 31 := by
    refine Der.length_natural_le 20 ?_ (by omega)
    have hmod := Nat.mod_lt (Bytes.toNat template.publicKey.fingerprint)
      (show 0 < Nat.pow 2 159 by decide)
    exact lt_trans hmod (by decide)
  have halgorithm : algorithmBytes.length = 15 := by decide +kernel
  have hversion : (Der.encode 0xA0 (Der.natural 2)).length = 5 := by decide
  have hvalidity := Validity.length_encode_le h.notBefore h.notAfter
  have hinfo : template.publicKey.encodeInfo.length ≤ 1200 := by
    rw [hpublic]
    exact Rsa.PrivateKey.length_encodeInfo_le hkey
  have htagged := Der.length_encode_le_of_le 0xA3 hextensions (by omega)
  have hbody : template.body.length ≤ 3 * 2 ^ 62 + 2010 := by
    refine Der.length_sequence_le (n := 3 * 2 ^ 62 + 2000) ?_ (by omega)
    simp only [List.map_cons, List.map_nil, List.sum_cons, List.sum_nil]
    omega
  have hbits : (Der.bitString (Signature.standard.sign signer template.body)).length ≤ 523 :=
    Der.length_bitString_le (Rsa.PrivateKey.length_sign_le hsigner template.body) (by omega)
  refine lt_of_le_of_lt (Der.length_sequence_le (n := 3 * 2 ^ 62 + 3000) ?_ (by omega)) (by decide)
  simp only [List.map_cons, List.map_nil, List.sum_cons, List.sum_nil]
  omega

end Template

/-! ### Texts in certificates -/

/-- Is the text short enough for a machine? -/
def FitsMemory (text : String) : Prop := (Utf8.ofString text).length ≤ 2 ^ 60

/-- A relative name of one text is little longer than the text. -/
theorem Name.length_utf8Part_le (kind : Oid) {text : String} (hkind : (Der.oid kind).length ≤ 10)
    (h : FitsMemory text) :
    (Der.set ((Name.utf8Part kind text).map Attribute.encode)).length ≤ 2 ^ 60 + 40 := by
  have hvalue := Der.length_encode_le_of_le (UInt8.ofNat Der.utf8StringTag) h (by omega)
  refine Der.length_set_le (n := 2 ^ 60 + 30) ?_ (by omega)
  simp only [Name.utf8Part, List.map_cons, List.map_nil, List.sum_cons, List.sum_nil]
  refine Nat.add_le_add_right (Der.length_sequence_le (n := 2 ^ 60 + 20) ?_ (by omega)) 0
  simp only [List.map_cons, List.map_nil, List.sum_cons, List.sum_nil]
  omega

/-- Names of texts can be written. -/
theorem Name.isWritable_utf8Parts (fields : List (Oid × String)) :
    (⟨fields.map fun (kind, text) ↦ Name.utf8Part kind text⟩ : Name).IsWritable := by
  intro part hpart
  obtain ⟨⟨kind, text⟩, -, rfl⟩ := List.mem_map.1 hpart
  refine ⟨List.cons_ne_nil _ _, ?_⟩
  simp [Name.utf8Part, Attribute.IsWritable, Der.utf8StringTag]

namespace Extension

/-- An extension that is not critical is little longer than its value. -/
theorem length_encode_le {extension : Extension} {n : Nat}
    (hname : (Der.oid extension.name).length = 5) (hcritical : extension.critical = false)
    (hvalue : extension.value.length ≤ n) (hn : n + 100 < 2 ^ 64) :
    extension.encode.length ≤ n + 25 := by
  have hoctets := Der.length_encode_le_of_le 0x04 hvalue (by omega)
  refine Der.length_sequence_le (n := n + 15) ?_ (by omega)
  simp only [List.map_cons, List.map_nil, List.sum_cons, List.sum_nil, hname, hcritical,
    Bool.false_eq_true, if_false, List.length_nil, Der.octetString]
  omega

/-- The extension for a DNS name is little longer than the name. -/
theorem length_dnsName_le {name : String} (h : FitsMemory name) :
    (Extension.dnsName name).encode.length ≤ 2 ^ 60 + 45 := by
  have hname := Der.length_encode_le_of_le 0x82 h (by omega)
  refine length_encode_le (n := 2 ^ 60 + 20)
    (show (Der.oid alternativeNames).length = 5 by decide) rfl ?_ (by omega)
  refine Der.length_sequence_le (n := 2 ^ 60 + 10) ?_ (by omega)
  simpa using hname

theorem length_keyId_le (key : Rsa.PublicKey) : (Extension.keyId key).encode.length ≤ 55 :=
  length_encode_le (n := 30) (show (Der.oid subjectKeyId).length = 5 by decide) rfl
    (Der.length_encode_le_of_le 0x04 key.length_fingerprint_le (by omega)) (by omega)

end Extension

namespace Issuance

variable {commonName organization dnsName : String} {validity : Validity} {issuer : Name}
  {key signer : Rsa.PrivateKey}

/-! ### Templates -/

theorem isWritable_authorityName (commonName organization : String) :
    (authorityName commonName organization).IsWritable :=
  Name.isWritable_utf8Parts [(Name.commonName, commonName), (Name.organization, organization)]

/-- The name of an authority is little longer than its texts. -/
theorem length_authorityName_le (hname : FitsMemory commonName)
    (horganization : FitsMemory organization) :
    (authorityName commonName organization).encode.length ≤ 2 ^ 62 := by
  have hfirst := Name.length_utf8Part_le Name.commonName (by decide) hname
  have hsecond := Name.length_utf8Part_le Name.organization (by decide) horganization
  refine (Der.length_sequence_le (n := 2 ^ 61 + 80) ?_ (by omega)).trans (by omega)
  simp only [authorityName, List.map_cons, List.map_nil, List.sum_cons, List.sum_nil]
  omega

theorem length_commonName_le (hname : FitsMemory commonName) :
    (⟨[Name.utf8Part Name.commonName commonName]⟩ : Name).encode.length ≤ 2 ^ 62 := by
  have hpart := Name.length_utf8Part_le Name.commonName (by decide) hname
  refine (Der.length_sequence_le (n := 2 ^ 60 + 40) ?_ (by omega)).trans (by omega)
  simpa using hpart

/-- The extensions of an authority. -/
theorem length_authorityExtensions_le (key : Rsa.PublicKey) (hname : FitsMemory commonName) :
    (Der.sequence ((authorityTemplate commonName organization validity key).extensions.map
      Extension.encode)).length ≤ 2 ^ 62 := by
  have hdns := Extension.length_dnsName_le hname
  have hkeyId := Extension.length_keyId_le key
  have husages : (Extension.usages (commonUsages ++ [Extension.certSign])).encode.length = 16 := by
    decide
  have hauthority : Extension.authority.encode.length = 17 := by decide
  refine (Der.length_sequence_le (n := 2 ^ 60 + 200) ?_ (by omega)).trans (by omega)
  simp only [authorityTemplate, List.map_cons, List.map_nil, List.sum_cons, List.sum_nil]
  omega

/-- The extensions of a serving certificate. -/
theorem length_leafExtensions_le (key : Rsa.PublicKey) (hname : FitsMemory dnsName) :
    (Der.sequence ((leafTemplate dnsName issuer validity key).extensions.map
      Extension.encode)).length ≤ 2 ^ 62 := by
  have hdns := Extension.length_dnsName_le hname
  have husages : (Extension.usages commonUsages).encode.length = 16 := by decide
  have hpurposes : (Extension.purposes [Extension.serverAuth]).encode.length = 21 := by decide
  refine (Der.length_sequence_le (n := 2 ^ 60 + 200) ?_ (by omega)).trans (by omega)
  simp only [leafTemplate, List.map_cons, List.map_nil, List.sum_cons, List.sum_nil]
  omega

end Issuance

end WebhookTrust
