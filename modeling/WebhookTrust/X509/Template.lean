import WebhookTrust.X509.Signature

/-!
# Writing certificates

A template holds what a certificate is to say. Signing writes its body in canonical encoding, signs
those octets and puts the signature behind them.
-/

namespace WebhookTrust

/-- What a certificate is to say about its subject and the subject's RSA key. -/
structure Template where
  issuer : Name
  subject : Name
  validity : Validity
  publicKey : Rsa.PublicKey
  extensions : List Extension
deriving DecidableEq, Repr

/-! ### Parts -/

/-- The encoded attribute. -/
def Attribute.encode (item : Attribute) : Bytes :=
  Der.sequence [Der.oid item.kind, Der.encode (UInt8.ofNat item.tag) item.value]

/-- The encoded name. -/
def Name.encode (name : Name) : Bytes :=
  Der.sequence (name.parts.map fun attributes ↦ Der.set (attributes.map Attribute.encode))

/-- A relative name of a single attribute with a UTF-8 string. -/
def Name.utf8Part (kind : Oid) (text : String) : List Attribute :=
  [⟨kind, Der.utf8StringTag, Utf8.ofString text⟩]

/-- The encoded extension; a mark that it is not critical is left out. -/
def Extension.encode (extension : Extension) : Bytes :=
  Der.sequence [Der.oid extension.name, if extension.critical then Der.boolean true else [],
    Der.octetString extension.value]

namespace Extension

/-- The extension for a single DNS name, which is written as ASCII. -/
def dnsName (name : String) : Extension :=
  ⟨alternativeNames, false, Der.sequence [Der.encode 0x82 (Utf8.ofString name)]⟩

/-- The bits of usages below eight, with the trailing zeros counted as unused. -/
def usageBits (usages : List Nat) : Bytes :=
  let octet := usages.foldl (fun octet usage ↦ octet ||| UInt8.ofNat (128 >>> usage)) 0
  Der.encode 0x03 [UInt8.ofNat (Der.trailingZeros octet), octet]

/-- The critical extension for usages below eight. -/
def usages (usages : List Nat) : Extension := ⟨keyUsage, true, usageBits usages⟩

/-- The critical extension that makes the subject an authority of unlimited path length. -/
def authority : Extension := ⟨basicConstraints, true, Der.sequence [Der.boolean true]⟩

/-- The extension that restricts the key to purposes. -/
def purposes (purposes : List Oid) : Extension :=
  ⟨extendedKeyUsage, false, Der.sequence (purposes.map Der.oid)⟩

end Extension

/-- The encoded public key, as the bit string of a certificate holds it. -/
def Rsa.PublicKey.encode (key : Rsa.PublicKey) : Bytes :=
  Der.sequence [Der.natural key.modulus, Der.natural key.exponent]

/-- The encoded public key with its algorithm. -/
def Rsa.PublicKey.encodeInfo (key : Rsa.PublicKey) : Bytes :=
  Der.sequence [Der.sequence [Der.oid AlgorithmId.rsa, Der.null], Der.bitString key.encode]

/-- The first 20 bytes of the digest of a public key, which name it. -/
def Rsa.PublicKey.fingerprint (key : Rsa.PublicKey) : Bytes :=
  (Hash.sha256 key.encodeInfo).take 20

/-- The extension that names the subject's key. -/
def Extension.keyId (key : Rsa.PublicKey) : Extension :=
  ⟨subjectKeyId, false, Der.octetString key.fingerprint⟩

/-! ### Certificates -/

namespace Template

/-- The algorithm of every signature that is written. -/
def algorithmBytes : Bytes := Der.sequence [Der.oid Signature.sha256WithRsa, Der.null]

/-- The serial number: the key's fingerprint without its highest bit. -/
def serial (template : Template) : Nat :=
  Bytes.toNat template.publicKey.fingerprint % Nat.pow 2 159

/-- The octets that are signed. -/
def body (template : Template) : Bytes :=
  Der.sequence [Der.encode 0xA0 (Der.natural 2), Der.natural template.serial, algorithmBytes,
    template.issuer.encode, template.validity.encode, template.subject.encode,
    template.publicKey.encodeInfo,
    Der.encode 0xA3 (Der.sequence (template.extensions.map Extension.encode))]

/-- The certificate, signed with the key. -/
def sign (scheme : SignatureScheme) (key : Rsa.PrivateKey) (template : Template) : Bytes :=
  Der.sequence [template.body, algorithmBytes, Der.bitString (scheme.sign key template.body)]

end Template

end WebhookTrust
