import WebhookTrust.Pki.Material
import WebhookTrust.X509.Template

/-!
# Issuing certificates

Two kinds of certificates are made: an authority that signs itself, and a serving certificate for a
DNS name that an authority signs. Every certificate is for a new key, which comes from outside since
it is random. The name of an authority is both its common name and its DNS name, so that it can be
validated against itself.

* `Issuance.authority`, `Issuance.leaf`: the checks in their order, and then the certificate with
  its key as PEM;
* `Issuance.issuerName?`: the name under which an authority issues. It is made anew of the
  attributes of its subject, so it need not be the subject, byte for byte or otherwise; a subject
  that it cannot be made of keeps the authority from issuing.

Serial numbers are taken from the keys, as the library that issues takes them. Names may be any
ASCII, also ones that no server can have.
-/

namespace WebhookTrust

/-- The period that a certificate is to be valid in. -/
structure Window where
  notBefore : Instant
  notAfter : Instant
deriving DecidableEq, Repr

/-- A certificate and its key in PEM form. -/
structure PemPair where
  certPem : Bytes
  keyPem : Bytes
deriving DecidableEq, Repr

namespace Issuance

/-! ### Constants -/

/-- The size of generated keys in binary digits. -/
def keyBits : Nat := 2048

/-- How long certificates are valid, in seconds: ten years of 365 days. -/
def lifetime : Int := 10 * 365 * 86400

/-- How far certificates are backdated against differing clocks, in seconds: an hour. -/
def clockSkew : Int := 3600

/-- How far ahead certificates have to stay valid unless configured otherwise, in seconds: 90 days.
-/
def standardLookahead : Int := 90 * 86400

end Issuance

/-- The period that ends at a given instant. -/
def Window.until (now notAfter : Instant) : Window :=
  ⟨now.addSeconds (-Issuance.clockSkew), notAfter⟩

/-- The period of standard length. -/
def Window.standard (now : Instant) : Window := .until now (now.addSeconds Issuance.lifetime)

namespace Issuance

/-! ### New keys -/

/-- The key that a seed determines: the first that is found from the seed and one of the bytes below
`attempts`. -/
def keyFrom (seed : Bytes) : Nat → Except KeyFault Rsa.PrivateKey
  | 0 => .error .generation
  | attempts + 1 =>
    match Rsa.generate? keyBits (UInt8.ofNat attempts :: seed) with
    | some key => .ok key
    | none => keyFrom seed attempts

/-- The key that a seed determines. -/
def newKey (seed : Bytes) : Except KeyFault Rsa.PrivateKey := keyFrom seed 64

/-! ### Checks before issuing -/

/-- Is the text ASCII, as a DNS name in a certificate has to be? -/
def isAscii (text : String) : Bool := text.toList.all fun c ↦ c.toNat < 128

/-- A DNS name has to be ASCII. -/
def ensureDnsName (name : String) : Except PkiError Unit :=
  if isAscii name then .ok () else .error (.certificateCreation (.dnsName name))

/-- A key has to be fit to sign. -/
def ensureCanSign (key : Rsa.PrivateKey) : Except PkiError Unit :=
  if key.canSign then .ok () else .error (.keyGeneration .signing)

/-- Can the year be written with four digits? -/
def hasFourDigitYear (instant : Instant) : Bool :=
  let year := (Calendar.dateFromDays (instant.seconds / 86400)).1
  0 ≤ year && year ≤ 9999

/-- The validity period of a certificate for the window, in whole seconds. -/
def validityOf (window : Window) : Except PkiError Validity :=
  if hasFourDigitYear window.notBefore ∧ hasFourDigitYear window.notAfter then
    .ok ⟨.ofInstant window.notBefore, .ofInstant window.notAfter⟩
  else .error (.certificateCreation .year)

/-- The PEM form of a certificate. -/
def certificatePem (der : Bytes) : Bytes := Pem.write ⟨Material.certificateTag, der⟩

/-- The PEM form of a key. -/
def keyPem (key : Rsa.PrivateKey) : Bytes := Pem.write ⟨Material.rsaKeyTag, key.toPkcs1⟩

/-! ### Authorities -/

/-- The name of an authority. -/
def authorityName (commonName organization : String) : Name :=
  ⟨[Name.utf8Part Name.commonName commonName, Name.utf8Part Name.organization organization]⟩

/-- What a key is used for in every certificate. -/
def commonUsages : List Nat := [Extension.digitalSignature, Extension.keyEncipherment]

/-- What the certificate of an authority says. Its key signs certificates, too. -/
def authorityTemplate (commonName organization : String) (validity : Validity)
    (key : Rsa.PublicKey) : Template where
  issuer := authorityName commonName organization
  subject := authorityName commonName organization
  validity := validity
  publicKey := key
  extensions := [.dnsName commonName, .usages (commonUsages ++ [Extension.certSign]), .keyId key,
    .authority]

/-- Makes a self-signed authority with a new key. -/
def authority (scheme : SignatureScheme) (commonName organization : String) (window : Window)
    (newKey : Except KeyFault Rsa.PrivateKey) : Except PkiError KeyPair := do
  ensureDnsName commonName
  let key ← newKey.mapError .keyGeneration
  ensureCanSign key
  let validity ← validityOf window
  let certDer :=
    (authorityTemplate commonName organization validity key.publicKey).sign scheme key
  return { certDer, key, certPem := certificatePem certDer, keyPem := keyPem key }

/-! ### Names of issuers -/

/-- May the character stand in a printable string? -/
def isPrintable (b : UInt8) : Bool :=
  (65 ≤ b && b ≤ 90) || (97 ≤ b && b ≤ 122) || (48 ≤ b && b ≤ 57) ||
    b ∈ Bytes.ofAscii " '()+,-./:=?"

/-- Is the number a code point of a character? -/
def isScalar (n : Nat) : Bool := n < 0xD800 || (0xE000 ≤ n && n < 0x110000)

/-- Do the bytes spell characters of four bytes each? -/
def isUtf32 : Bytes → Bool
  | [] => true
  | a :: b :: c :: d :: rest => isScalar (Bytes.toNat [a, b, c, d]) && isUtf32 rest
  | _ => false

/-- Can the value of an attribute be taken over into the issuer's name? It has to be a string of one
of six kinds, with characters of that kind only. -/
def isNameValue (item : Attribute) : Bool :=
  if item.tag = 30 then
    item.value.length % 2 = 0 && (Name.units item.value).all isScalar
  else if item.tag = 22 then item.value.all (· < 128)
  else if item.tag = 19 then item.value.all isPrintable
  else if item.tag = 20 then item.value.all fun b ↦ 0x20 ≤ b && b ≤ 0x7F
  else if item.tag = 28 then isUtf32 item.value
  else if item.tag = 12 then (Utf8.toString? item.value).isSome
  else false

/-- Puts an attribute into a list of attributes of different kinds. A later one takes the place of
an earlier one of its kind. -/
def putAttribute (items : List Attribute) (item : Attribute) : List Attribute :=
  if items.any (·.kind = item.kind) then
    items.map fun other ↦ if other.kind = item.kind then item else other
  else items ++ [item]

/-- The attribute that a relative name consists of, with its kind in shortest form, if there is one
that can be taken over. -/
def soleAttribute? : List Attribute → Option Attribute
  | [item] =>
    if isNameValue item ∧ item.kind.arcs.all (· < Nat.pow 2 63) then
      some { item with kind := .ofArcs item.kind.arcs }
    else none
  | _ => none

/-- The name under which an authority issues: its subject with at most one attribute of each kind.
-/
def issuerName? (subject : Name) : Option Name :=
  (subject.parts.mapM soleAttribute?).map fun items ↦
    ⟨(items.foldl putAttribute []).map fun item ↦ [item]⟩

/-- The name under which a certificate issues, if its names and key usage can be read. -/
def issuerOf? (pem : Bytes) : Option Name := do
  let block ← (Pem.read pem).toOption
  let cert ← Certificate.read? block.contents
  let _ ← cert.keyUsages?.toOption
  issuerName? cert.subject

/-! ### Serving certificates -/

/-- What a serving certificate says. Its key has the purpose of authenticating a server. -/
def leafTemplate (dnsName : String) (issuer : Name) (validity : Validity)
    (key : Rsa.PublicKey) : Template where
  issuer := issuer
  subject := ⟨[Name.utf8Part Name.commonName dnsName]⟩
  validity := validity
  publicKey := key
  extensions :=
    [.dnsName dnsName, .usages commonUsages, .purposes [Extension.serverAuth]]

/-- Makes a serving certificate with a new key, signed by the authority. -/
def leaf (scheme : SignatureScheme) (dnsName : String) (ca : KeyPair) (window : Window)
    (newKey : Except KeyFault Rsa.PrivateKey) : Except PkiError PemPair := do
  ensureDnsName dnsName
  let key ← newKey.mapError .keyGeneration
  ensureCanSign key
  if (Utf8.toString? ca.certPem).isNone then throw (.parse .signerNotUtf8)
  ensureCanSign ca.key
  match issuerOf? ca.certPem with
  | none => throw (.parse .issuer)
  | some issuer =>
    let validity ← validityOf window
    let certDer := (leafTemplate dnsName issuer validity key.publicKey).sign scheme ca.key
    return { certPem := certificatePem certDer, keyPem := keyPem key }

end Issuance

end WebhookTrust
