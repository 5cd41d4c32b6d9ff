import WebhookTrust.Pki.Material
import WebhookTrust.Text.Splitting

/-!
# Validation

A certificate passes if it and its key are a pair, the given authority signed it, both it and the
authority are valid at the instant, and it is good for authenticating a server under the DNS name.
An authority is checked against itself by passing it as both.

The checks run in a fixed order, and the first that fails gives the reason.

A DNS name matches a pattern if they agree up to the case of ASCII letters and dots at the end. A
pattern that starts with an asterisk as its first of several labels lets the name's first label be
anything but empty.
-/

namespace WebhookTrust

/-! ### DNS names -/

namespace DnsName

/-- The characters without the dots at the end. -/
def trimDots (name : List Char) : List Char := (name.reverse.dropWhile (· = '.')).reverse

/-- Are the characters the same up to the case of ASCII letters? -/
def sameLetters (a b : List Char) : Bool := a.map Char.toLower = b.map Char.toLower

/-- Does the name without dots at its end match the pattern without dots at its end? -/
def matchesTrimmed (pattern name : List Char) : Bool :=
  match pattern with
  | '*' :: '.' :: suffix =>
    match cutAt? '.' name with
    | some (label, rest) => !label.isEmpty && sameLetters rest suffix
    | none => false
  | _ => sameLetters pattern name

/-- Does the name match the pattern? -/
def isMatch (pattern name : List Char) : Bool := matchesTrimmed (trimDots pattern) (trimDots name)

end DnsName

namespace Validation

/-! ### Single checks -/

/-- Do the octets of a public key spell the numbers of the private key? -/
def keyMatches (numbers : PublicKeyInfo.RsaNumbers) (key : Rsa.PrivateKey) : Bool :=
  Bytes.stripLeadingZeros numbers.modulus = Bytes.ofNatNonempty key.modulus &&
    Bytes.stripLeadingZeros numbers.exponent = Bytes.ofNatNonempty key.publicExponent

/-- The certificate's key is the public half of the private key. -/
def ensureKeyMatches (cert : Certificate) (key : Rsa.PrivateKey) : Except ParseFault Unit :=
  match cert.publicKey.parsed? with
  | none => .error .publicKey
  | some .other => .error .notRsa
  | some (.rsa numbers) => if keyMatches numbers key then .ok () else .error .keyMismatch

/-- The certificate is an authority whose key, if its usage is restricted, may sign certificates. -/
def ensureCanSign (ca : Certificate) : Except ParseFault Unit :=
  if !ca.isAuthority then .error .notAuthority
  else
    match ca.keyUsages? with
    | .error () => .error .keyUsage
    | .ok none => .ok ()
    | .ok (some usages) =>
      if usages.testBit Extension.certSign then .ok () else .error .noCertSign

/-- The certificate names the authority as its issuer, going by the printed forms of the names. -/
def ensureIssuedBy (ca cert : Certificate) : Except ParseFault Unit :=
  if cert.issuer.text = ca.subject.text then .ok ()
  else .error (.otherIssuer cert.issuer.text ca.subject.text)

/-- The authority's key verifies the signature of the certificate. -/
def ensureSignedBy (scheme : SignatureScheme) (ca cert : Certificate) : Except ParseFault Unit :=
  (cert.verifySignature scheme ca.publicKey).mapError .signature

/-- The instant's whole second lies in the certificate's validity period. -/
def ensureValidAt (cert : Certificate) (instant : Instant) : Except ParseFault Unit :=
  if instant.seconds < cert.validity.notBefore.seconds then .error (.notYetValid cert.subject.text)
  else if cert.validity.notAfter.seconds < instant.seconds then .error (.expired cert.subject.text)
  else .ok ()

/-- One of the certificate's alternative names is a DNS name that matches. -/
def ensureDnsName (cert : Certificate) (dnsName : String) : Except ParseFault Unit :=
  match cert.generalNames? with
  | .error () => .error .alternativeNames
  | .ok names =>
    let isMatch := fun
      | Extension.GeneralName.dns pattern => DnsName.isMatch pattern.toList dnsName.toList
      | .other => false
    if (names.getD []).any isMatch then .ok () else .error (.otherName dnsName)

/-- The purposes of the key, if they are restricted, include authenticating servers. -/
def ensureServerAuth (cert : Certificate) : Except ParseFault Unit :=
  match cert.purposes? with
  | .error () => .error .extendedKeyUsage
  | .ok none => .ok ()
  | .ok (some purposes) =>
    if Extension.serverAuth ∈ purposes ∨ Extension.anyPurpose ∈ purposes then .ok ()
    else .error .notServerAuth

/-! ### All checks -/

/-- The parts of PEM material that validation works on: the authority, the private key and the
certificate under test. -/
def readMaterial (caPem certPem keyPem : Bytes) :
    Except ParseFault (Certificate × Rsa.PrivateKey × Certificate) := do
  if caPem.isEmpty ∨ certPem.isEmpty ∨ keyPem.isEmpty then throw .noMaterial
  let ca ← Material.readCertificate .signerCertificate
    (← Material.decodePem caPem Material.certificateTag)
  let key ← Material.readKey keyPem
  let cert ← Material.readCertificate .testedCertificate
    (← Material.decodePem certPem Material.certificateTag)
  return (ca, key, cert)

/-- The checks on readable material. -/
def checkParts (scheme : SignatureScheme) (ca : Certificate) (key : Rsa.PrivateKey)
    (cert : Certificate) (dnsName : String) (instant : Instant) : Except ParseFault Unit := do
  ensureKeyMatches cert key
  ensureCanSign ca
  ensureIssuedBy ca cert
  ensureSignedBy scheme ca cert
  ensureValidAt ca instant
  ensureValidAt cert instant
  ensureDnsName cert dnsName
  ensureServerAuth cert

/-- All checks on PEM material, with the reason of the first that fails. -/
def check (scheme : SignatureScheme) (caPem certPem keyPem : Bytes) (dnsName : String)
    (instant : Instant) : Except ParseFault Unit := do
  let (ca, key, cert) ← readMaterial caPem certPem keyPem
  checkParts scheme ca key cert dnsName instant

/-- Does the certificate pass? -/
def validate (scheme : SignatureScheme) (caPem certPem keyPem : Bytes) (dnsName : String)
    (instant : Instant) : Bool :=
  (check scheme caPem certPem keyPem dnsName instant).isOk

/-! ### The instant to check -/

/-- The years that an instant may lie in. -/
def yearLimit : Int := 9999

/-- The instant `window` seconds and `nanos` nanoseconds after `now`, unless its year has more than
four digits. -/
def lookaheadInstant? (now : Instant) (window : Int) (nanos : Int := 0) : Option Instant :=
  let later := (now.addSeconds window).addNanos nanos
  let year := (Calendar.dateFromDays (later.seconds / 86400)).1
  if -yearLimit ≤ year ∧ year ≤ yearLimit then some later else none

end Validation

end WebhookTrust
