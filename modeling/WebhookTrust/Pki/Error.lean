import WebhookTrust.Encoding.Pem
import WebhookTrust.X509.Signature

/-!
# What can be wrong with certificate material

Every failure is a cause with the data that its text shows; the texts stand in one function a type.
A text may also be given outright (`other`), for failures that are reported from outside.
-/

namespace WebhookTrust

/-- Why material cannot be read, or does not pass validation. -/
inductive ParseFault where
  /-- The material of a certificate is no PEM block. -/
  | pem (cause : Pem.Error)
  /-- The block has another tag than a certificate. -/
  | tag (expected found : String)
  /-- The material of a key is no PEM block. -/
  | keyPem (cause : Pem.Error)
  /-- The block has no tag of a private key. -/
  | keyTag (found : String)
  | pkcs1Key
  | pkcs8Key
  /-- The block of a pair holds no certificate. -/
  | certificate
  /-- The block of the signer holds no certificate. -/
  | signerCertificate
  /-- The block of the certificate under test holds none. -/
  | testedCertificate
  | noMaterial
  | publicKey
  | notRsa
  | keyMismatch
  | notAuthority
  | keyUsage
  | noCertSign
  /-- The certificate names another issuer than the signer. -/
  | otherIssuer (issuer signer : String)
  | signature (cause : SignatureFault)
  | notYetValid (subject : String)
  | expired (subject : String)
  | alternativeNames
  | otherName (wanted : String)
  | extendedKeyUsage
  | notServerAuth
  /-- The signer's material is no text. -/
  | signerNotUtf8
  /-- The signer's certificate cannot issue. -/
  | issuer
  | other (text : String)
deriving DecidableEq, Repr

/-- The fault in words. -/
def ParseFault.message : ParseFault → String
  | .pem cause => "failed to parse PEM: " ++ cause.message
  | .tag expected found => "expected PEM block '" ++ expected ++ "', found '" ++ found ++ "'"
  | .keyPem cause => "failed to parse key PEM: " ++ cause.message
  | .keyTag found => "unsupported private key PEM block '" ++ found ++ "'"
  | .pkcs1Key => "failed to parse PKCS#1 key"
  | .pkcs8Key => "failed to parse PKCS#8 key"
  | .certificate => "failed to parse certificate"
  | .signerCertificate => "failed to parse CA cert"
  | .testedCertificate => "failed to parse cert"
  | .noMaterial => "empty certificate material"
  | .publicKey => "failed to parse public key"
  | .notRsa => "certificate key is not RSA"
  | .keyMismatch => "private key does not match certificate"
  | .notAuthority => "issuer is not a CA"
  | .keyUsage => "failed to parse key usage"
  | .noCertSign => "CA key usage lacks certSign"
  | .otherIssuer named signer =>
    "certificate issued by '" ++ named ++ "', not by CA '" ++ signer ++ "'"
  | .signature cause => "signature verification failed: " ++ cause.message
  | .notYetValid subject => "certificate '" ++ subject ++ "' not yet valid"
  | .expired subject => "certificate '" ++ subject ++ "' expired"
  | .alternativeNames => "failed to parse SAN"
  | .otherName wanted => "certificate is not valid for '" ++ wanted ++ "'"
  | .extendedKeyUsage => "failed to parse extended key usage"
  | .notServerAuth => "certificate is not valid for server auth"
  | .signerNotUtf8 => "CA certificate is not UTF-8"
  | .issuer => "failed to create issuer"
  | .other text => text

/-- Why there is no key to sign with. -/
inductive KeyFault where
  /-- No prime was found. -/
  | generation
  /-- The key is not one that may sign. -/
  | signing
  | other (text : String)
deriving DecidableEq, Repr

/-- The fault in words. -/
def KeyFault.message : KeyFault → String
  | .generation => "failed to generate RSA key"
  | .signing => "failed to load signing key"
  | .other text => text

/-- Why a certificate cannot be made. -/
inductive IssueFault where
  /-- A DNS name has to be ASCII. -/
  | dnsName (name : String)
  /-- A year has to have four digits. -/
  | year
  | other (text : String)
deriving DecidableEq, Repr

/-- The fault in words. -/
def IssueFault.message : IssueFault → String
  | .dnsName name => "invalid DNS name '" ++ name ++ "': Invalid IA5String: '" ++ name ++ "'"
  | .year => "year out of range"
  | .other text => text

/-- A failure to make, read or load certificate material. -/
inductive PkiError where
  | keyGeneration (fault : KeyFault)
  | certificateCreation (fault : IssueFault)
  /-- A stored entry is missing. -/
  | missingEntry (entry : String)
  /-- The stored authority does not load. -/
  | unloadable (cause : PkiError)
  | malformedSecret (text : String)
  | parse (fault : ParseFault)
deriving DecidableEq, Repr

/-- The kinds of failure. -/
inductive PkiError.Kind where
  | keyGeneration | certificateCreation | malformedSecret | parse
deriving DecidableEq, Repr

/-- The kind of a failure. -/
def PkiError.kind : PkiError → PkiError.Kind
  | .keyGeneration _ => .keyGeneration
  | .certificateCreation _ => .certificateCreation
  | .missingEntry _ | .unloadable _ | .malformedSecret _ => .malformedSecret
  | .parse _ => .parse

/-- The failure in words. -/
def PkiError.message : PkiError → String
  | .keyGeneration fault => "key generation failed: " ++ fault.message
  | .certificateCreation fault => "certificate creation failed: " ++ fault.message
  | .missingEntry entry => "malformed secret: missing " ++ entry
  | .unloadable cause => "malformed secret: failed to load CA: " ++ cause.message
  | .malformedSecret text => "malformed secret: " ++ text
  | .parse fault => "parse error: " ++ fault.message

end WebhookTrust
