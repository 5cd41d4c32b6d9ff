import WebhookTrust.Pki.Error
import WebhookTrust.Pki.PrivateKey

/-!
# Certificate material

Certificates and private keys are stored as PEM blocks. A key pair is a certificate with its private
key, read together with the stored bytes, which are kept as they are.
-/

namespace WebhookTrust

namespace Material

/-- The tag of certificates. -/
def certificateTag : String := "CERTIFICATE"

/-- The tag of private keys that are a plain sequence of numbers. -/
def rsaKeyTag : String := "RSA PRIVATE KEY"

/-- The tag of private keys wrapped with the name of their algorithm. -/
def wrappedKeyTag : String := "PRIVATE KEY"

/-- The contents of the first PEM block, which has to have the tag. -/
def decodePem (pem : Bytes) (tag : String) : Except ParseFault Bytes := do
  let block ← (Pem.read pem).mapError .pem
  if block.tag = tag then return block.contents else throw (.tag tag block.tag)

/-- The certificate that the bytes encode, or the given fault. -/
def readCertificate (fault : ParseFault) (der : Bytes) : Except ParseFault Certificate :=
  match Certificate.read? der with
  | some certificate => .ok certificate
  | none => .error fault

/-- The private key in the first PEM block, in either form. -/
def readKey (pem : Bytes) : Except ParseFault Rsa.PrivateKey := do
  let block ← (Pem.read pem).mapError .keyPem
  if block.tag = rsaKeyTag then
    match Rsa.PrivateKey.ofPkcs1? block.contents with
    | some key => return key
    | none => throw .pkcs1Key
  else if block.tag = wrappedKeyTag then
    match Rsa.PrivateKey.ofPkcs8? block.contents with
    | some key => return key
    | none => throw .pkcs8Key
  else throw (.keyTag block.tag)

end Material

/-- A certificate with its private key: the certificate's encoding, the key, and the PEM bytes of
both. -/
structure KeyPair where
  certDer : Bytes
  key : Rsa.PrivateKey
  certPem : Bytes
  keyPem : Bytes
deriving DecidableEq, Repr

/-- Loads a key pair. Certificate and key have to be readable each for itself; whether they belong
together is for validation to say. -/
def KeyPair.load (certPem keyPem : Bytes) : Except ParseFault KeyPair := do
  let certDer ← Material.decodePem certPem Material.certificateTag
  let _ ← Material.readCertificate .certificate certDer
  let key ← Material.readKey keyPem
  return { certDer, key, certPem, keyPem }

/-- The certificate of the pair. -/
def KeyPair.certificate (pair : KeyPair) : Except ParseFault Certificate :=
  Material.readCertificate .certificate pair.certDer

/-- What a pair shows of itself in diagnostics: a length and nothing secret. -/
def KeyPair.summary (pair : KeyPair) : String :=
  "KeyPairArtifacts \x7b cert_pem_len: " ++ Nat.repr pair.certPem.length ++ ", .. \x7d"

end WebhookTrust
