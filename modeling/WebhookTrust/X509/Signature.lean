import WebhookTrust.Crypto.EllipticCurve
import WebhookTrust.Crypto.Rsa
import WebhookTrust.X509.Certificate

/-!
# Signatures of certificates

Which scheme a signature algorithm names, and whether a signature is one under a public key. What
validation and issuing need of all this is a `SignatureScheme`, a pair of functions that sign and
verify; everything about trust is said about an arbitrary one, or about the standard one with keys
that are fit to sign.

The methods are RSA with the frame of a digest and with a mask, two curves in Weierstrass form, and
the twisted Edwards curve (`Signature.Method`). Each is chosen by the algorithm of the signature and
the kind of the key together, and an RSA key is read anew for it, canonically. Signing is done with
RSA and SHA-256 alone.
-/

namespace WebhookTrust

/-- Why a signature does not count. -/
inductive SignatureFault where
  /-- The algorithm is none that is supported, or not with this key. -/
  | unsupported
  /-- It is not a signature of the message under the key. -/
  | mismatch
deriving DecidableEq, Repr

/-- The fault in words. -/
def SignatureFault.message : SignatureFault → String
  | .unsupported => "signature unsupported algorithm"
  | .mismatch => "signature verification error"

/-- How to sign with a key and verify with a public key. -/
structure SignatureScheme where
  /-- The signature of a message under a private key. -/
  sign : Rsa.PrivateKey → Bytes → Bytes
  /-- Checks a signature of a message: key, algorithm, message and signature. -/
  verify : PublicKeyInfo → AlgorithmId → Bytes → Bytes → Except SignatureFault Unit

namespace Signature

/-! ### Algorithms -/

/-- A way to verify. -/
inductive Method where
  /-- RSA with a framed digest, for keys of at least so many bits. -/
  | rsa (digest : Rsa.Digest) (minimum : Nat)
  /-- RSA with a salted mask. -/
  | rsaMasked (digest : Rsa.Digest)
  /-- A pair of numbers for a point of a curve. -/
  | onCurve (group : Curve) (digest : Rsa.Digest)
  /-- A point and a number for a point of the Edwards curve. -/
  | edwards

/-- The name of RSA signatures with a framed SHA-256 digest. -/
def sha256WithRsa : Oid := .ofArcs [1, 2, 840, 113549, 1, 1, 11]

/-- The hash function that the parameters of a masked signature name: a sequence of up to four
tagged fields, of which the first names it. -/
def maskedDigest? (parameters : Der.Element) : Option Rsa.Digest := do
  if parameters.tag ≠ Der.sequenceTag then none
  else
    let algorithm? := fun bytes ↦ (AlgorithmId.read? bytes).map (·.1)
    let (hash, rest) ← Certificate.optionalField? 0 algorithm? parameters.contents
    let (_, rest) ← Certificate.optionalField? 1 algorithm? rest
    let (_, rest) ← Certificate.optionalField? 2 Certificate.version? rest
    let _ ← Certificate.optionalField? 3 Certificate.version? rest
    let hash ← hash
    [Rsa.Digest.sha256, .sha384, .sha512].find? (·.oid = hash.name)

/-- The curve that the parameters of a key name. -/
def curveOf? (key : PublicKeyInfo) : Option Curve := do
  let parameters ← key.algorithm.parameters
  if parameters.tag ≠ Der.oidTag then none
  else if parameters.contents = (Oid.ofArcs [1, 2, 840, 10045, 3, 1, 7]).contents then
    some Curve.p256
  else if parameters.contents = (Oid.ofArcs [1, 3, 132, 0, 34]).contents then some Curve.p384
  else none

/-- The method that an algorithm and a key call for. -/
def Method.of? (key : PublicKeyInfo) (algorithm : AlgorithmId) : Option Method :=
  let name := algorithm.name
  if name = .ofArcs [1, 2, 840, 113549, 1, 1, 5] ∨ name = .ofArcs [1, 3, 14, 3, 2, 29] then
    some (.rsa .sha1 1024)
  else if name = sha256WithRsa then some (.rsa .sha256 2048)
  else if name = .ofArcs [1, 2, 840, 113549, 1, 1, 12] then some (.rsa .sha384 2048)
  else if name = .ofArcs [1, 2, 840, 113549, 1, 1, 13] then some (.rsa .sha512 2048)
  else if name = .ofArcs [1, 2, 840, 113549, 1, 1, 10] then
    (algorithm.parameters.bind maskedDigest?).map .rsaMasked
  else if name = .ofArcs [1, 2, 840, 10045, 4, 3, 2] then (curveOf? key).map (.onCurve · .sha256)
  else if name = .ofArcs [1, 2, 840, 10045, 4, 3, 3] then (curveOf? key).map (.onCurve · .sha384)
  else if name = .ofArcs [1, 3, 101, 112] then some .edwards
  else none

/-! ### Verification -/

/-- The RSA key that bits spell in canonical form, if its modulus is odd and of `minimum` bits
(counted in whole bytes) to 8192, and its exponent odd and of two to 33 bits. -/
def rsaKey? (minimum : Nat) (bits : Bytes) : Option Rsa.PublicKey := do
  let (contents, rest) ← Der.Strict.contents? 0x30 bits
  let (modulus, contents) ← Der.Strict.natural? contents
  let (exponent, contents) ← Der.Strict.natural? contents
  if rest = [] ∧ contents = [] ∧ modulus % 2 = 1 ∧ exponent % 2 = 1 ∧
      minimum ≤ 8 * Bytes.byteLength modulus ∧ Modular.bitLength modulus ≤ 8192 ∧
      3 ≤ exponent ∧ exponent < Nat.pow 2 33 then
    some ⟨modulus, exponent⟩
  else none

/-- Does the method accept the signature? -/
def Method.accepts (bits message signature : Bytes) : Method → Bool
  | .rsa digest minimum =>
    (rsaKey? minimum bits).any fun key ↦ Rsa.verify digest key message signature
  | .rsaMasked digest =>
    (rsaKey? 2048 bits).any fun key ↦ Rsa.verifyMasked digest key message signature
  | .onCurve group digest => group.verify bits (digest.of message) signature
  | .edwards => Edwards.verify bits message signature

/-- Checks a signature of a message. -/
def verify (key : PublicKeyInfo) (algorithm : AlgorithmId) (message signature : Bytes) :
    Except SignatureFault Unit :=
  match Method.of? key algorithm with
  | none => .error .unsupported
  | some method =>
    if method.accepts key.bits message signature then .ok () else .error .mismatch

/-- The scheme of the standards, which signs by RSA with a framed SHA-256 digest. -/
def standard : SignatureScheme where
  sign := Rsa.sign .sha256
  verify := verify

end Signature

/-- Does the public key verify the signature of the certificate? -/
def Certificate.verifySignature (scheme : SignatureScheme) (cert : Certificate)
    (key : PublicKeyInfo) : Except SignatureFault Unit :=
  scheme.verify key cert.signatureAlgorithm cert.body cert.signature

end WebhookTrust
