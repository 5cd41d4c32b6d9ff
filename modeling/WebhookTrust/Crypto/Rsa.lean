import WebhookTrust.Asn1.Der
import WebhookTrust.Crypto.Hash
import WebhookTrust.Crypto.Modular

/-!
# RSA

Keys, key generation from a seed, and the two signature formats in use: the deterministic one with a
digest in an encoded frame, and the one with a salted mask. Verification accepts exactly the frames
that signing writes.
-/

namespace WebhookTrust.Rsa

/-! ### Keys -/

/-- A public key. -/
structure PublicKey where
  modulus : Nat
  exponent : Nat
deriving DecidableEq, Repr

/-- A private key of two primes. -/
structure PrivateKey where
  modulus : Nat
  publicExponent : Nat
  privateExponent : Nat
  prime1 : Nat
  prime2 : Nat
deriving DecidableEq, Repr, Inhabited

/-- The public half of a key. -/
def PrivateKey.publicKey (key : PrivateKey) : PublicKey := ⟨key.modulus, key.publicExponent⟩

/-- How many bytes the modulus takes. -/
def PublicKey.size (key : PublicKey) : Nat := Bytes.byteLength key.modulus

/-! ### Generation -/

/-- The exponent of every generated public key. -/
def standardExponent : Nat := 65537

/-- `count` bytes that the seed determines. -/
def stream (seed : Bytes) (count : Nat) : Bytes :=
  ((List.range (count / 32 + 1)).flatMap fun i ↦
    Hash.sha256 (seed ++ Bytes.ofNatPadded 4 i)).take count

/-- The prime of `bits` binary digits that the seed determines; its two high bits are set, so that a
product of two has twice the digits. -/
def primeOf? (bits : Nat) (seed : Bytes) : Option Nat :=
  let start := (stream seed (bits / 8)).toNat
  let high := 3 * Nat.pow 2 (bits - 2)
  let candidate := start % Nat.pow 2 (bits - 2) / 2 * 2 + 1 + high
  (Modular.primeFrom? (8 * bits) candidate).filter fun p ↦
    Modular.bitLength p = bits && Nat.gcd (p - 1) standardExponent = 1

/-- The key of `bits` binary digits that the seed determines, unless no prime is found near where
the seed points. -/
def generate? (bits : Nat) (seed : Bytes) : Option PrivateKey := do
  let p ← primeOf? (bits / 2) (0 :: seed)
  let q ← primeOf? (bits / 2) (1 :: seed)
  if p = q then none
  else
    let order := (p - 1) * (q - 1) / Nat.gcd (p - 1) (q - 1)
    let d ← Modular.inverse? order standardExponent
    return ⟨p * q, standardExponent, d, p, q⟩

/-! ### Digests in frames -/

/-- The hash functions that signatures use. -/
inductive Digest where
  | sha1 | sha256 | sha384 | sha512
deriving DecidableEq, Repr

/-- The digest of a message. -/
def Digest.of : Digest → Bytes → Bytes
  | .sha1 => Hash.sha1
  | .sha256 => Hash.sha256
  | .sha384 => Hash.sha384
  | .sha512 => Hash.sha512

/-- The name of a hash function. -/
def Digest.oid : Digest → Oid
  | .sha1 => .ofArcs [1, 3, 14, 3, 2, 26]
  | .sha256 => .ofArcs [2, 16, 840, 1, 101, 3, 4, 2, 1]
  | .sha384 => .ofArcs [2, 16, 840, 1, 101, 3, 4, 2, 2]
  | .sha512 => .ofArcs [2, 16, 840, 1, 101, 3, 4, 2, 3]

/-- The frame that is signed: the digest with its hash function's name, behind as much padding as
fills `size` bytes. -/
def frame (digest : Digest) (size : Nat) (message : Bytes) : Bytes :=
  let info := Der.sequence
    [Der.sequence [Der.oid digest.oid, Der.null], Der.octetString (digest.of message)]
  0 :: 1 :: List.replicate (size - info.length - 3) 0xFF ++ 0 :: info

/-- Signs a message. -/
def sign (digest : Digest) (key : PrivateKey) (message : Bytes) : Bytes :=
  let size := key.publicKey.size
  Bytes.ofNatPadded size
    (Modular.pow key.modulus (frame digest size message).toNat key.privateExponent)

/-- The bytes that a signature was made from, if it has the size of the modulus and is below it. -/
def recover? (key : PublicKey) (signature : Bytes) : Option Bytes :=
  if signature.length = key.size ∧ signature.toNat < key.modulus then
    some (Bytes.ofNatPadded key.size (Modular.pow key.modulus signature.toNat key.exponent))
  else none

/-- Is it the signature of the message? -/
def verify (digest : Digest) (key : PublicKey) (message signature : Bytes) : Bool :=
  recover? key signature = some (frame digest key.size message)

/-! ### Masked frames -/

/-- `count` bytes of the mask that a seed generates. -/
def mask (digest : Digest) (seed : Bytes) (count : Nat) : Bytes :=
  ((List.range (count / (digest.of []).length + 1)).flatMap fun i ↦
    digest.of (seed ++ Bytes.ofNatPadded 4 i)).take count

/-- Is it a masked signature of the message, with a salt as long as the digest? -/
def verifyMasked (digest : Digest) (key : PublicKey) (message signature : Bytes) : Bool :=
  match recover? key signature with
  | none => false
  | some recovered =>
    let hashed := digest.of message
    let width := hashed.length
    let bits := Modular.bitLength key.modulus - 1
    let size := (bits + 7) / 8
    let encoded := recovered.drop (key.size - size)
    let spare := size * 8 - bits
    let masked := encoded.take (size - width - 1)
    let seed := (encoded.drop (size - width - 1)).take width
    let unmasked := List.zipWith (· ^^^ ·) masked (mask digest seed masked.length)
    let database := match unmasked with
      | [] => []
      | b :: rest => UInt8.ofNat (b.toNat % Nat.pow 2 (8 - spare)) :: rest
    let salt := database.drop (database.length - width)
    2 * width + 2 ≤ size && (recovered.take (key.size - size)).all (· = 0) &&
      encoded.getLast? = some 0xBC && (masked.headD 0).toNat < Nat.pow 2 (8 - spare) &&
      database.take (database.length - width) =
        (List.replicate (database.length - width - 1) 0 ++ [1] : Bytes) &&
      digest.of (List.replicate 8 (0 : UInt8) ++ hashed ++ salt) = seed

end WebhookTrust.Rsa
