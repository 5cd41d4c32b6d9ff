import WebhookTrust.Crypto.Rsa

/-!
# Private keys at rest

An RSA private key is stored as a sequence of nine numbers, plainly or wrapped with the name of the
algorithm. Both forms are read in canonical encoding only. The last three numbers follow from the
others and are not looked at; the others have to fit together.
-/

namespace WebhookTrust.Rsa.PrivateKey

/-! ### Checks -/

/-- The largest modulus that is read, in binary digits. -/
def maxBits : Nat := 4096

/-- Do the numbers make up a key: an odd modulus of bounded size that is the product of the primes,
an odd exponent below it and of at most 33 bits, and a private exponent that undoes the public one?
-/
def isConsistent (key : PrivateKey) : Bool :=
  Modular.bitLength key.modulus ≤ maxBits && key.modulus % 2 = 1 &&
    key.publicExponent < key.modulus && key.publicExponent % 2 = 1 && 2 ≤ key.publicExponent &&
    key.publicExponent < Nat.pow 2 33 && 1 < key.prime1 && 1 < key.prime2 &&
    key.prime1 * key.prime2 = key.modulus &&
    key.privateExponent * key.publicExponent % (key.prime1 - 1) = 1 % (key.prime1 - 1) &&
    key.privateExponent * key.publicExponent % (key.prime2 - 1) = 1 % (key.prime2 - 1)

/-- May the key sign? Its modulus has 2048 bits (counted in whole bytes) to 4096, its public
exponent is at least 65537, the primes have half as many bits, in units of 512, and the private
exponent is below the modulus and has more than half its bits. -/
def canSign (key : PrivateKey) : Bool :=
  let bits := Modular.bitLength key.modulus
  let half := (bits + 1) / 2
  2048 ≤ 8 * Bytes.byteLength key.modulus && bits ≤ maxBits &&
    standardExponent ≤ key.publicExponent && Modular.bitLength key.prime1 = half &&
    Modular.bitLength key.prime2 = half && half % 512 = 0 &&
    half < Modular.bitLength key.privateExponent && key.privateExponent < key.modulus

/-! ### Reading -/

/-- As many numbers as `count`, and what follows them. -/
def naturals? : Nat → Bytes → Option (List Nat × Bytes)
  | 0, bytes => some ([], bytes)
  | count + 1, bytes => do
    let (n, rest) ← Der.Strict.natural? bytes
    let (ns, rest) ← naturals? count rest
    return (n :: ns, rest)

/-- The contents of a sequence that makes up the bytes. -/
def sequence? (bytes : Bytes) : Option Bytes :=
  match Der.Strict.contents? 0x30 bytes with
  | some (contents, []) => some contents
  | _ => none

/-- The key that a plain sequence of numbers spells. -/
def ofPkcs1? (bytes : Bytes) : Option PrivateKey := do
  let contents ← sequence? bytes
  match naturals? 9 contents with
  | some ([0, n, e, d, p, q, _, _, _], []) =>
    let key : PrivateKey := ⟨n, e, d, p, q⟩
    if key.isConsistent then some key else none
  | _ => none

/-- The tag numbers of the context-specific fields that make up the bytes; `fuel` bounds how many
there are. -/
def fieldTags? : Nat → Bytes → Option (List Nat)
  | _, [] => some []
  | 0, _ => none
  | fuel + 1, b :: rest => do
    if b < 128 ∨ 191 < b ∨ b.toNat % 32 = 31 then none
    else
      let (_, rest) ← Der.Strict.contents? b (b :: rest)
      return b.toNat % 32 :: (← fieldTags? fuel rest)

/-- What an RSA key is wrapped with: the name of the algorithm and null parameters. -/
def algorithmBytes : Bytes := Der.oid (.ofArcs [1, 2, 840, 113549, 1, 1, 1]) ++ Der.null

/-- The key that a wrapped sequence of numbers spells. Further fields do not count, but a public key
among them goes with version one and only with it. -/
def ofPkcs8? (bytes : Bytes) : Option PrivateKey := do
  let contents ← sequence? bytes
  let (version, contents) ← Der.Strict.natural? contents
  let (algorithm, contents) ← Der.Strict.contents? 0x30 contents
  let (key, contents) ← Der.Strict.contents? 0x04 contents
  let tags ← fieldTags? contents.length contents
  if version ≤ 1 ∧ (version = 1 ↔ 1 ∈ tags) ∧ algorithm = algorithmBytes then ofPkcs1? key
  else none

/-! ### Writing -/

/-- The plain sequence of the nine numbers. -/
def toPkcs1 (key : PrivateKey) : Bytes :=
  Der.sequence <| [0, key.modulus, key.publicExponent, key.privateExponent, key.prime1, key.prime2,
    key.privateExponent % (key.prime1 - 1), key.privateExponent % (key.prime2 - 1),
    (Modular.inverse? key.prime1 key.prime2).getD 0].map Der.natural

end WebhookTrust.Rsa.PrivateKey
