import WebhookTrust.Asn1.Der

/-!
# Public keys in certificates

A public key is carried as an algorithm with parameters and a bit string that only the algorithm can
interpret. Of an RSA key the two numbers are read as octets, with whatever leading octets they are
encoded with.
-/

namespace WebhookTrust

/-- An algorithm and its parameters. -/
structure AlgorithmId where
  name : Oid
  parameters : Option Der.Element
deriving DecidableEq, Repr

/-- A public key as a certificate carries it. -/
structure PublicKeyInfo where
  algorithm : AlgorithmId
  bits : Bytes
deriving DecidableEq, Repr

namespace AlgorithmId

/-- The name of RSA keys. -/
def rsa : Oid := .ofArcs [1, 2, 840, 113549, 1, 1, 1]

/-- The algorithm that the bytes start with: a sequence of a name and, if more follows, of
parameters. -/
def read? (bytes : Bytes) : Option (AlgorithmId × Bytes) := do
  let (contents, rest) ← Der.contents? Der.sequenceTag bytes
  let (name, contents) ← Der.oid? contents
  if contents = [] then return (⟨name, none⟩, rest)
  else
    let (parameters, _) ← Der.element? contents
    return (⟨name, some parameters⟩, rest)

end AlgorithmId

namespace PublicKeyInfo

/-- The key that the bytes start with. -/
def read? (bytes : Bytes) : Option (PublicKeyInfo × Bytes) := do
  let (contents, rest) ← Der.contents? Der.sequenceTag bytes
  let (algorithm, contents) ← AlgorithmId.read? contents
  let (bits, _) ← Der.bitString? contents
  return (⟨algorithm, bits⟩, rest)

/-! ### The numbers of an RSA key -/

/-- Modulus and exponent of an RSA key as octets, most significant first. -/
structure RsaNumbers where
  modulus : Bytes
  exponent : Bytes
deriving DecidableEq, Repr

/-- What a public key turns out to be. -/
inductive Parsed where
  | rsa (numbers : RsaNumbers)
  | other
deriving DecidableEq, Repr

/-- The octets of an integer in its shortest form. -/
def integer? (bytes : Bytes) : Option (Bytes × Bytes) := do
  let (element, rest) ← Der.element? bytes
  if element.tag = Der.integerTag ∧ !element.constructed ∧ Der.isShortest element.contents then
    some (element.contents, rest)
  else none

/-- The numbers of an RSA key: a sequence that starts with two integers. -/
def rsaNumbers? (bits : Bytes) : Option RsaNumbers := do
  let (contents, _) ← Der.contents? Der.sequenceTag bits
  let (modulus, contents) ← integer? contents
  let (exponent, _) ← integer? contents
  return ⟨modulus, exponent⟩

/-- The keys that are a single integer. -/
def integerKeys : List Oid := [.ofArcs [1, 2, 840, 10040, 4, 1]]

/-- The keys that are a single octet string. -/
def octetKeys : List Oid :=
  [.ofArcs [1, 2, 643, 2, 2, 19], .ofArcs [1, 2, 643, 7, 1, 1, 1, 1],
    .ofArcs [1, 2, 643, 7, 1, 1, 1, 2]]

/-- What the key is, unless its bits do not have the form that the algorithm gives them. -/
def parsed? (key : PublicKeyInfo) : Option Parsed :=
  if key.algorithm.name = AlgorithmId.rsa then (rsaNumbers? key.bits).map .rsa
  else if key.algorithm.name ∈ integerKeys then (integer? key.bits).map fun _ ↦ .other
  else if key.algorithm.name ∈ octetKeys then
    (Der.contents? Der.octetStringTag key.bits).map fun _ ↦ .other
  else some .other

end PublicKeyInfo

end WebhookTrust
