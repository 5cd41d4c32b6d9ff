import WebhookTrust.X509.Extension
import WebhookTrust.X509.PublicKeyInfo
import WebhookTrust.X509.Validity

/-!
# Certificates

A certificate is a signed body: names of subject and issuer, a validity period, a public key and
extensions. The signature covers the body's octets, which are kept. Reading is lenient about what
stands behind the parts of a sequence and strict about the extensions, of which every octet has to
be accounted for.

* `Certificate.read?`: reads a certificate from its octets;
* `Certificate.isAuthority`, `Certificate.keyUsages?`, `Certificate.generalNames?`,
  `Certificate.purposes?`: what the four extensions say that decide about trust. An extension that
  is there twice, or cannot be read, is an error to those who ask for it, and to nobody else.

Unique identifiers and other extensions are passed over. Whether a signature verifies is not asked
when a certificate is read (`WebhookTrust.X509.Signature`).
-/

namespace WebhookTrust

/-- A certificate as read. -/
structure Certificate where
  /-- The octets that the signature covers. -/
  body : Bytes
  version : Nat
  serial : Bytes
  issuer : Name
  validity : Validity
  subject : Name
  /-- The octets of the subject. -/
  subjectBytes : Bytes
  publicKey : PublicKeyInfo
  extensions : List Extension
  signatureAlgorithm : AlgorithmId
  signature : Bytes
deriving DecidableEq, Repr

namespace Certificate

/-! ### Reading -/

/-- The octets of an item between two points of the input. -/
def between (bytes rest : Bytes) : Bytes := bytes.take (bytes.length - rest.length)

/-- A field that may be missing, marked by a context-specific tag. -/
def optionalField? {α : Type} (tag : Nat) (read : Bytes → Option α) (bytes : Bytes) :
    Option (Option α × Bytes) :=
  if bytes = [] then some (none, [])
  else do
    let (element, rest) ← Der.element? bytes
    if element.tag ≠ tag then some (none, bytes)
    else if element.tagClass ≠ .contextSpecific then none
    else (read element.contents).map fun value ↦ (some value, rest)

/-- A version number: an integer in shortest form without a sign. -/
def version? (bytes : Bytes) : Option Nat := do
  let (octets, _) ← PublicKeyInfo.integer? bytes
  if octets.headD 0 < 128 ∧ Bytes.toNat octets < Nat.pow 2 32 then some (Bytes.toNat octets)
  else none

/-- Are these the contents of a bit string? -/
def bits? (contents : Bytes) : Option Unit :=
  (Der.bitString? (Der.encode 0x03 contents)).map fun _ ↦ ()

/-- The extensions behind the other fields of a body; there may be none. -/
def extensions? (bytes : Bytes) : Option (List Extension) :=
  if bytes = [] then some []
  else do
    let ((element, _), rest) ← Der.header? bytes
    if element.tag ≠ 3 then none
    else
      match Der.contents? Der.sequenceTag rest with
      | some (contents, []) => Der.all? Extension.read? contents
      | _ => none

/-- The certificate that the bytes start with; what follows it does not count. -/
def read? (bytes : Bytes) : Option Certificate := do
  let (outer, _) ← Der.contents? Der.sequenceTag bytes
  let (contents, afterBody) ← Der.contents? Der.sequenceTag outer
  let body := between outer afterBody
  let (version, contents) ← optionalField? 0 version? contents
  let (serial, contents) ← Der.contents? Der.integerTag contents
  let (_, contents) ← AlgorithmId.read? contents
  let (issuer, contents) ← Name.read? contents
  let (validity, contents) ← Validity.read? contents
  let beforeSubject := contents
  let (subject, contents) ← Name.read? contents
  let subjectBytes := between beforeSubject contents
  let (publicKey, contents) ← PublicKeyInfo.read? contents
  let (_, contents) ← optionalField? 1 bits? contents
  let (_, contents) ← optionalField? 2 bits? contents
  let extensions ← extensions? contents
  let (signatureAlgorithm, afterAlgorithm) ← AlgorithmId.read? afterBody
  let (signature, _) ← Der.bitString? afterAlgorithm
  return { body, version := version.getD 0, serial, issuer, validity, subject, subjectBytes,
           publicKey, extensions, signatureAlgorithm, signature }

/-! ### Extensions -/

/-- The octet string of the extension with that name; none if it is missing, and an error if it
occurs twice. -/
def extension? (cert : Certificate) (name : Oid) : Except Unit (Option Bytes) :=
  match cert.extensions.filter (·.name = name) with
  | [] => .ok none
  | [extension] => .ok (some extension.value)
  | _ => .error ()

/-- What the extension with that name says; an error if it occurs twice or is malformed. -/
def extensionAs? {α : Type} (cert : Certificate) (name : Oid) (read : Bytes → Option α) :
    Except Unit (Option α) := do
  match ← cert.extension? name with
  | none => return none
  | some value =>
    match read value with
    | some meaning => return some meaning
    | none => throw ()

/-- Do the basic constraints call the subject an authority? Constraints that are missing, doubled or
malformed do not. -/
def isAuthority (cert : Certificate) : Bool :=
  match cert.extensionAs? Extension.basicConstraints Extension.isAuthority? with
  | .ok (some answer) => answer
  | _ => false

/-- The usages of the key, if they are given. -/
def keyUsages? (cert : Certificate) : Except Unit (Option Nat) :=
  cert.extensionAs? Extension.keyUsage Extension.usages?

/-- The alternative names of the subject, if they are given. -/
def generalNames? (cert : Certificate) : Except Unit (Option (List Extension.GeneralName)) :=
  cert.extensionAs? Extension.alternativeNames Extension.generalNames?

/-- The purposes of the key, if they are given. -/
def purposes? (cert : Certificate) : Except Unit (Option (List Oid)) :=
  cert.extensionAs? Extension.extendedKeyUsage Extension.purposes?

end Certificate

end WebhookTrust
