import WebhookTrust.X509.Name

/-!
# Certificate extensions

An extension has a name, a mark whether it is critical, and an octet string. The octet strings of
the four extensions that decide about trust are read here: basic constraints, key usage, alternative
names and extended key usage.
-/

namespace WebhookTrust

/-- An extension as a certificate carries it. -/
structure Extension where
  name : Oid
  critical : Bool
  value : Bytes
deriving DecidableEq, Repr

namespace Extension

/-! ### Names -/

/-- The name of the subject's key identifier. -/
def subjectKeyId : Oid := .ofArcs [2, 5, 29, 14]
/-- The name of key usage. -/
def keyUsage : Oid := .ofArcs [2, 5, 29, 15]
/-- The name of alternative names. -/
def alternativeNames : Oid := .ofArcs [2, 5, 29, 17]
/-- The name of basic constraints. -/
def basicConstraints : Oid := .ofArcs [2, 5, 29, 19]
/-- The name of extended key usage. -/
def extendedKeyUsage : Oid := .ofArcs [2, 5, 29, 37]

/-! ### Reading an extension -/

/-- A boolean; every octet but zero is true. -/
def boolean? (bytes : Bytes) : Option (Bool × Bytes) := do
  let (element, rest) ← Der.element? bytes
  match element.contents with
  | [b] => if element.tag = Der.booleanTag then some (b ≠ 0, rest) else none
  | _ => none

/-- The extension that the bytes start with. -/
def read? (bytes : Bytes) : Option (Extension × Bytes) := do
  let (contents, rest) ← Der.contents? Der.sequenceTag bytes
  let (name, contents) ← Der.oid? contents
  let (critical, contents) := (boolean? contents).getD (false, contents)
  let (value, _) ← Der.element? contents
  if value.tag = Der.octetStringTag ∧ !value.constructed then
    some (⟨name, critical, value.contents⟩, rest)
  else none

/-! ### Basic constraints -/

/-- Is the element a path length: an integer that fits 32 bits without a sign? -/
def isPathLength (element : Der.Element) : Bool :=
  element.tag = Der.integerTag && !element.contents.isEmpty &&
    element.contents.headD 0 < 128 && Bytes.toNat element.contents < Nat.pow 2 32

/-- The truth value of a boolean element. -/
def truth? (element : Der.Element) : Option Bool :=
  match element.contents with
  | [b] => if element.tag = Der.booleanTag then some (b ≠ 0) else none
  | _ => none

/-- Does the value of basic constraints call the subject an authority? None if it is malformed. -/
def isAuthority? (value : Bytes) : Option Bool := do
  let (contents, _) ← Der.contents? Der.sequenceTag value
  match ← Der.elements? contents with
  | [] => some false
  | [element] =>
    match truth? element with
    | some answer => some answer
    | none => if isPathLength element then some false else none
  | [first, second] => if isPathLength second then truth? first else none
  | _ => none

/-! ### Key usage -/

/-- A byte with its bits in reverse order. -/
def reverseBits (b : UInt8) : Nat :=
  (List.range 8).foldl (fun acc i ↦ acc * 2 + (b.toNat.testBit i).toNat) 0

/-- The usages of a key as a number whose bit `i` stands for usage `i`. None if malformed. -/
def usages? (value : Bytes) : Option Nat := do
  let (element, _) ← Der.element? value
  match element.contents with
  | [] => none
  | unused :: octets =>
    let spare := (octets.getLast?.getD 0).toNat % Nat.pow 2 unused.toNat
    if element.tag ≠ Der.bitStringTag ∨ element.constructed ∨ 7 < unused ∨ spare ≠ 0 then none
    else some (reverseBits (octets.getD 0 0) + 256 * reverseBits (octets.getD 1 0))

/-- The usage of signing data. -/
def digitalSignature : Nat := 0

/-- The usage of encrypting keys. -/
def keyEncipherment : Nat := 2

/-- The usage of signing certificates. -/
def certSign : Nat := 5

/-! ### Alternative names -/

/-- An alternative name; all that matters of one that is no DNS name is that it is none. -/
inductive GeneralName where
  | dns (name : String)
  | other
deriving DecidableEq, Repr

/-- The alternative name that an element of context-specific tag is. -/
def GeneralName.ofElement? (element : Der.Element) : Option GeneralName :=
  if element.tagClass ≠ .contextSpecific then none
  else
    match element.tag with
    | 0 => (Der.oid? element.contents).map fun _ ↦ .other
    | 1 => (Utf8.toString? element.contents).map fun _ ↦ .other
    | 2 => (Utf8.toString? element.contents).map .dns
    | 4 =>
      match Name.read? element.contents with
      | some (_, []) => some .other
      | _ => none
    | 6 => (Utf8.toString? element.contents).map fun _ ↦ .other
    | 3 | 5 | 7 | 8 => some .other
    | _ => none

/-- The alternative names of a subject. None if one is malformed. -/
def generalNames? (value : Bytes) : Option (List GeneralName) := do
  let (contents, _) ← Der.contents? Der.sequenceTag value
  (← Der.elements? contents).mapM GeneralName.ofElement?

/-! ### Extended key usage -/

/-- The purpose of authenticating a server. -/
def serverAuth : Oid := .ofArcs [1, 3, 6, 1, 5, 5, 7, 3, 1]
/-- The purpose of authenticating a client. -/
def clientAuth : Oid := .ofArcs [1, 3, 6, 1, 5, 5, 7, 3, 2]
/-- The purpose that stands for all purposes. -/
def anyPurpose : Oid := .ofArcs [2, 5, 29, 37, 0]

/-- The purposes of a key. None if malformed. -/
def purposes? (value : Bytes) : Option (List Oid) := do
  let (contents, _) ← Der.contents? Der.sequenceTag value
  Der.all? Der.oid? contents

end Extension

end WebhookTrust
