import WebhookTrust.Asn1.Oid

/-!
# Elements in distinguished encoding

An element is an identifier (class, form, tag number), a length and that many contents octets. The
reader takes definite lengths of any width and leaves it to the callers what class, form and tag
they insist on; what stands behind an element is handed back to them. The namespace `Der.Strict` has
readers of the canonical form only: one identifier octet and the shortest length.

The writer produces the canonical form. There are two readers since there are two in use:
certificates are read by the lenient one, and keys by the canonical one before anything is verified
or signed with them. That they agree is shown in `WebhookTrust.Proofs.Der`.
-/

namespace WebhookTrust.Der

/-! ### Elements -/

/-- The four classes of tags. -/
inductive TagClass where
  | universal | application | contextSpecific | privateUse
deriving DecidableEq, Repr

/-- The class that the two high bits of an identifier octet name. -/
def TagClass.ofOctet (b : UInt8) : TagClass :=
  if b < 64 then .universal
  else if b < 128 then .application
  else if b < 192 then .contextSpecific
  else .privateUse

/-- An element: its class, whether it is constructed, its tag number and its contents octets. -/
structure Element where
  tagClass : TagClass
  constructed : Bool
  tag : Nat
  contents : Bytes
deriving DecidableEq, Repr

/-! ### Tag numbers of the universal class -/

/-- The tag number of a boolean. -/
def booleanTag : Nat := 1
/-- The tag number of an integer. -/
def integerTag : Nat := 2
/-- The tag number of a bit string. -/
def bitStringTag : Nat := 3
/-- The tag number of an octet string. -/
def octetStringTag : Nat := 4
/-- The tag number of an object identifier. -/
def oidTag : Nat := 6
/-- The tag number of a UTF-8 string. -/
def utf8StringTag : Nat := 12
/-- The tag number of a sequence. -/
def sequenceTag : Nat := 16
/-- The tag number of a set. -/
def setTag : Nat := 17
/-- The tag number of a time with a year of two digits. -/
def utcTimeTag : Nat := 23
/-- The tag number of a time with a year of four digits. -/
def generalizedTimeTag : Nat := 24

/-! ### Reading -/

/-- A tag number in base 128, of at most `room` octets and modulo 2³². -/
def longTag? : Nat → Nat → Bytes → Option (Nat × Bytes)
  | 0, _, _ => none
  | _ + 1, _, [] => none
  | room + 1, acc, b :: rest =>
    let value := (acc * 128 + b.toNat % 128) % Nat.pow 2 32
    if b < 128 then some (value, rest) else longTag? room value rest

/-- A definite length of any width whose value fits 64 bits. -/
def length? : Bytes → Option (Nat × Bytes)
  | [] => none
  | b :: rest =>
    if b < 128 then some (b.toNat, rest)
    else if b = 128 ∨ b = 255 then none
    else
      let width := b.toNat - 128
      let value := Bytes.toNat (rest.take width)
      if rest.length < width ∨ Nat.pow 2 64 ≤ value then none else some (value, rest.drop width)

/-- The identifier and length in front of an element: the element with empty contents, and how many
contents octets follow. -/
def header? : Bytes → Option ((Element × Nat) × Bytes)
  | [] => none
  | b :: rest => do
    let (tag, rest) ← if b.toNat % 32 = 31 then longTag? 5 0 rest else some (b.toNat % 32, rest)
    let (length, rest) ← length? rest
    return ((⟨TagClass.ofOctet b, b.toNat / 32 % 2 = 1, tag, []⟩, length), rest)

/-- The element that the bytes start with, and what follows it. The mark that ends contents of
indefinite length is no element. -/
def element? (bytes : Bytes) : Option (Element × Bytes) := do
  let ((element, length), rest) ← header? bytes
  if rest.length < length then none
  else if element.tag = 0 ∧ element.tagClass = .universal ∧ length = 0 then none
  else some ({ element with contents := rest.take length }, rest.drop length)

/-- The contents of the element that the bytes start with, if it has that tag number, and what
follows it. -/
def contents? (tag : Nat) (bytes : Bytes) : Option (Bytes × Bytes) := do
  let (element, rest) ← element? bytes
  if element.tag = tag then some (element.contents, rest) else none

/-- The items that `read` finds one after another, until it fails or `fuel` runs out, and what is
left. -/
def manyFrom {α : Type} (read : Bytes → Option (α × Bytes)) : Nat → Bytes → List α × Bytes
  | 0, bytes => ([], bytes)
  | fuel + 1, bytes =>
    match read bytes with
    | none => ([], bytes)
    | some (item, rest) =>
      let (items, rest) := manyFrom read fuel rest
      (item :: items, rest)

/-- The items that `read`, which takes at least one byte each time, finds one after another until it
fails, and what is left. -/
def many {α : Type} (read : Bytes → Option (α × Bytes)) (bytes : Bytes) : List α × Bytes :=
  manyFrom read bytes.length bytes

/-- The items that `read` finds one after another, if they are all of the bytes. -/
def all? {α : Type} (read : Bytes → Option (α × Bytes)) (bytes : Bytes) : Option (List α) :=
  match many read bytes with
  | (items, []) => some items
  | (_, _ :: _) => none

/-- The elements that make up the bytes. -/
def elements? (bytes : Bytes) : Option (List Element) := all? element? bytes

/-- The element that makes up the bytes. -/
def whole? (bytes : Bytes) : Option Element :=
  match element? bytes with
  | some (element, []) => some element
  | _ => none

/-! ### Values -/

/-- An object identifier: a primitive element, whatever its tag. -/
def oid? (bytes : Bytes) : Option (Oid × Bytes) := do
  let (element, rest) ← element? bytes
  if element.constructed then none else some (⟨element.contents⟩, rest)

/-- How many of the low bits of a byte are zero. -/
def trailingZeros (b : UInt8) : Nat :=
  ((List.range 8).find? fun i ↦ b.toNat.testBit i).getD 8

/-- The octets of a bit string whose unused bits are zero. -/
def bitString? (bytes : Bytes) : Option (Bytes × Bytes) := do
  let (element, rest) ← element? bytes
  if element.constructed ∨ element.tag ≠ bitStringTag then none
  else
    match element.contents with
    | [] => none
    | unused :: octets =>
      match octets.getLast? with
      | none => if unused = 0 then some ([], rest) else none
      | some last => if unused.toNat ≤ trailingZeros last then some (octets, rest) else none

/-- Do the octets spell an integer in the shortest form? -/
def isShortest : Bytes → Bool
  | [] => false
  | [_] => true
  | a :: b :: _ => !(a = 0 && b < 128) && !(a = 255 && 128 ≤ b)

/-! ### The canonical form -/

/-- The length in its shortest form, of at most four octets. -/
def Strict.length? : Bytes → Option (Nat × Bytes)
  | [] => none
  | b :: rest =>
    if b < 128 then some (b.toNat, rest)
    else
      let width := b.toNat - 128
      let octets := rest.take width
      if width = 0 ∨ 4 < width ∨ rest.length < width then none
      else if octets.head? = some 0 ∨ Bytes.toNat octets < 128 then none
      else some (Bytes.toNat octets, rest.drop width)

/-- The contents of the element with this identifier octet that the bytes start with, and what
follows it. -/
def Strict.contents? (identifier : UInt8) : Bytes → Option (Bytes × Bytes)
  | [] => none
  | b :: rest => do
    if b ≠ identifier then none
    else
      let (length, rest) ← Strict.length? rest
      if rest.length < length then none else some (rest.take length, rest.drop length)

/-- A natural number in the shortest form. -/
def Strict.natural? (bytes : Bytes) : Option (Nat × Bytes) := do
  let (octets, rest) ← Strict.contents? 0x02 bytes
  if isShortest octets ∧ octets.headD 255 < 128 then some (Bytes.toNat octets, rest) else none

/-! ### Writing -/

/-- The length octets of contents of that length, in the shortest form. -/
def lengthOctets (length : Nat) : Bytes :=
  if length < 128 then [UInt8.ofNat length]
  else UInt8.ofNat (128 + Bytes.byteLength length) :: Bytes.ofNat length

/-- The element with this identifier octet and these contents. -/
def encode (identifier : UInt8) (contents : Bytes) : Bytes :=
  identifier :: lengthOctets contents.length ++ contents

/-- A sequence of parts. -/
def sequence (parts : List Bytes) : Bytes := encode 0x30 parts.flatten

/-- A set of parts. -/
def set (parts : List Bytes) : Bytes := encode 0x31 parts.flatten

/-- Natural numbers get a zero octet in front where the sign bit would be set. -/
def naturalOctets (n : Nat) : Bytes :=
  match Bytes.ofNat n with
  | [] => [0]
  | b :: rest => if b < 128 then b :: rest else 0 :: b :: rest

/-- A natural number. -/
def natural (n : Nat) : Bytes := encode 0x02 (naturalOctets n)

/-- A boolean. -/
def boolean (b : Bool) : Bytes := encode 0x01 [if b then 0xFF else 0]

/-- A bit string of whole octets. -/
def bitString (octets : Bytes) : Bytes := encode 0x03 (0 :: octets)

/-- An octet string. -/
def octetString (octets : Bytes) : Bytes := encode 0x04 octets

/-- The null value. -/
def null : Bytes := [0x05, 0x00]

/-- An object identifier. -/
def oid (oid : Oid) : Bytes := encode 0x06 oid.contents

end WebhookTrust.Der
