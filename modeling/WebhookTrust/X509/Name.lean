import WebhookTrust.Asn1.Der
import WebhookTrust.Text.Utf8

/-!
# Distinguished names

A distinguished name is a list of relative names, each a set of attributes with a type and a tagged
value. Reading keeps the values as they are encoded; two names are the same when types, tags and
octets are.

The printed form joins relative names by commas and the attributes of one by plus signs. It is meant
for people and for comparing issuer and subject: it shows the characters of string values and no
quoting.
-/

namespace WebhookTrust

/-- An attribute of a relative name: its type, and the tag and contents of its value. -/
structure Attribute where
  kind : Oid
  tag : Nat
  value : Bytes
deriving DecidableEq, Repr

/-- A distinguished name: its relative names, each with its attributes. -/
structure Name where
  parts : List (List Attribute)
deriving DecidableEq, Repr, Inhabited

namespace Name

/-! ### Attribute types -/

/-- The type of common names. -/
def commonName : Oid := .ofArcs [2, 5, 4, 3]

/-- The type of organization names. -/
def organization : Oid := .ofArcs [2, 5, 4, 10]

/-- The attribute types that print under a name of their own. -/
def kindNames : List (Oid × String) := [
  (commonName, "CN"), (.ofArcs [2, 5, 4, 6], "C"), (.ofArcs [2, 5, 4, 7], "L"),
  (.ofArcs [2, 5, 4, 8], "ST"), (organization, "O"), (.ofArcs [2, 5, 4, 11], "OU"),
  (.ofArcs [0, 9, 2342, 19200300, 100, 1, 25], "DC"),
  (.ofArcs [1, 2, 840, 113549, 1, 9, 1], "Email"),
  (.ofArcs [0, 9, 2342, 19200300, 100, 1, 1], "uid"),
  (.ofArcs [2, 5, 4, 0], "objectClass"), (.ofArcs [2, 5, 4, 1], "aliasedEntryName"),
  (.ofArcs [2, 5, 4, 2], "knowledgeInformation"), (.ofArcs [2, 5, 4, 4], "surname"),
  (.ofArcs [2, 5, 4, 5], "serialNumber"), (.ofArcs [2, 5, 4, 9], "streetAddress"),
  (.ofArcs [2, 5, 4, 12], "title"), (.ofArcs [2, 5, 4, 13], "description"),
  (.ofArcs [2, 5, 4, 14], "searchGuide"), (.ofArcs [2, 5, 4, 15], "businessCategory"),
  (.ofArcs [2, 5, 4, 16], "postalAddress"), (.ofArcs [2, 5, 4, 17], "postalCode"),
  (.ofArcs [2, 5, 4, 41], "name"), (.ofArcs [2, 5, 4, 42], "givenName"),
  (.ofArcs [2, 5, 4, 43], "initials"), (.ofArcs [2, 5, 4, 44], "generationQualifier"),
  (.ofArcs [2, 5, 4, 45], "uniqueIdentifier"), (.ofArcs [2, 5, 4, 46], "dnQualifier")]

/-- The printed form of an attribute type. -/
def kindText (kind : Oid) : String :=
  match kindNames.lookup kind with
  | some name => name
  | none => "OID(" ++ kind.dotted ++ ")"

/-! ### Reading -/

/-- An attribute: a sequence of a type and a value; what follows them does not count. -/
def attribute? (bytes : Bytes) : Option (Attribute × Bytes) := do
  let (pair, rest) ← Der.contents? Der.sequenceTag bytes
  let (kind, pair) ← Der.oid? pair
  let (value, _) ← Der.element? pair
  return (⟨kind, value.tag, value.contents⟩, rest)

/-- A relative name: a set that starts with at least one attribute. -/
def part? (bytes : Bytes) : Option (List Attribute × Bytes) := do
  let (members, rest) ← Der.contents? Der.setTag bytes
  match (Der.many attribute? members).1 with
  | [] => none
  | attributes => some (attributes, rest)

/-- A name: a sequence of relative names, read as far as it holds such. -/
def read? (bytes : Bytes) : Option (Name × Bytes) := do
  let (parts, rest) ← Der.contents? Der.sequenceTag bytes
  return (⟨(Der.many part? parts).1⟩, rest)

/-! ### Printing -/

/-- The tags of string values whose octets print as UTF-8: UTF-8, numeric, printable, teletex,
videotex, ASCII, graphic, visible and general strings and object descriptors. -/
def utf8Tags : List Nat := [12, 18, 19, 20, 21, 22, 25, 26, 27, 7]

/-- The tag of strings in units of two octets. -/
def bmpStringTag : Nat := 30

/-- The two-octet units of a string; an odd octet at the end is a unit of its own. -/
def units : Bytes → List Nat
  | [] => []
  | [a] => [a.toNat]
  | a :: b :: rest => (a.toNat * 256 + b.toNat) :: units rest

/-- The characters of two-octet units, of which two may stand for one. -/
def unitChars? : List Nat → Option (List Char)
  | [] => some []
  | high :: rest =>
    if 0xDC00 ≤ high ∧ high < 0xE000 then none
    else if 0xD800 ≤ high ∧ high < 0xDC00 then
      match rest with
      | low :: rest =>
        if 0xDC00 ≤ low ∧ low < 0xE000 then
          (unitChars? rest).map
            (Char.ofNat (0x10000 + (high - 0xD800) * 0x400 + (low - 0xDC00)) :: ·)
        else none
      | [] => none
    else (unitChars? rest).map (Char.ofNat high :: ·)

/-- The printed form of an attribute's value: the characters of a string, if its octets spell some,
and the octets in hexadecimal otherwise. -/
def valueText? (item : Attribute) : Option String :=
  if item.tag ∈ utf8Tags then Utf8.toString? item.value
  else if item.tag = bmpStringTag then (unitChars? (units item.value)).map String.ofList
  else some (Bytes.hexUpper item.value)

/-- The printed form of an attribute. -/
def attributeText? (item : Attribute) : Option String :=
  (valueText? item).map fun text ↦ kindText item.kind ++ "=" ++ text

/-- The printed form of a relative name. -/
def partText? (attributes : List Attribute) : Option String :=
  (attributes.mapM attributeText?).map (" + ".intercalate ·)

/-- The printed form of a name, if all of its string values spell characters. -/
def text? (name : Name) : Option String := (name.parts.mapM partText?).map (", ".intercalate ·)

/-- The printed form of a name, or a remark that it has none. -/
def text (name : Name) : String := name.text?.getD "<X509Error: Invalid X.509 name>"

end Name

end WebhookTrust
