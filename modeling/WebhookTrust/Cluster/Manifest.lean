import WebhookTrust.Cluster.Consumer
import WebhookTrust.Cluster.Secret
import WebhookTrust.Encoding.Base64

/-!
# Objects as JSON

The API server takes and gives objects as JSON. The entries of a Secret are encoded bytes. Of the
object of a consumer, everything but the types and the metadata stands at the top level.
-/

namespace WebhookTrust

/-! ### Secrets -/

namespace Secret

/-- The version of the API that Secrets belong to. -/
def apiVersion : String := "v1"

/-- The name of the kind of Secrets. -/
def kindName : String := "Secret"

/-- The fields that are carried through. -/
def otherFields : Metadata.FieldTable :=
  [("immutable", Metadata.readBool), ("stringData", Metadata.readTextMap)]

/-- The Secret as JSON, without what is absent. -/
def toJson (secret : Secret) : Json :=
  let encode := fun (name, value) ↦ (name, Json.string (Base64.encodeString value))
  .ofOptions <| [("apiVersion", some (.string apiVersion)), ("kind", some (.string kindName)),
    ("metadata", some secret.metadata.toJson),
    ("data", secret.entries.map fun entries ↦ .object (entries.map encode)),
    ("type", secret.type.map .string)] ++ secret.others.map fun (key, value) ↦ (key, some value)

/-- If the field is there, does it hold the text? -/
def agrees (json : Json) (key wanted : String) : Bool :=
  (json.get? key).all (· = .string wanted)

/-- The bytes of an entry. -/
def entryOf? (entry : String × Json) : Option (String × Bytes) := do
  let text ← entry.2.string?
  let value ← (Base64.decode (Utf8.ofString text)).toOption
  return (entry.1, value)

/-- The entries, or nothing for a missing or null value; anything else is refused. -/
def entries? (json : Json) : Option (Option (List (String × Bytes))) :=
  match json.field? "data" with
  | none => some none
  | some data => do
    let entries ← (← data.members?).mapM entryOf?
    return some entries

/-- The metadata; missing or null ones say nothing. -/
def metadata? (json : Json) : Option Metadata :=
  (json.field? "metadata").elim (some .empty) Metadata.ofJson?

/-- The Secret that JSON spells. -/
def ofJson? (json : Json) : Option Secret := do
  let _ ← json.members?
  if agrees json "apiVersion" apiVersion && agrees json "kind" kindName then
    return { metadata := ← metadata? json
             type := ← Metadata.text? json "type"
             entries := ← entries? json
             others := ← Metadata.carried? otherFields json }
  else none

end Secret

/-! ### Objects of consumers -/

namespace ConsumerObject

/-- The members of the types, if there are any. -/
def typeMembers (types : Option ObjectTypes) : List (String × Json) :=
  types.toList.flatMap fun types ↦
    [("apiVersion", .string types.apiVersion), ("kind", .string types.kind)]

/-- The object as JSON, unless its data are neither null nor an object. Data of the same name take
the place of types and metadata. -/
def toJson? (object : ConsumerObject) : Option Json :=
  let head := typeMembers object.types ++ [("metadata", object.metadata.toJson)]
  match object.data with
  | .null => some (.object head)
  | .object members =>
    some (.object (members.foldl (fun all (key, value) ↦ Assoc.put key value all) head))
  | _ => none

/-- The types that members spell, and the other members. Types count only together, and are dropped
if one of them is missing or malformed; what stands behind a malformed version is kept. -/
def splitTypes (members : List (String × Json)) : Option ObjectTypes × List (String × Json) :=
  let rest := Assoc.erase "kind" (Assoc.erase "apiVersion" members)
  match Assoc.get? "apiVersion" members, Assoc.get? "kind" members with
  | some (.string apiVersion), some (.string kind) => (some ⟨apiVersion, kind⟩, rest)
  | none, _ | some (.string _), _ => (none, rest)
  | some _, _ => (none, Assoc.erase "apiVersion" members)

/-- The object that JSON spells. -/
def ofJson? (json : Json) : Option ConsumerObject := do
  let members ← json.members?
  let metadata ← (json.get? "metadata").elim (some .empty) Metadata.ofJson?
  let (types, rest) := splitTypes (Assoc.erase "metadata" members)
  return { types, metadata, data := .object rest }

end ConsumerObject

end WebhookTrust
