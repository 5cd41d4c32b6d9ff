import WebhookTrust.Calendar
import WebhookTrust.Json.Basic

/-!
# Object metadata

Every object of a cluster carries metadata: where it lives, its version, and whether it is being
deleted. What else the API server keeps there is carried through, as far as the API knows it.
-/

namespace WebhookTrust

/-! ### Times in JSON -/

namespace Timestamp

/-- The text of a time in whole seconds since 1970: date, the letter T, time of day and the letter
Z. -/
def text (seconds : Int) : String :=
  let t := Calendar.DateTime.ofSeconds seconds
  let two := Calendar.padded 2
  Calendar.padded 4 t.year.toNat ++ "-" ++ two t.month ++ "-" ++ two t.day ++ "T" ++ two t.hour ++
    ":" ++ two t.minute ++ ":" ++ two t.second ++ "Z"

/-- A number of `count` decimal digits. -/
def digits? : Nat → Nat → List Char → Option (Nat × List Char)
  | 0, acc, rest => some (acc, rest)
  | _ + 1, _, [] => none
  | count + 1, acc, c :: rest =>
    if c.isDigit then digits? count (acc * 10 + (c.toNat - '0'.toNat)) rest else none

/-- The characters behind a given one. -/
def expect? (wanted : List Char) : List Char → Option (List Char)
  | c :: rest => if c ∈ wanted then some rest else none
  | [] => none

/-- A fraction of a second, if there is one, does not count. -/
def skipFraction? : List Char → Option (List Char)
  | '.' :: rest =>
    match rest.takeWhile Char.isDigit with
    | [] => none
    | _ => some (rest.dropWhile Char.isDigit)
  | rest => some rest

/-- The seconds that a zone is ahead of universal time. -/
def offset? : List Char → Option Int
  | ['Z'] | ['z'] => some 0
  | sign :: rest => do
    let (hours, rest) ← digits? 2 0 rest
    let rest ← expect? [':'] rest
    let (minutes, rest) ← digits? 2 0 rest
    let seconds : Int := hours * 3600 + minutes * 60
    if rest ≠ [] ∨ 23 < hours ∨ 59 < minutes then none
    else if sign = '+' then some seconds
    else if sign = '-' then some (-seconds)
    else none
  | [] => none

/-- The time in whole seconds since 1970 that a text spells. -/
def parse? (text : String) : Option Int := do
  let (year, rest) ← digits? 4 0 text.toList
  let rest ← expect? ['-'] rest
  let (month, rest) ← digits? 2 0 rest
  let rest ← expect? ['-'] rest
  let (day, rest) ← digits? 2 0 rest
  let rest ← expect? ['T', 't', ' '] rest
  let (hour, rest) ← digits? 2 0 rest
  let rest ← expect? [':'] rest
  let (minute, rest) ← digits? 2 0 rest
  let rest ← expect? [':'] rest
  let (second, rest) ← digits? 2 0 rest
  let offset ← offset? (← skipFraction? rest)
  let time : Calendar.DateTime := ⟨year, month, day, hour, minute, second⟩
  if time.isValid then some (time.seconds - offset) else none

end Timestamp

/-! ### Metadata -/

/-- The metadata of an object. -/
structure Metadata where
  name : Option String
  nameSpace : Option String
  generateName : Option String
  resourceVersion : Option String
  /-- When the object was marked for deletion, in seconds since 1970. -/
  deletionTimestamp : Option Int
  /-- What else there is. -/
  others : List (String × Json)
deriving DecidableEq, Repr, Inhabited

namespace Metadata

/-- Metadata that say nothing. -/
def empty : Metadata := ⟨none, none, none, none, none, []⟩

/-- Is the object marked for deletion? -/
def isDeleting (metadata : Metadata) : Bool := metadata.deletionTimestamp.isSome

/-- The name that an object goes by: its name, else the stem of a name to be generated. -/
def displayName (metadata : Metadata) : String :=
  (metadata.name.or metadata.generateName).getD ""

/-! ### As JSON -/

/-- The metadata as JSON, without what is absent. -/
def toJson (metadata : Metadata) : Json :=
  .ofOptions <| [("name", metadata.name.map .string), ("namespace", metadata.nameSpace.map .string),
    ("generateName", metadata.generateName.map .string),
    ("resourceVersion", metadata.resourceVersion.map .string),
    ("deletionTimestamp", metadata.deletionTimestamp.map fun t ↦ .string (Timestamp.text t))] ++
    metadata.others.map fun (key, value) ↦ (key, some value)

/-- A text, or nothing for a missing or null value; anything else is refused. -/
def text? (json : Json) (key : String) : Option (Option String) :=
  match json.field? key with
  | none => some none
  | some (.string text) => some (some text)
  | some _ => none

/-- A time, likewise. -/
def time? (json : Json) (key : String) : Option (Option Int) :=
  match json.field? key with
  | none => some none
  | some (.string text) => (Timestamp.parse? text).map some
  | some _ => none

/-- How the values of some fields are read: into a normal form, if they have the right type. -/
abbrev FieldTable : Type := List (String × (Json → Option Json))

/-- The value, if it passes a test. -/
def only (test : Json → Bool) (json : Json) : Option Json := if test json then some json else none

/-- A text. -/
def readText : Json → Option Json := only (·.string?.isSome)

/-- A whole number. -/
def readInt : Json → Option Json := only (·.int?.isSome)

/-- A truth value. -/
def readBool : Json → Option Json := only (·.bool?.isSome)

/-- An object of texts. -/
def readTextMap : Json → Option Json :=
  only (·.members?.any fun members ↦ members.all fun member ↦ member.2.string?.isSome)

/-- A time, written anew. -/
def readTime (json : Json) : Option Json :=
  (json.string?.bind Timestamp.parse?).map fun seconds ↦ .string (Timestamp.text seconds)

/-- An array whose items are read in one way. -/
def readArray (read : Json → Option Json) (json : Json) : Option Json :=
  (json.array?.bind (·.mapM read)).map .array

/-- The fields of a table that JSON has, or nothing if the value of one cannot be read. -/
def carried? (table : FieldTable) (json : Json) : Option (List (String × Json)) :=
  table.foldrM (fun (key, read) found ↦
    match json.field? key with
    | none => some found
    | some value => (read value).map fun value ↦ (key, value) :: found) []

/-- An object with the fields of a table, in which texts are empty rather than missing. -/
def readRecord (texts : List String) (table : FieldTable) (json : Json) : Option Json := do
  let _ ← json.members?
  let found ← carried? (texts.map (·, readText) ++ table) json
  return .object (texts.foldl (fun all key ↦
    if (Assoc.get? key all).isSome then all else Assoc.put key (.string "") all) found)

/-- Who changed which fields, and when. -/
def readManagedFields : Json → Option Json := readRecord [] [
  ("apiVersion", readText), ("fieldsType", readText), ("fieldsV1", some), ("manager", readText),
  ("operation", readText), ("subresource", readText), ("time", readTime)]

/-- What the object belongs to. -/
def readOwner : Json → Option Json := readRecord ["apiVersion", "kind", "name", "uid"]
  [("blockOwnerDeletion", readBool), ("controller", readBool)]

/-- The fields that are carried through. -/
def otherFields : FieldTable := [
  ("annotations", readTextMap), ("labels", readTextMap), ("creationTimestamp", readTime),
  ("deletionGracePeriodSeconds", readInt), ("finalizers", readArray readText),
  ("generation", readInt), ("managedFields", readArray readManagedFields),
  ("ownerReferences", readArray readOwner), ("selfLink", readText), ("uid", readText)]

/-- The metadata that JSON spells. -/
def ofJson? (json : Json) : Option Metadata := do
  let _ ← json.members?
  return { name := ← text? json "name"
           nameSpace := ← text? json "namespace"
           generateName := ← text? json "generateName"
           resourceVersion := ← text? json "resourceVersion"
           deletionTimestamp := ← time? json "deletionTimestamp"
           others := ← carried? otherFields json }

end Metadata

end WebhookTrust
