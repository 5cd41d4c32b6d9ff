import WebhookTrust.Proofs.Base64
import WebhookTrust.Proofs.Injection
import WebhookTrust.Proofs.JsonText
import WebhookTrust.Proofs.Versions
import WebhookTrust.Store.ApiServer

/-!
# Objects come back from JSON

An object that can be expressed is the one that its JSON spells, and JSON with another version
spells the object with that version. An object is written as members of its own and others that are
carried through unread, so the question is whether the two get in each other's way; the others are
read through a table of the fields that are known (`Metadata.carried?`).

## The theorems, and what each rests on

* `Json.get?_withOthers_of_mem`, `Json.get?_withOthers_of_notMem`: what is the object's own is found
  as it was given, and what is not is one of the others. Keys that are apart make the JSON proper,
  with no key twice (`Json.isProper_withOthers`).
* `Metadata.AreApart.carried?_withOthers`: what is carried through is read again as it was, since it
  is in the form in which it is read.
* `Metadata.ofJson?_toJson`, `Secret.ofJson?_toJson`: **metadata and Secrets come back from their
  JSON**, field by field.
* `ConsumerObject.IsExpressible.exists_toJson?`: **so does the object of a consumer**, whose data
  are members beside its types and metadata.
* `Secret.ofJson?_setVersion`, `ConsumerObject.ofJson?_setVersion`: **JSON with another version
  spells the object with that version**, which is how a server keeps it.
* `Secret.IsExpressible.withCertificates`, `ConsumerObject.IsExpressible.inject`: what a check and a
  pass do to objects leaves them expressible. Injection sets the value of a key that is there
  (`Injection.exists_injectData_eq`), so no key appears and none is there twice.

Not every object can be expressed: a time of deletion needs a year of four digits, no key may be
there twice, and what is carried through has to be in the form in which it is read. Each type says
so in its own `IsExpressible`.
-/

namespace WebhookTrust

open ApiServer (metadataField? setMetadataField)

/-! ### Objects of own members and others -/

namespace Json

theorem members?_eq_some_iff {json : Json} {members : List (String × Json)} :
    json.members? = some members ↔ json = .object members := by
  cases json <;> simp [members?]

theorem get?_put_of_ne {key other : String} (h : other ≠ key) (json value : Json) :
    (json.put key value).get? other = json.get? other := by
  cases json with
  | object members => exact Assoc.get?_put_of_ne h value members
  | null | bool | number | string | array => rfl

/-- A value that is there and not null is there. -/
theorem get?_of_field? {json value : Json} {key : String} (h : json.field? key = some value) :
    json.get? key = some value := by
  rw [field?] at h
  cases hget : json.get? key with
  | none =>
    rw [hget] at h
    cases h
  | some found =>
    rw [hget] at h
    cases found with
    | null => cases h
    | bool | number | string | array | object => exact h

/-- An object of members of its own, as far as they have values, and others. -/
def withOthers (own : List (String × Option Json)) (others : List (String × Json)) : Json :=
  ofOptions (own ++ others.map fun (key, value) ↦ (key, some value))

variable {own : List (String × Option Json)} {others : List (String × Json)} {key : String}
  {value : Option Json}

theorem withOthers_eq (own : List (String × Option Json)) (others : List (String × Json)) :
    withOthers own others =
      .object ((own.filterMap fun (key, value) ↦ value.map (key, ·)) ++ others) := by
  rw [withOthers, ofOptions, List.filterMap_append, List.filterMap_map]
  exact congrArg (fun others ↦ object (_ ++ others)) List.filterMap_some

theorem withOthers_nil (others : List (String × Json)) : withOthers [] others = .object others :=
  withOthers_eq [] others

/-- A member more may be the one that is wanted. -/
theorem get?_withOthers_cons (key wanted : String) (value : Option Json)
    (own : List (String × Option Json)) (others : List (String × Json)) :
    (withOthers ((key, value) :: own) others).get? wanted =
      if key = wanted then value.or ((withOthers own others).get? wanted)
      else (withOthers own others).get? wanted := by
  cases value with
  | none => simp [withOthers, ofOptions]
  | some value => rfl

/-- What is not the object's own is one of the others. -/
theorem get?_withOthers_of_notMem (h : key ∉ own.map Prod.fst) :
    (withOthers own others).get? key = Assoc.get? key others := by
  induction own with
  | nil => rw [withOthers_nil, get?]
  | cons member own ih =>
    rw [List.map_cons, List.mem_cons, not_or] at h
    rw [get?_withOthers_cons, if_neg (Ne.symm h.1), ih h.2]

/-- What is the object's own has the value that it is given, or none. -/
theorem get?_withOthers_of_mem (hown : (own.map Prod.fst).Nodup) (hmem : (key, value) ∈ own)
    (hothers : key ∉ others.map Prod.fst) : (withOthers own others).get? key = value := by
  induction own with
  | nil => cases hmem
  | cons member own ih =>
    obtain ⟨hnew, hown⟩ := List.nodup_cons.1 hown
    rw [get?_withOthers_cons]
    rcases List.mem_cons.1 hmem with rfl | hmem
    · rw [if_pos rfl, get?_withOthers_of_notMem hnew, Assoc.get?_eq_none_iff.2 hothers,
        Option.or_none]
    · have hne : member.1 ≠ key := fun heq ↦ hnew (heq ▸ List.mem_map_of_mem (f := Prod.fst) hmem)
      rw [if_neg hne, ih hown hmem]

/-- Keys that are apart make proper JSON. -/
theorem isProper_withOthers (hown : (own.map Prod.fst).Nodup)
    (hvalues : ∀ member ∈ own, ∀ value, member.2 = some value → value.IsProper)
    (hothers : (object others).IsProper)
    (hapart : ∀ key ∈ own.map Prod.fst, key ∉ others.map Prod.fst) :
    (withOthers own others).IsProper := by
  induction own with
  | nil => rwa [withOthers_nil]
  | cons member own ih =>
    obtain ⟨hnew, hown⟩ := List.nodup_cons.1 hown
    have hrest := ih hown (fun other hother ↦ hvalues other (.tail _ hother))
      fun key hkey ↦ hapart key (.tail _ hkey)
    obtain ⟨key, value⟩ := member
    cases value with
    | none => exact hrest
    | some value =>
      cases hrest with
      | object hkeys h =>
        have hnone : (withOthers own others).get? key = none := by
          rw [get?_withOthers_of_notMem hnew, Assoc.get?_eq_none_iff]
          exact hapart key (.head _)
        exact .object (List.nodup_cons.2 ⟨Assoc.get?_eq_none_iff.1 hnone, hkeys⟩)
          (List.forall_mem_cons.2 ⟨hvalues _ (.head _) value rfl, h⟩)

end Json

/-! ### Metadata -/

namespace Metadata

/-- The keys of the fields that are not carried through. -/
def ownKeys : List String :=
  ["name", "namespace", "generateName", "resourceVersion", "deletionTimestamp"]

/-- A field more is read, if it is there and not null. -/
theorem carried?_cons (key : String) (read : Json → Option Json) (table : FieldTable)
    (json : Json) : carried? ((key, read) :: table) json =
      (carried? table json).bind fun found ↦ match json.field? key with
        | none => some found
        | some value => (read value).map fun value ↦ (key, value) :: found := by
  rw [carried?, List.foldrM_cons]
  rfl

/-- What is read for the fields of a table depends on these fields only. -/
theorem carried?_congr {table : FieldTable} {json json' : Json}
    (h : ∀ key ∈ table.map Prod.fst, json.get? key = json'.get? key) :
    carried? table json = carried? table json' := by
  induction table with
  | nil => rfl
  | cons field table ih =>
    have hfield : json.field? field.1 = json'.field? field.1 :=
      congrArg Json.nonNull (h field.1 (.head _))
    rw [carried?_cons, carried?_cons, hfield, ih fun key hkey ↦ h key (.tail _ hkey)]

/-- Nothing but the fields of the table is carried through. -/
theorem mem_of_carried? {table : FieldTable} {json : Json} {found : List (String × Json)}
    (h : carried? table json = some found) {key : String} (hkey : key ∈ found.map Prod.fst) :
    key ∈ table.map Prod.fst := by
  induction table generalizing found with
  | nil =>
    cases h
    exact hkey
  | cons field table ih =>
    rw [carried?_cons] at h
    obtain ⟨rest, hrest, h⟩ := Option.bind_eq_some_iff.1 h
    split at h
    · cases h
      exact .tail _ (ih hrest hkey)
    · obtain ⟨value, -, rfl⟩ := Option.map_eq_some_iff.1 h
      rcases List.mem_cons.1 hkey with rfl | hkey
      · exact .head _
      · exact .tail _ (ih hrest hkey)

/-- Are the members of an object's own apart from each other and from the fields of a table? -/
structure AreApart (own : List (String × Option Json)) (table : FieldTable) : Prop where
  nodup : (own.map Prod.fst).Nodup
  notMem : ∀ key ∈ own.map Prod.fst, key ∉ table.map Prod.fst

namespace AreApart

variable {own : List (String × Option Json)} {table : FieldTable} {others : List (String × Json)}

theorem notMem_others (h : AreApart own table)
    (hothers : carried? table (.object others) = some others) :
    ∀ key ∈ own.map Prod.fst, key ∉ others.map Prod.fst :=
  fun key hkey hmem ↦ h.notMem key hkey (mem_of_carried? hothers hmem)

theorem get?_withOthers (h : AreApart own table)
    (hothers : carried? table (.object others) = some others) {key : String} {value : Option Json}
    (hmem : (key, value) ∈ own) : (Json.withOthers own others).get? key = value :=
  Json.get?_withOthers_of_mem h.nodup hmem
    (h.notMem_others hothers key (List.mem_map_of_mem (f := Prod.fst) hmem))

/-- What is carried through an object is read from its JSON. -/
theorem carried?_withOthers (h : AreApart own table)
    (hothers : carried? table (.object others) = some others) :
    carried? table (Json.withOthers own others) = some others := by
  refine (carried?_congr fun key hkey ↦ ?_).trans hothers
  exact Json.get?_withOthers_of_notMem fun hown ↦ h.notMem key hown hkey

end AreApart

/-- Can the metadata be written and read back? The year of deletion has to have four digits; what is
carried through has to be in the form in which it is read, with no key twice. -/
structure IsExpressible (metadata : Metadata) : Prop where
  deletionTimestamp : ∀ seconds, metadata.deletionTimestamp = some seconds →
    Timestamp.parse? (Timestamp.text seconds) = some seconds
  others : carried? otherFields (.object metadata.others) = some metadata.others
  proper : (Json.object metadata.others).IsProper

variable {metadata : Metadata}

/-- The members of the JSON that are not carried through. -/
def own (metadata : Metadata) : List (String × Option Json) :=
  [("name", metadata.name.map .string), ("namespace", metadata.nameSpace.map .string),
    ("generateName", metadata.generateName.map .string),
    ("resourceVersion", metadata.resourceVersion.map .string),
    ("deletionTimestamp", metadata.deletionTimestamp.map fun t ↦ .string (Timestamp.text t))]

theorem areApart_own (metadata : Metadata) : AreApart metadata.own otherFields where
  nodup := show ownKeys.Nodup by decide
  notMem := show ∀ key ∈ ownKeys, key ∉ otherFields.map Prod.fst by decide

theorem IsExpressible.get?_toJson (h : metadata.IsExpressible) {key : String} {value : Option Json}
    (hmem : (key, value) ∈ metadata.own) : metadata.toJson.get? key = value :=
  metadata.areApart_own.get?_withOthers h.others hmem

theorem IsExpressible.text?_toJson (h : metadata.IsExpressible) {key : String}
    {text : Option String} (hmem : (key, text.map Json.string) ∈ metadata.own) :
    text? metadata.toJson key = some text := by
  rw [text?, Json.field?, h.get?_toJson hmem]
  cases text <;> rfl

/-- The time of deletion is read as it was written. -/
theorem IsExpressible.time?_toJson (h : metadata.IsExpressible) :
    time? metadata.toJson "deletionTimestamp" = some metadata.deletionTimestamp := by
  have hmem : ("deletionTimestamp", metadata.deletionTimestamp.map fun t ↦
    Json.string (Timestamp.text t)) ∈ metadata.own := by simp [own]
  rw [time?, Json.field?, h.get?_toJson hmem]
  cases hseconds : metadata.deletionTimestamp with
  | none => rfl
  | some seconds =>
    show (Timestamp.parse? (Timestamp.text seconds)).map some = _
    rw [h.deletionTimestamp seconds hseconds]
    rfl

/-- Metadata are read field by field. -/
theorem ofJson?_eq_some_iff {json : Json} : ofJson? json = some metadata ↔
    (∃ members, json = .object members) ∧ text? json "name" = some metadata.name ∧
      text? json "namespace" = some metadata.nameSpace ∧
      text? json "generateName" = some metadata.generateName ∧
      text? json "resourceVersion" = some metadata.resourceVersion ∧
      time? json "deletionTimestamp" = some metadata.deletionTimestamp ∧
      carried? otherFields json = some metadata.others := by
  simp only [ofJson?, Option.bind_eq_bind, Option.bind_eq_some_iff, Option.pure_def,
    Option.some.injEq, Json.members?_eq_some_iff]
  constructor
  · rintro ⟨members, hmembers, name, hname, nameSpace, hnameSpace, generateName, hgenerateName,
      version, hversion, time, htime, others, hothers, rfl⟩
    exact ⟨⟨members, hmembers⟩, hname, hnameSpace, hgenerateName, hversion, htime, hothers⟩
  · rintro ⟨⟨members, hmembers⟩, hname, hnameSpace, hgenerateName, hversion, htime, hothers⟩
    exact ⟨members, hmembers, _, hname, _, hnameSpace, _, hgenerateName, _, hversion, _, htime, _,
      hothers, rfl⟩

/-- **Metadata come back from their JSON.** -/
theorem ofJson?_toJson (h : metadata.IsExpressible) : ofJson? metadata.toJson = some metadata :=
  ofJson?_eq_some_iff.2 ⟨⟨_, rfl⟩, h.text?_toJson (by simp [own]), h.text?_toJson (by simp [own]),
    h.text?_toJson (by simp [own]), h.text?_toJson (by simp [own]), h.time?_toJson,
    metadata.areApart_own.carried?_withOthers h.others⟩

/-- Metadata with another version spell that version. -/
theorem ofJson?_setVersion {json : Json} (h : ofJson? json = some metadata) (version : String) :
    ofJson? (json.put "resourceVersion" (.string version)) =
      some { metadata with resourceVersion := some version } := by
  obtain ⟨⟨members, rfl⟩, hname, hnameSpace, hgenerateName, -, htime, hothers⟩ :=
    ofJson?_eq_some_iff.1 h
  have hget {key : String} (hkey : key ≠ "resourceVersion") :
      ((Json.object members).put "resourceVersion" (.string version)).get? key =
        (Json.object members).get? key := Json.get?_put_of_ne hkey _ _
  have hversion : ((Json.object members).put "resourceVersion" (.string version)).get?
      "resourceVersion" = some (.string version) := Assoc.get?_put_self _ _ _
  have hcarried : ∀ key ∈ otherFields.map Prod.fst, key ≠ "resourceVersion" := by decide
  have hcongr := carried?_congr fun key hkey ↦ hget (hcarried key hkey)
  refine ofJson?_eq_some_iff.2 ⟨⟨_, rfl⟩, ?_, ?_, ?_, ?_, ?_, hcongr.trans hothers⟩
  · rwa [text?, Json.field?, hget (by decide)]
  · rwa [text?, Json.field?, hget (by decide)]
  · rwa [text?, Json.field?, hget (by decide)]
  · rw [text?, Json.field?, hversion]
    rfl
  · rwa [time?, Json.field?, hget (by decide)]

/-- The JSON of metadata has no key twice. -/
theorem IsExpressible.isProper_toJson (h : metadata.IsExpressible) : metadata.toJson.IsProper := by
  have hown := metadata.areApart_own
  refine Json.isProper_withOthers hown.nodup ?_ h.proper (hown.notMem_others h.others)
  intro member hmember value hvalue
  simp only [List.mem_cons, List.not_mem_nil, or_false] at hmember
  rcases hmember with rfl | rfl | rfl | rfl | rfl <;>
    (obtain ⟨_, -, rfl⟩ := Option.map_eq_some_iff.1 hvalue; exact .string _)

end Metadata

/-! ### Versions in JSON -/

variable {json metadata : Json} {version : String}

/-- The version that the JSON of an object says it has. -/
def Json.version? (json : Json) : Option Json := metadataField? json "resourceVersion"

/-- The JSON of an object with another version. -/
def Json.setVersion (json : Json) (version : String) : Json :=
  setMetadataField json "resourceVersion" (.string version)

theorem Json.setVersion_eq (h : json.get? "metadata" = some metadata) :
    json.setVersion version =
      json.put "metadata" (metadata.put "resourceVersion" (.string version)) := by
  rw [setVersion, setMetadataField, h, Option.getD_some]

theorem Json.get?_setVersion {key : String} (hkey : key ≠ "metadata") :
    (json.setVersion version).get? key = json.get? key := Json.get?_put_of_ne hkey _ _

theorem Json.IsProper.setVersion (h : json.IsProper) (hget : json.get? "metadata" = some metadata) :
    (json.setVersion version).IsProper := by
  rw [setVersion_eq hget]
  exact h.put _ ((h.get? hget).put _ (.string _))

/-- A field of the metadata that is not carried through. -/
theorem Metadata.IsExpressible.metadataField? {metadata : Metadata} (h : metadata.IsExpressible)
    (hget : json.get? "metadata" = some metadata.toJson) {key : String} {value : Option Json}
    (hmem : (key, value) ∈ metadata.own) : metadataField? json key = value := by
  rw [ApiServer.metadataField?, hget, Option.bind_some, h.get?_toJson hmem]

/-- A text that is read is there. -/
theorem Metadata.get?_of_text? {key text : String} (h : text? json key = some (some text)) :
    json.get? key = some (.string text) := by
  rw [text?] at h
  split at h
  · cases h
  · next hfield =>
    cases h
    exact Json.get?_of_field? hfield
  · cases h

/-- JSON spells the version that it says it has. -/
theorem Metadata.get?_of_ofJson? {metadata : Metadata} (h : ofJson? json = some metadata)
    (hversion : metadata.resourceVersion = some version) :
    json.get? "resourceVersion" = some (.string version) := by
  obtain ⟨-, -, -, -, htext, -, -⟩ := ofJson?_eq_some_iff.1 h
  exact get?_of_text? (hversion ▸ htext)

/-! ### Secrets -/

namespace Secret

variable {secret : Secret}

/-- The Secret's entry in JSON. -/
def encoded (entry : String × Bytes) : String × Json :=
  (entry.1, .string (Base64.encodeString entry.2))

/-- The members of the JSON that are not carried through. -/
def own (secret : Secret) : List (String × Option Json) :=
  [("apiVersion", some (.string apiVersion)), ("kind", some (.string kindName)),
    ("metadata", some secret.metadata.toJson),
    ("data", secret.entries.map fun entries ↦ .object (entries.map encoded)),
    ("type", secret.type.map .string)]

/-- The keys of these members. -/
def ownKeys : List String := ["apiVersion", "kind", "metadata", "data", "type"]

theorem areApart_own (secret : Secret) : Metadata.AreApart secret.own otherFields where
  nodup := show ownKeys.Nodup by decide
  notMem := show ∀ key ∈ ownKeys, key ∉ otherFields.map Prod.fst by decide

/-- Can the Secret be written and read back? No key of its entries may be there twice, and what is
carried through has to be in the form in which it is read. -/
structure IsExpressible (secret : Secret) : Prop where
  metadata : secret.metadata.IsExpressible
  entries : ∀ entries, secret.entries = some entries → (entries.map Prod.fst).Nodup
  others : Metadata.carried? otherFields (.object secret.others) = some secret.others
  proper : (Json.object secret.others).IsProper

theorem IsExpressible.get?_toJson (h : secret.IsExpressible) {key : String} {value : Option Json}
    (hmem : (key, value) ∈ secret.own) : secret.toJson.get? key = value :=
  secret.areApart_own.get?_withOthers h.others hmem

theorem IsExpressible.get?_metadata (h : secret.IsExpressible) :
    secret.toJson.get? "metadata" = some secret.metadata.toJson :=
  h.get?_toJson (by simp [own])

/-- A Secret is read field by field. -/
theorem ofJson?_eq_some_iff : ofJson? json = some secret ↔
    (∃ members, json = .object members) ∧
      (agrees json "apiVersion" apiVersion && agrees json "kind" kindName) = true ∧
      metadata? json = some secret.metadata ∧ Metadata.text? json "type" = some secret.type ∧
      entries? json = some secret.entries ∧
      Metadata.carried? otherFields json = some secret.others := by
  simp only [ofJson?, Option.bind_eq_bind, Option.bind_eq_some_iff, Option.pure_def,
    Json.members?_eq_some_iff, Option.ite_none_right_eq_some, Option.some.injEq]
  constructor
  · rintro ⟨members, hmembers, htypes, metadata, hmetadata, type, htype, entries, hentries, others,
      hothers, rfl⟩
    exact ⟨⟨members, hmembers⟩, htypes, hmetadata, htype, hentries, hothers⟩
  · rintro ⟨⟨members, hmembers⟩, htypes, hmetadata, htype, hentries, hothers⟩
    exact ⟨members, hmembers, htypes, _, hmetadata, _, htype, _, hentries, _, hothers, rfl⟩

/-- Entries come back from their JSON. -/
theorem mapM_entryOf? (entries : List (String × Bytes)) :
    (entries.map encoded).mapM entryOf? = some entries := by
  induction entries with
  | nil => rfl
  | cons entry entries ih =>
    have hentry : entryOf? (encoded entry) = some entry := by
      simp [entryOf?, encoded, Json.string?, Base64.decode_encodeString, Except.toOption]
    rw [List.map_cons, List.mapM_cons, hentry, ih]
    rfl

/-- **A Secret comes back from its JSON.** -/
theorem ofJson?_toJson (h : secret.IsExpressible) : ofJson? secret.toJson = some secret := by
  refine ofJson?_eq_some_iff.2 ⟨⟨_, rfl⟩, ?_, ?_, ?_, ?_, ?_⟩
  · have hversion : secret.toJson.get? "apiVersion" = _ := h.get?_toJson (.head _)
    have hkind : secret.toJson.get? "kind" = _ := h.get?_toJson (.tail _ (.head _))
    rw [agrees, agrees, hversion, hkind]
    rfl
  · rw [metadata?, Json.field?, h.get?_metadata]
    exact Metadata.ofJson?_toJson h.metadata
  · have htype : secret.toJson.get? "type" = secret.type.map .string :=
      h.get?_toJson (by simp [own])
    rw [Metadata.text?, Json.field?, htype]
    cases secret.type <;> rfl
  · have hdata : secret.toJson.get? "data" =
        secret.entries.map fun entries ↦ .object (entries.map encoded) :=
      h.get?_toJson (by simp [own])
    rw [entries?, Json.field?, hdata]
    cases secret.entries with
    | none => rfl
    | some entries =>
      show ((entries.map encoded).mapM entryOf?).bind _ = _
      rw [mapM_entryOf?]
      rfl
  · exact secret.areApart_own.carried?_withOthers h.others

/-- The JSON of a Secret has no key twice. -/
theorem IsExpressible.isProper_toJson (h : secret.IsExpressible) : secret.toJson.IsProper := by
  have hown := secret.areApart_own
  refine Json.isProper_withOthers hown.nodup ?_ h.proper (hown.notMem_others h.others)
  intro member hmember value hvalue
  simp only [List.mem_cons, List.not_mem_nil, or_false] at hmember
  rcases hmember with rfl | rfl | rfl | rfl | rfl
  · cases hvalue; exact .string _
  · cases hvalue; exact .string _
  · cases hvalue; exact h.metadata.isProper_toJson
  · obtain ⟨entries, hentries, rfl⟩ := Option.map_eq_some_iff.1 hvalue
    refine .object ?_ fun member hmember ↦ ?_
    · rw [List.map_map]
      exact h.entries entries hentries
    · obtain ⟨entry, -, rfl⟩ := List.mem_map.1 hmember
      exact .string _
  · obtain ⟨_, -, rfl⟩ := Option.map_eq_some_iff.1 hvalue
    exact .string _

/-- **JSON with another version spells the Secret with that version.** -/
theorem ofJson?_setVersion {fields : List (String × Json)} (h : ofJson? json = some secret)
    (hmetadata : json.get? "metadata" = some (.object fields)) (version : String) :
    ofJson? (json.setVersion version) = some (secret.withVersion (some version)) := by
  obtain ⟨⟨members, rfl⟩, htypes, hread, htype, hentries, hothers⟩ := ofJson?_eq_some_iff.1 h
  have hget {key : String} (hkey : key ≠ "metadata") :
      ((Json.object members).setVersion version).get? key = (Json.object members).get? key :=
    Json.get?_setVersion hkey
  have hcarried : ∀ key ∈ otherFields.map Prod.fst, key ≠ "metadata" := by decide
  have hcongr := Metadata.carried?_congr fun key hkey ↦ hget (hcarried key hkey)
  refine ofJson?_eq_some_iff.2 ⟨⟨_, rfl⟩, ?_, ?_, ?_, ?_, hcongr.trans hothers⟩
  · rwa [agrees, agrees, hget (by decide), hget (by decide)]
  · have hfields : Metadata.ofJson? (.object fields) = some secret.metadata := by
      rwa [metadata?, Json.field?, hmetadata] at hread
    rw [Json.setVersion_eq hmetadata]
    show Option.elim (Json.nonNull (Assoc.get? "metadata" (Assoc.put "metadata" _ members))) _ _ = _
    rw [Assoc.get?_put_self]
    exact Metadata.ofJson?_setVersion hfields version
  · rwa [Metadata.text?, Json.field?, hget (by decide)]
  · rwa [entries?, Json.field?, hget (by decide)]

/-- JSON says the version of the Secret that it spells. -/
theorem version?_of_ofJson? (h : ofJson? json = some secret)
    (hversion : secret.metadata.resourceVersion = some version) :
    json.version? = some (.string version) := by
  obtain ⟨-, -, hread, -, -, -⟩ := ofJson?_eq_some_iff.1 h
  rw [metadata?] at hread
  cases hfield : json.field? "metadata" with
  | none =>
    rw [hfield] at hread
    rw [← Option.some.inj hread] at hversion
    cases hversion
  | some metadata =>
    rw [hfield] at hread
    rw [Json.version?, metadataField?, Json.get?_of_field? hfield]
    exact Metadata.get?_of_ofJson? hread hversion

/-! ### What checks do to Secrets -/

theorem IsExpressible.withVersion (h : secret.IsExpressible) (version : Option String) :
    (secret.withVersion version).IsExpressible :=
  ⟨⟨h.metadata.deletionTimestamp, h.metadata.others, h.metadata.proper⟩, h.entries, h.others,
    h.proper⟩

/-- An entry that is set leaves a Secret expressible. -/
theorem IsExpressible.setEntry (h : secret.IsExpressible) (name : String) (value : Bytes) :
    (secret.setEntry name value).IsExpressible := by
  refine ⟨h.metadata, ?_, h.others, h.proper⟩
  rintro _ ⟨⟩
  refine Assoc.nodup_put ?_ name value
  cases hentries : secret.entries with
  | none => exact .nil
  | some entries => exact h.entries entries hentries

theorem IsExpressible.withCertificates (h : secret.IsExpressible) (ca : KeyPair) (leaf : PemPair) :
    (secret.withCertificates ca leaf).IsExpressible :=
  (((h.setEntry _ _).setEntry _ _).setEntry _ _).setEntry _ _

theorem isExpressible_new (key : SecretKey) : (Secret.new key).IsExpressible where
  metadata := ⟨nofun, rfl, .object .nil nofun⟩
  entries := nofun
  others := rfl
  proper := .object .nil nofun

end Secret

/-! ### Objects of consumers -/

namespace ConsumerObject

variable {object : ConsumerObject} {members : List (String × Json)}

/-- The keys that stand for types and metadata. -/
def ownKeys : List String := ["apiVersion", "kind", "metadata"]

/-- Are the members such that an object has them beside its types and metadata? -/
structure AreData (members : List (String × Json)) : Prop where
  proper : (Json.object members).IsProper
  apart : ∀ key ∈ ownKeys, key ∉ members.map Prod.fst

/-- Can the object be written and read back? Its data have to be those of an object of the API. -/
structure IsExpressible (object : ConsumerObject) : Prop where
  metadata : object.metadata.IsExpressible
  data : ∃ members, object.data = .object members ∧ AreData members

/-- The members that are not data. -/
def own (object : ConsumerObject) : List (String × Option Json) :=
  [("apiVersion", object.types.map fun types ↦ .string types.apiVersion),
    ("kind", object.types.map fun types ↦ .string types.kind),
    ("metadata", some object.metadata.toJson)]

theorem withOthers_own (object : ConsumerObject) (members : List (String × Json)) :
    Json.withOthers object.own members =
      .object (typeMembers object.types ++ [("metadata", object.metadata.toJson)] ++ members) := by
  rw [Json.withOthers_eq, own]
  cases object.types <;> rfl

/-- Members with keys of their own are put at the end. -/
theorem foldl_put_eq_append {head members : List (String × Json)}
    (h : ((head ++ members).map Prod.fst).Nodup) :
    members.foldl (fun all (key, value) ↦ Assoc.put key value all) head = head ++ members := by
  induction members generalizing head with
  | nil => rw [List.foldl_nil, List.append_nil]
  | cons member members ih =>
    rw [List.foldl_cons]
    show members.foldl _ (Assoc.put member.1 member.2 head) = _
    rw [Assoc.put_of_nodup h, ih (by simpa using h), List.append_assoc, List.singleton_append]

/-- Data beside types and metadata make proper JSON. -/
theorem IsExpressible.isProper_withOthers (h : object.IsExpressible) (hmembers : AreData members) :
    (Json.withOthers object.own members).IsProper := by
  have hown : (object.own.map Prod.fst).Nodup := show ownKeys.Nodup by decide
  refine Json.isProper_withOthers hown ?_ hmembers.proper hmembers.apart
  intro member hmember value hvalue
  simp only [own, List.mem_cons, List.not_mem_nil, or_false] at hmember
  rcases hmember with rfl | rfl | rfl
  · obtain ⟨_, -, rfl⟩ := Option.map_eq_some_iff.1 hvalue
    exact .string _
  · obtain ⟨_, -, rfl⟩ := Option.map_eq_some_iff.1 hvalue
    exact .string _
  · cases hvalue
    exact h.metadata.isProper_toJson

/-- The JSON of an object is its own members, and its data. -/
theorem IsExpressible.toJson?_eq (h : object.IsExpressible) (hdata : object.data = .object members)
    (hmembers : AreData members) : object.toJson? = some (.withOthers object.own members) := by
  have hproper := h.isProper_withOthers hmembers
  rw [withOthers_own] at hproper ⊢
  rw [toJson?, hdata]
  cases hproper with
  | object hkeys _ => exact congrArg (some ∘ Json.object) (foldl_put_eq_append hkeys)

theorem get?_metadata_withOthers (hmembers : AreData members) :
    (Json.withOthers object.own members).get? "metadata" = some object.metadata.toJson := by
  have hown : (object.own.map Prod.fst).Nodup := show ownKeys.Nodup by decide
  exact Json.get?_withOthers_of_mem hown (by simp [own]) (hmembers.apart "metadata" (by decide))

/-- JSON says the version of the object that it spells. -/
theorem version?_of_ofJson? (h : ofJson? json = some object)
    (hversion : object.metadata.resourceVersion = some version) :
    json.version? = some (.string version) := by
  simp only [ofJson?, Option.bind_eq_bind, Option.bind_eq_some_iff] at h
  obtain ⟨members, -, metadata, hread, heq⟩ := h
  cases heq
  rw [Json.version?, metadataField?]
  cases hget : json.get? "metadata" with
  | none =>
    rw [hget] at hread
    cases hread
    cases hversion
  | some metadata =>
    rw [hget] at hread
    exact Metadata.get?_of_ofJson? hread hversion

/-- The types are taken off again. -/
theorem splitTypes_typeMembers_append (types : Option ObjectTypes) (h : AreData members) :
    splitTypes (typeMembers types ++ members) = (types, members) := by
  have herase : Assoc.erase "kind" (Assoc.erase "apiVersion" members) = members := by
    rw [Assoc.erase_of_notMem (h.apart "apiVersion" (.head _)),
      Assoc.erase_of_notMem (h.apart "kind" (.tail _ (.head _)))]
  cases types with
  | none =>
    have hversion : Assoc.get? "apiVersion" members = none :=
      Assoc.get?_eq_none_iff.2 (h.apart _ (.head _))
    simp only [typeMembers, Option.toList_none, List.flatMap_nil, List.nil_append, splitTypes,
      hversion, herase]
  | some types =>
    show (some types, Assoc.erase "kind" (Assoc.erase "apiVersion" members)) = _
    rw [herase]

/-- The object is spelled by its JSON. -/
theorem IsExpressible.ofJson?_withOthers (h : object.IsExpressible)
    (hdata : object.data = .object members) (hmembers : AreData members) :
    ofJson? (.withOthers object.own members) = some object := by
  have hget : (Json.withOthers object.own members).get? "metadata" = some object.metadata.toJson :=
    get?_metadata_withOthers hmembers
  have herase : Assoc.erase "metadata"
      (typeMembers object.types ++ [("metadata", object.metadata.toJson)] ++ members) =
        typeMembers object.types ++ members := by
    refine (List.filter_append _ _).trans (congrArg₂ (· ++ ·) ?_ ?_)
    · cases object.types <;> rfl
    · exact Assoc.erase_of_notMem (hmembers.apart "metadata" (by decide))
  rw [withOthers_own] at hget ⊢
  simp only [ofJson?, Json.members?, Option.bind_eq_bind, Option.bind_some, hget, Option.elim_some,
    Metadata.ofJson?_toJson h.metadata, herase, splitTypes_typeMembers_append _ hmembers]
  rw [← hdata]
  rfl

/-- **The object of a consumer comes back from its JSON.** -/
theorem IsExpressible.exists_toJson? (h : object.IsExpressible) : ∃ json,
    object.toJson? = some json ∧ ofJson? json = some object ∧ json.IsProper ∧
      json.get? "metadata" = some object.metadata.toJson := by
  obtain ⟨members, hdata, hmembers⟩ := h.data
  exact ⟨_, h.toJson?_eq hdata hmembers, h.ofJson?_withOthers hdata hmembers,
    h.isProper_withOthers hmembers, get?_metadata_withOthers hmembers⟩

/-- **JSON with another version spells the object with that version.** -/
theorem ofJson?_setVersion {fields : List (String × Json)} (h : ofJson? json = some object)
    (hmetadata : json.get? "metadata" = some (.object fields)) (version : String) :
    ofJson? (json.setVersion version) = some (object.withVersion (some version)) := by
  simp only [ofJson?, Option.bind_eq_bind, Option.bind_eq_some_iff,
    Json.members?_eq_some_iff] at h
  obtain ⟨members, rfl, metadata, hread, heq⟩ := h
  rw [hmetadata, Option.elim_some] at hread
  cases heq
  rw [Json.setVersion_eq hmetadata]
  simp only [ofJson?, Json.put, Json.members?, Option.bind_eq_bind, Option.bind_some, Json.get?,
    Assoc.get?_put_self, Option.elim_some, Assoc.erase_put]
  show (Metadata.ofJson? ((Json.object fields).put _ _)).bind _ = _
  rw [Metadata.ofJson?_setVersion hread]
  rfl

end ConsumerObject

/-! ### Injection -/

namespace Injection

open Json (IsProper)

variable {bundle data : Json} {members changed : List (String × Json)}

/-- The bundle in a client configuration leaves no key twice. -/
theorem isProper_setClientBundle? (hbundle : bundle.IsProper) (h : IsProper (.object members))
    (hset : setClientBundle? bundle members = some changed) : IsProper (.object changed) := by
  obtain ⟨config, hconfig | ⟨-, rfl⟩, rfl⟩ := setClientBundle?_eq_some.1 hset
  · exact h.put "clientConfig" (IsProper.put (h.get? hconfig) "caBundle" hbundle)
  · have hempty : IsProper (.object []) := .object .nil nofun
    exact h.put "clientConfig" (hempty.put "caBundle" hbundle)

/-- Nor does it in webhooks, -/
theorem isProper_injectWebhooks (hbundle : bundle.IsProper) {webhooks : List Json}
    (h : ∀ webhook ∈ webhooks, webhook.IsProper) (index : Nat) :
    ∀ webhook ∈ (injectWebhooks bundle index webhooks).1, webhook.IsProper := by
  induction webhooks generalizing index with
  | nil => exact h
  | cons webhook webhooks ih =>
    rcases hasClient_cases bundle webhook with ⟨members, changed, rfl, hset⟩ | hnot
    · rw [List.forall_mem_cons] at h
      rw [injectWebhooks_cons_of_some hset]
      exact List.forall_mem_cons.2
        ⟨isProper_setClientBundle? hbundle h.1 hset, ih h.2 (index + 1)⟩
    · rwa [injectWebhooks_cons_of_not hnot]

/-- nor in a conversion. -/
theorem isProper_injectConversion (hbundle : bundle.IsProper) (h : IsProper (.object members))
    (hinject : injectConversion bundle members = .ok changed) : IsProper (.object changed) := by
  rcases injectConversion_eq_ok.1 hinject with
    ⟨webhook, changed, hwebhook, hset, rfl⟩ | ⟨-, config, hconfig, rfl⟩
  · exact h.put "webhook" (isProper_setClientBundle? hbundle (h.get? hwebhook) hset)
  · exact h.put "webhookClientConfig" (IsProper.put (h.get? hconfig) "caBundle" hbundle)

/-- Injection sets the value of a key that is there. -/
theorem exists_injectData_eq (kind : ConsumerKind) (hbundle : bundle.IsProper)
    (h : data.IsProper) : (injectData kind bundle data).1 = data ∨
      ∃ key old value, data.get? key = some old ∧ value.IsProper ∧
        (injectData kind bundle data).1 = data.put key value := by
  have hadmission : (injectAdmission bundle data).1 = data ∨ ∃ key old value,
      data.get? key = some old ∧ value.IsProper ∧
        (injectAdmission bundle data).1 = data.put key value := by
    rcases injectAdmission_cases data with ⟨webhooks, hwebhooks⟩ | ⟨-, hnothing⟩
    · rw [injectAdmission_of_array hwebhooks]
      cases h.get? hwebhooks with
      | array hitems =>
        exact .inr ⟨_, _, _, hwebhooks, .array (isProper_injectWebhooks hbundle hitems 0), rfl⟩
    · exact .inl (congrArg Prod.fst (hnothing bundle))
  cases kind with
  | validating | mutating => exact hadmission
  | crdConversion =>
    rw [injectData]
    rcases injectDefinition_cases bundle data with
      ⟨fault, hfails⟩ | ⟨spec, conversion, changed, hspec, hconversion, hchanged⟩
    · exact .inl (congrArg Prod.fst hfails)
    · rw [injectDefinition_of_ok hspec hconversion hchanged]
      have hproper := (h.get? hspec).get? hconversion
      exact .inr ⟨_, _, _, hspec, (h.get? hspec).put _
        (isProper_injectConversion hbundle hproper hchanged), rfl⟩

end Injection

namespace ConsumerObject

variable {object : ConsumerObject}

/-! ### What passes do to objects -/

theorem IsExpressible.withVersion (h : object.IsExpressible) (version : Option String) :
    (object.withVersion version).IsExpressible :=
  ⟨⟨h.metadata.deletionTimestamp, h.metadata.others, h.metadata.proper⟩, h.data⟩

/-- Injection leaves an object expressible. -/
theorem IsExpressible.inject (h : object.IsExpressible) (kind : ConsumerKind) (caPem : Bytes) :
    (Injection.inject kind caPem object).1.IsExpressible := by
  obtain ⟨members, hdata, hmembers⟩ := h.data
  refine ⟨h.metadata, ?_⟩
  show ∃ members, (Injection.injectData kind (Injection.bundleOf caPem) object.data).1 = _ ∧ _
  rw [hdata]
  rcases Injection.exists_injectData_eq kind (.string _) hmembers.proper with
    heq | ⟨key, old, value, hget, hvalue, heq⟩
  · exact ⟨members, heq, hmembers⟩
  · refine ⟨_, heq, hmembers.proper.put key hvalue, ?_⟩
    have hkey : key ∈ members.map Prod.fst := List.mem_map_of_mem (Assoc.mem_of_get? hget)
    rw [Assoc.map_fst_put_of_mem hkey]
    exact hmembers.apart

end ConsumerObject

end WebhookTrust
