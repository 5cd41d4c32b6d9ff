import Mathlib.Logic.Function.Basic
import WebhookTrust.Proofs.Manifest
import WebhookTrust.Proofs.Utf8

/-!
# An API server that keeps an object a place

The objects of a cluster are found by kind, namespace and name, which make up their paths. A server
that keeps one versioned object at each of these places (`IsApiServer`) refuses to read or replace
what is missing, to create what is there, and to replace what is there on the ground of another
version; every object that it accepts becomes a new version.

The promise is about requests and responses as they go over the wire, so it can be read beside the
documentation of the API: `ApiRequest.Reads`, `ApiRequest.Creates` and `ApiRequest.Replaces` say
what a request asks for, and `Shows`, `Refuses` and `Accepts` what a server does about it.

## The theorems, and what each rests on

* `Http.Target.parse?_append_writeQuery`: a path with the query of a write is taken apart again,
  since no valid name has a mark of a target in it.
* `ApiClient.answer_getSecret`, `ApiClient.answer_getConsumer`: **behind such a server a store gives
  what the server keeps**, as far as it spells objects, and nothing if nothing is there
  (`ApiClient.answer_getSecret_missing`, `ApiClient.answer_getConsumer_missing`).
* `ApiClient.answer_createSecret`, `ApiClient.answer_replaceSecret`,
  `ApiClient.answer_replaceConsumer`: **and it succeeds to write what is based on the version that
  is there**, which leaves the other places alone. What is sent spells the object by the theorems of
  `WebhookTrust.Proofs.Manifest`.

Names have to be valid (`Place.IsNamed`). A server may do more than is promised, as to answer
requests of other sorts, and nothing is said of those.
-/

namespace WebhookTrust

/-! ### Targets -/

namespace Http.Target

/-- May the character stand in a path, as a single byte? -/
def isPathChar (c : Char) : Bool := c.toNat < 0x80 && isPathByte (UInt8.ofNat c.toNat)

variable {path : String}

/-- Characters that may stand in a path are bytes that may. -/
theorem all_isPathByte (h : path.toList.all isPathChar = true) :
    (Utf8.ofString path).all isPathByte = true := by
  rw [List.all_eq_true] at h
  have hascii : ∀ c ∈ path.toList, c.toNat < 0x80 := fun c hc ↦ by
    have hchar := h c hc
    rw [isPathChar, Bool.and_eq_true, decide_eq_true_iff] at hchar
    exact hchar.1
  rw [Utf8.ofString, Utf8.encode_of_lt hascii, List.all_eq_true]
  intro b hb
  obtain ⟨c, hc, rfl⟩ := List.mem_map.1 hb
  exact (Bool.and_eq_true_iff.1 (h c hc)).2

theorem notMem_of_all {mark : Char} (hmark : isPathChar mark = false)
    (h : path.toList.all isPathChar = true) : mark ∉ path.toList := by
  intro hmem
  rw [List.all_eq_true] at h
  exact Bool.false_ne_true (hmark.symm.trans (h mark hmem))

/-- A path is a target without a query. -/
theorem parse?_of_path (h : path.toList.all isPathChar = true) : parse? path = some ⟨path, []⟩ := by
  have hsign : cut '#' path.toList = (path.toList, none) := by
    rw [cut, cutAt?_eq_none (notMem_of_all (by decide) h)]
  have hmark : cut '?' path.toList = (path.toList, none) := by
    rw [cut, cutAt?_eq_none (notMem_of_all (by decide) h)]
  simp only [parse?, hsign, hmark, String.ofList_toList, all_isPathByte h]
  rfl

/-- The target of a write. -/
theorem parse?_append_writeQuery (h : path.toList.all isPathChar = true) :
    parse? (path ++ ApiClient.writeQuery) =
      some ⟨path, [("fieldManager", ApiClient.fieldManager)]⟩ := by
  have hquery : ApiClient.writeQuery.toList = '?' :: "&fieldManager=certwarden".toList := by decide
  have hsign : cut '#' (path ++ ApiClient.writeQuery).toList =
      (path.toList ++ '?' :: "&fieldManager=certwarden".toList, none) := by
    rw [cut, String.toList_append, hquery, cutAt?_eq_none]
    rw [List.mem_append, not_or]
    exact ⟨notMem_of_all (by decide) h, by decide⟩
  have hmark : cut '?' (path.toList ++ '?' :: "&fieldManager=certwarden".toList) =
      (path.toList, some "&fieldManager=certwarden".toList) := by
    rw [cut, cutAt?_append (notMem_of_all (by decide) h)]
  have hpairs : pairs "&fieldManager=certwarden".toList =
    [("fieldManager", ApiClient.fieldManager)] := by decide
  have hbytes : (Utf8.ofString "&fieldManager=certwarden").all isQueryByte = true := by decide
  simp only [parse?, hsign, hmark, String.ofList_toList, Option.getD_some, all_isPathByte h,
    hbytes, hpairs]
  rfl

end Http.Target

/-! ### Places -/

/-- The characters of names: lower-case letters, digits, the dash and the dot. -/
def nameChars : List Char := "abcdefghijklmnopqrstuvwxyz0123456789-.".toList

/-- Is the name one that an object or a namespace can have? -/
def IsObjectName (name : String) : Prop := name ≠ "" ∧ ∀ c ∈ name.toList, c ∈ nameChars

theorem isObjectName_iff {name : String} :
    name ≠ "" ∧ name.toList.all nameChars.contains = true ↔ IsObjectName name := by
  simp [IsObjectName]

-- goes through the name: the instance for quantifiers over characters goes through all of them
instance (name : String) : Decidable (IsObjectName name) := decidable_of_iff _ isObjectName_iff

theorem IsObjectName.all_isPathChar {name : String} (h : IsObjectName name) :
    name.toList.all Http.Target.isPathChar = true := by
  have hchars : nameChars.all Http.Target.isPathChar = true := by decide
  exact List.all_eq_true.2 fun c hc ↦ List.all_eq_true.1 hchars c (h.2 c hc)

theorem ConsumerKind.mem_all (kind : ConsumerKind) : kind ∈ all := by cases kind <;> decide

/-- Where an object is kept. -/
inductive Place where
  | secret (key : SecretKey)
  | consumer (consumer : Consumer)
deriving DecidableEq

namespace Place

/-- The path of the collection. -/
def collection : Place → String
  | .secret key => ApiClient.secretsPath key.nameSpace
  | .consumer declared => ApiClient.consumersPath declared.kind

/-- The name in the collection. -/
def name : Place → String
  | .secret key => key.name
  | .consumer declared => declared.name

/-- The path. -/
def path (place : Place) : String := place.collection ++ "/" ++ place.name

theorem collection_secret (key : SecretKey) :
    (secret key).collection = ApiClient.secretsPath key.nameSpace := rfl

theorem path_secret (key : SecretKey) :
    (secret key).path = ApiClient.secretsPath key.nameSpace ++ "/" ++ key.name := rfl

theorem path_consumer (declared : Consumer) : (Place.consumer declared).path =
    ApiClient.consumersPath declared.kind ++ "/" ++ declared.name := rfl

/-- Are the names of the place valid? -/
def IsNamed : Place → Prop
  | .secret key => IsObjectName key.nameSpace ∧ IsObjectName key.name
  | .consumer declared => IsObjectName declared.name

/-- Does an object say that this is its place? -/
def IsSaidBy (json : Json) : Place → Prop
  | .secret key => ApiServer.metadataField? json "namespace" = some (.string key.nameSpace) ∧
    ApiServer.metadataField? json "name" = some (.string key.name)
  | .consumer declared => ApiServer.metadataField? json "name" = some (.string declared.name)

variable {place other : Place}

theorem IsNamed.name (h : place.IsNamed) : IsObjectName place.name := by
  cases place with
  | secret key => exact h.2
  | consumer declared => exact h

theorem all_isPathChar_append {front back : String}
    (hfront : front.toList.all Http.Target.isPathChar = true)
    (hback : back.toList.all Http.Target.isPathChar = true) :
    (front ++ back).toList.all Http.Target.isPathChar = true := by
  rw [String.toList_append, List.all_append, hfront, hback, Bool.and_self]

/-- The collection of a valid place is a path. -/
theorem all_isPathChar_collection (h : place.IsNamed) :
    place.collection.toList.all Http.Target.isPathChar = true := by
  cases place with
  | secret key =>
    show ("/api/v1/namespaces/" ++ key.nameSpace ++ "/secrets").toList.all _ = true
    have hfront : ("/api/v1/namespaces/" ++ key.nameSpace).toList.all
        Http.Target.isPathChar = true :=
      all_isPathChar_append (by decide) (IsObjectName.all_isPathChar h.1)
    exact all_isPathChar_append hfront (by decide)
  | consumer declared =>
    have hkinds : ∀ kind ∈ ConsumerKind.all,
        (ApiClient.consumersPath kind).toList.all Http.Target.isPathChar = true := by decide
    exact hkinds declared.kind declared.kind.mem_all

theorem all_isPathChar_path (h : place.IsNamed) :
    place.path.toList.all Http.Target.isPathChar = true := by
  have hslash : "/".toList.all Http.Target.isPathChar = true := by decide
  exact all_isPathChar_append (all_isPathChar_append (all_isPathChar_collection h) hslash)
    h.name.all_isPathChar

/-! ### Requests -/

/-- The request to read what is at the place. -/
def getRequest (place : Place) : ApiRequest := ⟨"GET", ⟨place.path, []⟩, none, none⟩

/-- A request to write. -/
def writeRequest (method path : String) (body : Json) : ApiRequest :=
  ⟨method, ⟨path, [("fieldManager", ApiClient.fieldManager)]⟩, some "application/json", some body⟩

end Place

namespace ApiClient

variable {key : SecretKey} {secret : Secret} {consumer : Consumer} {object : ConsumerObject}

theorem objectPath_eq {collection name : String} (h : IsObjectName name) :
    objectPath collection name = .ok (collection ++ "/" ++ name) := if_neg h.1

theorem build_path {place : Place} (h : place.IsNamed) :
    build "GET" place.path none = .ok place.getRequest := by
  rw [build, Http.Target.parse?_of_path (Place.all_isPathChar_path h)]
  rfl

theorem build_append_writeQuery {path : String} (h : path.toList.all Http.Target.isPathChar = true)
    (method : String) (body : Json) :
    build method (path ++ writeQuery) (some body) = .ok (Place.writeRequest method path body) := by
  rw [build, Http.Target.parse?_append_writeQuery h]
  rfl

theorem request_getSecret (h : (Place.secret key).IsNamed) :
    request (.getSecret key) = .ok (Place.secret key).getRequest := by
  rw [request, objectPath_eq h.2, ← build_path h, Place.path_secret]
  simp only [bind, Except.bind]

/-- A Secret that has a key says so in its metadata. -/
theorem metadata_of_key? (hkey : secret.key? = some key) :
    secret.metadata.nameSpace = some key.nameSpace ∧ secret.metadata.name = some key.name := by
  rw [Secret.key?] at hkey
  split at hkey
  · next hnameSpace hname =>
    cases hkey
    exact ⟨hnameSpace, hname⟩
  · cases hkey

/-- The request to create a Secret. -/
theorem request_createSecret (hkey : secret.key? = some key) (h : (Place.secret key).IsNamed) :
    request (.createSecret secret) =
      .ok (Place.writeRequest "POST" (Place.secret key).collection secret.toJson) := by
  obtain ⟨hnameSpace, -⟩ := metadata_of_key? hkey
  rw [request, ← build_append_writeQuery (Place.all_isPathChar_collection h),
    Place.collection_secret, hnameSpace, Option.getD_some]

/-- The request to replace a Secret. -/
theorem request_replaceSecret (hkey : secret.key? = some key) (h : (Place.secret key).IsNamed) :
    request (.replaceSecret secret) =
      .ok (Place.writeRequest "PUT" (Place.secret key).path secret.toJson) := by
  obtain ⟨hnameSpace, hname⟩ := metadata_of_key? hkey
  rw [request, hnameSpace, hname, Option.getD_some, Option.getD_some, objectPath_eq h.2,
    ← build_append_writeQuery (Place.all_isPathChar_path h), Place.path_secret]
  simp only [bind, Except.bind]

theorem request_getConsumer (h : (Place.consumer consumer).IsNamed) :
    request (.getConsumer consumer) = .ok (Place.consumer consumer).getRequest := by
  rw [request, objectPath_eq h, ← build_path h, Place.path_consumer]
  simp only [bind, Except.bind]

/-- The request to replace the object of a consumer. -/
theorem request_replaceConsumer {json : Json} (h : (Place.consumer consumer).IsNamed)
    (hjson : object.toJson? = some json) : request (.replaceConsumer consumer object) =
      .ok (Place.writeRequest "PUT" (Place.consumer consumer).path json) := by
  rw [request, objectJson, hjson, objectPath_eq h,
    ← build_append_writeQuery (Place.all_isPathChar_path h), Place.path_consumer]
  simp only [bind, Except.bind]

end ApiClient

/-! ### What a server promises -/

namespace ApiRequest

/-- Does the request ask for what is at the place? -/
structure Reads (request : ApiRequest) (place : Place) : Prop where
  named : place.IsNamed
  method : request.method = "GET"
  path : request.target.path = place.path

/-- Does the request ask to create an object at the place? -/
structure Creates (request : ApiRequest) (place : Place) (json : Json) : Prop where
  named : place.IsNamed
  method : request.method = "POST"
  path : request.target.path = place.collection
  body : request.body = some json
  proper : json.IsProper
  said : place.IsSaidBy json

/-- Does the request ask to replace the object at the place, if that has the version? -/
structure Replaces (request : ApiRequest) (place : Place) (json version : Json) : Prop where
  named : place.IsNamed
  method : request.method = "PUT"
  path : request.target.path = place.path
  body : request.body = some json
  proper : json.IsProper
  said : place.IsSaidBy json
  basis : json.version? = some version

end ApiRequest

/-- Does the response hand out an object? -/
def ApiResponse.HandsOut (response : ApiResponse) (json : Json) : Prop :=
  ∃ status body, response = .answered status body ∧ status < 400 ∧ Json.parse? body = some json

/-- Is the response a refusal with a number and a reason? -/
def ApiResponse.IsRefusal (response : ApiResponse) (code : Nat) (reason : String) : Prop :=
  ∃ body status, response = .answered code body ∧
    (Json.parse? body).bind ApiClient.status? = some status ∧ status.reason = reason

section Server

variable {τ : Type} (respond : ApiRequest → τ → ApiResponse × τ)
  (object? : τ → Place → Option Json)

/-- The server hands out an object and changes nothing. -/
def Shows (request : ApiRequest) (state : τ) (json : Json) : Prop :=
  (respond request state).1.HandsOut json ∧ object? (respond request state).2 = object? state

/-- The server refuses and changes nothing. -/
def Refuses (request : ApiRequest) (state : τ) (code : Nat) (reason : String) : Prop :=
  (respond request state).1.IsRefusal code reason ∧
    object? (respond request state).2 = object? state

/-- The server puts an object at a place, as a new version. -/
def Accepts (request : ApiRequest) (state : τ) (place : Place) (json : Json) : Prop :=
  ∃ version, (object? state place).bind Json.version? ≠ some (.string version) ∧
    (respond request state).1.HandsOut (json.setVersion version) ∧
    object? (respond request state).2 =
      Function.update (object? state) place (some (json.setVersion version))

/-- Does the server keep one versioned object at each place? -/
structure IsApiServer : Prop where
  reads_missing : ∀ request state place, request.Reads place → object? state place = none →
    Refuses respond object? request state 404 ApiClient.notFoundReason
  reads : ∀ request state place json, request.Reads place → object? state place = some json →
    json.IsProper → Shows respond object? request state json
  creates : ∀ request state place body, request.Creates place body → object? state place = none →
    Accepts respond object? request state place body
  creates_existing : ∀ request state place body, request.Creates place body →
    (object? state place).isSome → Refuses respond object? request state 409 "AlreadyExists"
  replaces_missing : ∀ request state place body version, request.Replaces place body version →
    object? state place = none →
    Refuses respond object? request state 404 ApiClient.notFoundReason
  replaces_outdated : ∀ request state place body version json,
    request.Replaces place body version → object? state place = some json →
    json.version? ≠ some version → Refuses respond object? request state 409 "Conflict"
  replaces : ∀ request state place body version json, request.Replaces place body version →
    object? state place = some json → json.version? = some version →
    Accepts respond object? request state place body

end Server

/-! ### What the client makes of it -/

namespace ApiClient

variable {α : Type} {read : Json → Option α} {response : ApiResponse} {json : Json} {value : α}

theorem readResponse_of_handsOut (h : response.HandsOut json) (hread : read json = some value) :
    readResponse read response = .ok value := by
  obtain ⟨status, body, rfl, hstatus, hbody⟩ := h
  rw [readResponse, if_neg (by omega), hbody, Option.bind_some, hread]

theorem orMissing_of_isRefusal (h : response.IsRefusal 404 notFoundReason) :
    orMissing (readResponse read response) = .ok none := by
  obtain ⟨body, status, rfl, hbody, hreason⟩ := h
  rw [readResponse, if_pos (by omega), refusal, hbody]
  exact if_pos hreason

variable {τ : Type} {respond : ApiRequest → τ → ApiResponse × τ}
  {object? : τ → Place → Option Json} {state : τ} {key : SecretKey} {secret : Secret}
  {consumer : Consumer} {object : ConsumerObject}

/-! ### Reading -/

variable {place : Place}

/-- What is not at a place is read as missing, and nothing changes. -/
theorem orMissing_getRequest_missing (hserver : IsApiServer respond object?)
    (hnamed : place.IsNamed) (hmissing : object? state place = none) :
    orMissing (readResponse read (respond place.getRequest state).1) = .ok none ∧
      object? (respond place.getRequest state).2 = object? state := by
  obtain ⟨hrefusal, hkept⟩ :=
    hserver.reads_missing place.getRequest state place ⟨hnamed, rfl, rfl⟩ hmissing
  exact ⟨orMissing_of_isRefusal hrefusal, hkept⟩

/-- What is at a place is read, and nothing changes. -/
theorem orMissing_getRequest (hserver : IsApiServer respond object?) (hnamed : place.IsNamed)
    (hobject : object? state place = some json) (hproper : json.IsProper)
    (hread : read json = some value) :
    orMissing (readResponse read (respond place.getRequest state).1) = .ok (some value) ∧
      object? (respond place.getRequest state).2 = object? state := by
  obtain ⟨hgiven, hkept⟩ :=
    hserver.reads place.getRequest state place json ⟨hnamed, rfl, rfl⟩ hobject hproper
  rw [readResponse_of_handsOut hgiven hread]
  exact ⟨rfl, hkept⟩

/-- **A Secret that is missing is read as missing.** -/
theorem answer_getSecret_missing (hserver : IsApiServer respond object?)
    (hnamed : (Place.secret key).IsNamed) (hmissing : object? state (.secret key) = none) :
    (answer respond (.getSecret key) state).1 = .ok none ∧
      object? (answer respond (.getSecret key) state).2 = object? state := by
  rw [answer, request_getSecret hnamed]
  exact orMissing_getRequest_missing hserver hnamed hmissing

/-- **A Secret that is there is read as the server keeps it.** -/
theorem answer_getSecret (hserver : IsApiServer respond object?)
    (hnamed : (Place.secret key).IsNamed) (hobject : object? state (.secret key) = some json)
    (hproper : json.IsProper) (hread : Secret.ofJson? json = some secret) :
    (answer respond (.getSecret key) state).1 = .ok (some secret) ∧
      object? (answer respond (.getSecret key) state).2 = object? state := by
  rw [answer, request_getSecret hnamed]
  exact orMissing_getRequest hserver hnamed hobject hproper hread

/-- **A consumer that is missing is read as missing.** -/
theorem answer_getConsumer_missing (hserver : IsApiServer respond object?)
    (hnamed : (Place.consumer consumer).IsNamed)
    (hmissing : object? state (.consumer consumer) = none) :
    (answer respond (.getConsumer consumer) state).1 = .ok none ∧
      object? (answer respond (.getConsumer consumer) state).2 = object? state := by
  rw [answer, request_getConsumer hnamed]
  exact orMissing_getRequest_missing hserver hnamed hmissing

/-- **A consumer that is there is read as the server keeps it.** -/
theorem answer_getConsumer (hserver : IsApiServer respond object?)
    (hnamed : (Place.consumer consumer).IsNamed)
    (hobject : object? state (.consumer consumer) = some json) (hproper : json.IsProper)
    (hread : ConsumerObject.ofJson? json = some object) :
    (answer respond (.getConsumer consumer) state).1 = .ok (some object) ∧
      object? (answer respond (.getConsumer consumer) state).2 = object? state := by
  rw [answer, request_getConsumer hnamed]
  exact orMissing_getRequest hserver hnamed hobject hproper hread

/-! ### Writing -/

/-- Does nothing change but the place, at which the object is left with some version? -/
def Leaves (object? : τ → Place → Option Json) (read : Json → Option α) (state state' : τ)
    (place : Place) (withVersion : Option String → α) : Prop :=
  ∃ stored version, object? state' = Function.update (object? state) place (some stored) ∧
    stored.IsProper ∧ read stored = some (withVersion (some version))

/-- An object that is accepted is left at its place with some version, and the client has succeeded.
-/
theorem map_readResponse_of_accepts {request : ApiRequest} {withVersion : Option String → α}
    {metadata : Json} (haccepts : Accepts respond object? request state place json)
    (hproper : json.IsProper) (hmetadata : json.get? "metadata" = some metadata)
    (hread : ∀ version, read (json.setVersion version) = some (withVersion (some version))) :
    (readResponse read (respond request state).1).map (fun _ ↦ ()) = .ok () ∧
      Leaves object? read state (respond request state).2 place withVersion := by
  obtain ⟨version, -, hgiven, hstored⟩ := haccepts
  rw [readResponse_of_handsOut hgiven (hread version)]
  exact ⟨rfl, _, version, hstored, hproper.setVersion hmetadata, hread version⟩

/-- What a Secret says of its place is in its JSON. -/
theorem isSaidBy_toJson (h : secret.IsExpressible) (hkey : secret.key? = some key) :
    (Place.secret key).IsSaidBy secret.toJson := by
  obtain ⟨hnameSpace, hname⟩ := metadata_of_key? hkey
  refine ⟨h.metadata.metadataField? h.get?_metadata ?_,
    h.metadata.metadataField? h.get?_metadata ?_⟩
  · simp [Metadata.own, hnameSpace]
  · simp [Metadata.own, hname]

/-- **A Secret that is missing is created.** -/
theorem answer_createSecret (hserver : IsApiServer respond object?)
    (hnamed : (Place.secret key).IsNamed) (hkey : secret.key? = some key)
    (h : secret.IsExpressible) (hmissing : object? state (.secret key) = none) :
    (answer respond (.createSecret secret) state).1 = .ok () ∧
      Leaves object? Secret.ofJson? state (answer respond (.createSecret secret) state).2
        (.secret key) secret.withVersion := by
  have haccepts := hserver.creates
    (Place.writeRequest "POST" (Place.secret key).collection secret.toJson) state (.secret key)
    secret.toJson ⟨hnamed, rfl, rfl, rfl, h.isProper_toJson, isSaidBy_toJson h hkey⟩ hmissing
  rw [answer, request_createSecret hkey hnamed]
  exact map_readResponse_of_accepts haccepts h.isProper_toJson h.get?_metadata
    (Secret.ofJson?_setVersion (Secret.ofJson?_toJson h) h.get?_metadata)

/-- **A Secret with the version that is there is replaced.** -/
theorem answer_replaceSecret {version : String} (hserver : IsApiServer respond object?)
    (hnamed : (Place.secret key).IsNamed) (hkey : secret.key? = some key)
    (h : secret.IsExpressible) (hobject : object? state (.secret key) = some json)
    (hbasis : secret.metadata.resourceVersion = some version)
    (hversion : json.version? = some (.string version)) :
    (answer respond (.replaceSecret secret) state).1 = .ok () ∧
      Leaves object? Secret.ofJson? state (answer respond (.replaceSecret secret) state).2
        (.secret key) secret.withVersion := by
  have hsays : secret.toJson.version? = some (.string version) :=
    h.metadata.metadataField? h.get?_metadata (by simp [Metadata.own, hbasis])
  have haccepts := hserver.replaces
    (Place.writeRequest "PUT" (Place.secret key).path secret.toJson) state (.secret key)
    secret.toJson _ json ⟨hnamed, rfl, rfl, rfl, h.isProper_toJson, isSaidBy_toJson h hkey, hsays⟩
    hobject hversion
  rw [answer, request_replaceSecret hkey hnamed]
  exact map_readResponse_of_accepts haccepts h.isProper_toJson h.get?_metadata
    (Secret.ofJson?_setVersion (Secret.ofJson?_toJson h) h.get?_metadata)

/-- **A consumer with the version that is there is replaced.** -/
theorem answer_replaceConsumer {version : String} (hserver : IsApiServer respond object?)
    (hnamed : (Place.consumer consumer).IsNamed) (hname : object.metadata.name = some consumer.name)
    (h : object.IsExpressible) (hobject : object? state (.consumer consumer) = some json)
    (hbasis : object.metadata.resourceVersion = some version)
    (hversion : json.version? = some (.string version)) :
    (answer respond (.replaceConsumer consumer object) state).1 = .ok () ∧
      Leaves object? ConsumerObject.ofJson? state
        (answer respond (.replaceConsumer consumer object) state).2 (.consumer consumer)
        object.withVersion := by
  obtain ⟨written, hjson, hread, hproper, hmetadata⟩ := h.exists_toJson?
  have hsays : written.version? = some (.string version) :=
    h.metadata.metadataField? hmetadata (by simp [Metadata.own, hbasis])
  have hsaid : (Place.consumer consumer).IsSaidBy written :=
    h.metadata.metadataField? hmetadata (by simp [Metadata.own, hname])
  have haccepts := hserver.replaces
    (Place.writeRequest "PUT" (Place.consumer consumer).path written) state (.consumer consumer)
    written _ json ⟨hnamed, rfl, rfl, rfl, hproper, hsaid, hsays⟩ hobject hversion
  rw [answer, request_replaceConsumer hnamed hjson]
  exact map_readResponse_of_accepts haccepts hproper hmetadata
    (ConsumerObject.ofJson?_setVersion hread hmetadata)

end ApiClient

end WebhookTrust
