import WebhookTrust.Proofs.Places

/-!
# A server that keeps what it is given

The server keeps an object a path and counts the versions that it gave. It is the smallest server
that is one as the client expects it, and shows that what is assumed of servers can be had.

* `Place.path_injective`: **places with valid names have different paths.** A name has no slash, so
  it is what stands behind the last slash of its path, and the collections differ in their segments.
* `ObjectServer.isApiServer`: **the server keeps one versioned object at each place**: it reads what
  is there and refuses what is missing, creates where there is nothing, and replaces on the ground
  of the version that is there only. It goes by the three sorts of requests, each of which finds its
  way through `ObjectServer.respond` (`ObjectServer.respond_of_reads`,
  `ObjectServer.respond_of_replaces`, `ObjectServer.respond_of_creates`).
* `ObjectServer.version?_ne_nextVersion`: a version that is given is another one than the one which
  is there. This is what makes it refuse writers that come too late.

Watches, deletion and whatever else a cluster does to objects are left out, since the client of
checks and passes asks for none of it.
-/

namespace WebhookTrust

/-! ### Paths -/

theorem ApiClient.consumersPath_injective : Function.Injective consumersPath := by
  have hkinds : ∀ kind ∈ ConsumerKind.all, ∀ kind' ∈ ConsumerKind.all,
      consumersPath kind = consumersPath kind' → kind = kind' := by decide
  exact fun kind kind' ↦ hkinds kind kind.mem_all kind' kind'.mem_all

namespace Place

variable {place other : Place}

theorem slash_notMem {name : String} (h : IsObjectName name) : '/' ∉ name.toList := by
  have hslash : '/' ∉ nameChars := by decide
  exact fun hmem ↦ hslash (h.2 '/' hmem)

/-- What stands in front of the last slash of a path and behind it. -/
theorem cutAt?_path (h : place.IsNamed) : cutAt? '/' place.path.toList.reverse =
    some (place.name.toList.reverse, place.collection.toList.reverse) := by
  have hpath : place.path.toList.reverse =
      place.name.toList.reverse ++ '/' :: place.collection.toList.reverse := by
    simp [path, String.toList_append]
  rw [hpath, cutAt?_append]
  exact fun hmem ↦ slash_notMem h.name (List.mem_reverse.1 hmem)

theorem toList_collection_secret (key : SecretKey) : (secret key).collection.toList =
    "/api/v1/namespaces/".toList ++ (key.nameSpace.toList ++ "/secrets".toList) := by
  show ("/api/v1/namespaces/" ++ key.nameSpace ++ "/secrets").toList = _
  rw [String.toList_append, String.toList_append, List.append_assoc]

/-- Secrets are in other collections than consumers. -/
theorem collection_secret_ne (key : SecretKey) (declared : Consumer) :
    (secret key).collection ≠ (Place.consumer declared).collection := by
  intro heq
  -- the two paths begin with the same four characters
  have hsecret : (secret key).collection.toList[4]? = some '/' := by
    rw [toList_collection_secret, List.getElem?_append_left (by decide)]
    rfl
  have hconsumer : ∀ kind ∈ ConsumerKind.all,
      (ApiClient.consumersPath kind).toList[4]? = some 's' := by decide
  rw [heq, collection, hconsumer declared.kind declared.kind.mem_all] at hsecret
  cases hsecret

/-- A place is known by its collection and its name. -/
theorem eq_of_collection_eq (hcollection : place.collection = other.collection)
    (hname : place.name = other.name) : place = other := by
  cases place with
  | secret key =>
    cases other with
    | secret key' =>
      have hlists := congrArg String.toList hcollection
      rw [toList_collection_secret, toList_collection_secret, List.append_cancel_left_eq,
        List.append_cancel_right_eq, String.toList_inj] at hlists
      obtain ⟨nameSpace, name⟩ := key
      cases hlists
      cases hname
      rfl
    | consumer declared => exact (collection_secret_ne key declared hcollection).elim
  | consumer declared =>
    cases other with
    | secret key => exact (collection_secret_ne key declared hcollection.symm).elim
    | consumer declared' =>
      obtain ⟨kind, name⟩ := declared
      obtain ⟨kind', name'⟩ := declared'
      obtain rfl : kind = kind' := ApiClient.consumersPath_injective hcollection
      obtain rfl : name = name' := hname
      rfl

/-- **Places with valid names have different paths.** -/
theorem path_injective (h : place.IsNamed) (h' : other.IsNamed) (hpath : place.path = other.path) :
    place = other := by
  have hcut := cutAt?_path h
  rw [hpath, cutAt?_path h', Option.some.injEq, Prod.mk.injEq, List.reverse_inj, List.reverse_inj,
    String.toList_inj, String.toList_inj] at hcut
  exact eq_of_collection_eq hcut.2.symm hcut.1.symm

instance (place : Place) : Decidable place.IsNamed := by
  cases place with
  | secret key => exact inferInstanceAs (Decidable (_ ∧ _))
  | consumer declared => exact inferInstanceAs (Decidable (IsObjectName declared.name))

end Place

/-! ### Versions -/

/-- JSON with another version says that version, if it says any. -/
theorem Json.eq_of_version?_setVersion {json value : Json} {version : String}
    (h : (json.setVersion version).version? = some value) : value = .string version := by
  cases json with
  | null | bool | number | string | array => cases h
  | object members =>
    rw [version?, ApiServer.metadataField?, setVersion, ApiServer.setMetadataField, put, get?,
      Assoc.get?_put_self, Option.bind_some] at h
    cases hmetadata : ((object members).get? "metadata").getD (object []) with
    | null | bool | number | string | array =>
      rw [hmetadata] at h
      cases h
    | object fields =>
      rw [hmetadata, put, get?, Assoc.get?_put_self] at h
      exact (Option.some.inj h).symm

/-! ### The server -/

/-- A server: its objects with their paths, and the last version that it gave. -/
structure ObjectServer where
  objects : List (String × Json)
  version : Nat
  /-- No object has a version that was not given yet. -/
  isGiven : ∀ path json n, Assoc.get? path objects = some json →
    json.version? = some (.string (Nat.repr n)) → n ≤ version

namespace ObjectServer

/-- A server without objects. -/
def empty : ObjectServer := ⟨[], 0, nofun⟩

/-- What is kept at a place. -/
def object? (server : ObjectServer) (place : Place) : Option Json :=
  if place.IsNamed then Assoc.get? place.path server.objects else none

/-- The version that is given next. -/
def nextVersion (server : ObjectServer) : String := Nat.repr (server.version + 1)

/-- Keeps an object at a path, as a new version. -/
def store (server : ObjectServer) (path : String) (json : Json) : ObjectServer where
  objects := Assoc.put path (json.setVersion server.nextVersion) server.objects
  version := server.version + 1
  isGiven other stored n hget hversion := by
    rw [Assoc.get?_put] at hget
    split at hget
    · cases hget
      have hrepr := Json.string.inj (Json.eq_of_version?_setVersion hversion)
      exact (repr_injective hrepr).le
    · exact (server.isGiven other stored n hget hversion).trans (Nat.le_succ _)

/-- Accepts an object at a path. -/
def accept (server : ObjectServer) (code : Nat) (path : String) (json : Json) :
    ApiResponse × ObjectServer :=
  (.answered code (json.setVersion server.nextVersion).text, server.store path json)

/-- Hands out the object at a path. -/
def read (server : ObjectServer) (path : String) : ApiResponse × ObjectServer :=
  match Assoc.get? path server.objects with
  | none => (ApiServer.notFound path, server)
  | some json => (.answered 200 json.text, server)

/-- Replaces the object at a path, unless the new one is based on another version. -/
def replace (server : ObjectServer) (path : String) (json : Json) : ApiResponse × ObjectServer :=
  match Assoc.get? path server.objects with
  | none => (ApiServer.notFound path, server)
  | some stored =>
    if ApiServer.isCurrent stored json then server.accept 200 path json
    else (ApiServer.conflict "Conflict" path, server)

/-- Creates an object in the collection at a path. -/
def create (server : ObjectServer) (collection : String) (json : Json) :
    ApiResponse × ObjectServer :=
  match (ApiServer.metadataField? json "name").bind Json.string? with
  | none => (ApiServer.refuse 422 "Invalid" "name is required", server)
  | some name =>
    let path := collection ++ "/" ++ name
    if (Assoc.get? path server.objects).isSome then
      (ApiServer.conflict "AlreadyExists" path, server)
    else server.accept 201 path json

/-- The response to a request. -/
def respond (request : ApiRequest) (server : ObjectServer) : ApiResponse × ObjectServer :=
  let body := request.body.getD .null
  if request.method = "GET" then server.read request.target.path
  else if request.method = "PUT" then server.replace request.target.path body
  else server.create request.target.path body

/-! ### What it promises -/

variable {server : ObjectServer} {place : Place} {json : Json} {path : String}

theorem object?_of_isNamed (h : place.IsNamed) :
    server.object? place = Assoc.get? place.path server.objects := if_pos h

theorem object?_empty (place : Place) : empty.object? place = none := ite_self none

/-- An object that is kept at a path is kept there, with the next version, and nowhere else. -/
theorem object?_store (h : place.IsNamed) (json : Json) : (server.store place.path json).object? =
    Function.update server.object? place (some (json.setVersion server.nextVersion)) := by
  funext other
  by_cases hother : other.IsNamed
  · rw [object?_of_isNamed hother, store, Assoc.get?_put]
    by_cases heq : other = place
    · subst heq
      rw [if_pos rfl, Function.update_self]
    · rw [if_neg fun hpath ↦ heq (Place.path_injective hother h hpath), Function.update_of_ne heq,
        object?_of_isNamed hother]
  · have hne : other ≠ place := fun heq ↦ hother (heq ▸ h)
    rw [Function.update_of_ne hne, object?, object?, if_neg hother, if_neg hother]

/-- A version that is given is another one than that which is there. -/
theorem version?_ne_nextVersion :
    (server.object? place).bind Json.version? ≠ some (.string server.nextVersion) := by
  intro h
  obtain ⟨stored, hstored, hversion⟩ := Option.bind_eq_some_iff.1 h
  rw [object?] at hstored
  split at hstored
  · have hle := server.isGiven _ stored _ hstored hversion
    omega
  · cases hstored

theorem handsOut_text {status : Nat} (hstatus : status < 400) (h : json.IsProper) :
    (ApiResponse.answered status json.text).HandsOut json :=
  ⟨status, json.text, rfl, hstatus, Json.parse?_text h⟩

/-- The members of the status that a refusal says. -/
def statusMembers (code : Nat) (reason message : String) : List (String × Json) :=
  [("kind", .string "Status"), ("apiVersion", .string "v1"), ("status", .string "Failure"),
    ("message", .string message), ("reason", .string reason), ("code", .ofNat code)]

/-- The status that a refusal says has no key twice. -/
theorem isProper_statusMembers {code : Nat} (hcode : code ∈ [404, 409]) (reason message : String) :
    (Json.object (statusMembers code reason message)).IsProper := by
  have hkeys : ["kind", "apiVersion", "status", "message", "reason", "code"].Nodup := by decide
  have hnumber : ∀ code ∈ [404, 409],
      Json.number? (Nat.repr code).toList = some (.number (Nat.repr code), []) := by decide
  refine .object hkeys ?_
  simp only [statusMembers, List.forall_mem_cons]
  exact ⟨.string _, .string _, .string _, .string _, .string _, .number (hnumber code hcode), nofun⟩

/-- A refusal is one, with its number and reason. -/
theorem isRefusal_refuse {code : Nat} (hcode : code ∈ [404, 409]) (reason message : String) :
    (ApiServer.refuse code reason message).IsRefusal code reason := by
  have hvalue : ∀ code ∈ [404, 409], (Json.ofNat code).nat?.filter (· < Nat.pow 2 16) =
    some code := by decide
  have hstatus : ApiClient.status? (.object (statusMembers code reason message)) =
      some ⟨"Failure", message, reason, code⟩ := by
    show (ApiClient.code? (.ofNat code)).bind
      (fun code ↦ some (⟨"Failure", message, reason, code⟩ : ApiStatus)) = _
    rw [ApiClient.code?, hvalue code hcode, Option.bind_some]
  refine ⟨(Json.object (statusMembers code reason message)).text,
    ⟨"Failure", message, reason, code⟩, rfl, ?_, rfl⟩
  rw [Json.parse?_text (isProper_statusMembers hcode reason message), Option.bind_some, hstatus]

variable {request : ApiRequest}

/-- An object that says what its place is has metadata. -/
theorem get?_metadata_of_isSaidBy (h : place.IsSaidBy json) :
    ∃ metadata, json.get? "metadata" = some metadata := by
  have hname : ∃ name, ApiServer.metadataField? json "name" = some name := by
    cases place with
    | secret key => exact ⟨_, h.2⟩
    | consumer declared => exact ⟨_, h⟩
  obtain ⟨_, hname⟩ := hname
  obtain ⟨metadata, hmetadata, -⟩ := Option.bind_eq_some_iff.1 hname
  exact ⟨metadata, hmetadata⟩

/-- A request that is accepted by the server is accepted as promised. -/
theorem accepts_of_respond_eq {code : Nat} (hcode : code < 400) (hnamed : place.IsNamed)
    (hproper : json.IsProper) (hsaid : place.IsSaidBy json)
    (hrespond : respond request server = server.accept code place.path json) :
    Accepts respond object? request server place json := by
  obtain ⟨metadata, hmetadata⟩ := get?_metadata_of_isSaidBy hsaid
  rw [Accepts, hrespond]
  exact ⟨server.nextVersion, version?_ne_nextVersion,
    handsOut_text hcode (hproper.setVersion hmetadata), object?_store hnamed json⟩

theorem refuses_of_respond_eq {code : Nat} {reason message : String} (hcode : code ∈ [404, 409])
    (hrespond : respond request server = (ApiServer.refuse code reason message, server)) :
    Refuses respond object? request server code reason := by
  rw [Refuses, hrespond]
  exact ⟨isRefusal_refuse hcode reason message, rfl⟩

theorem respond_of_reads (h : request.Reads place) :
    respond request server = server.read place.path := by
  rw [respond, if_pos h.method, h.path]

theorem respond_of_replaces {version : Json} (h : request.Replaces place json version) :
    respond request server = server.replace place.path json := by
  rw [respond, h.method, if_neg (by decide), if_pos rfl, h.path, h.body, Option.getD_some]

/-- A request to create is refused if something is there. -/
theorem respond_of_creates (h : request.Creates place json) : respond request server =
    if (server.object? place).isSome then (ApiServer.conflict "AlreadyExists" place.path, server)
    else server.accept 201 place.path json := by
  have hname : (ApiServer.metadataField? json "name").bind Json.string? = some place.name := by
    cases place with
    | secret key => rw [h.said.2]; rfl
    | consumer declared => rw [show ApiServer.metadataField? json "name" = _ from h.said]; rfl
  rw [respond, h.method, if_neg (by decide), if_neg (by decide), h.path, h.body, Option.getD_some,
    create, hname, object?_of_isNamed h.named]
  rfl

theorem isCurrent_iff {stored version : Json} (h : json.version? = some version) :
    ApiServer.isCurrent stored json = true ↔ stored.version? = some version := by
  rw [Json.version?] at h
  rw [ApiServer.isCurrent, h, Option.all_some, decide_eq_true_iff, Json.version?]

/-- **The server keeps one versioned object at each place.** -/
theorem isApiServer : IsApiServer respond object? where
  reads_missing request server place h hmissing := by
    rw [object?_of_isNamed h.named] at hmissing
    have hrespond : respond request server = (ApiServer.notFound place.path, server) := by
      rw [respond_of_reads h, read, hmissing]
    exact refuses_of_respond_eq (by decide) hrespond
  reads request server place json h hobject hproper := by
    rw [object?_of_isNamed h.named] at hobject
    rw [Shows, respond_of_reads h, read, hobject]
    exact ⟨handsOut_text (by decide) hproper, rfl⟩
  creates request server place json h hmissing := by
    have hrespond : respond request server = server.accept 201 place.path json := by
      rw [respond_of_creates h, hmissing, Option.isSome_none, if_neg Bool.false_ne_true]
    exact accepts_of_respond_eq (by decide) h.named h.proper h.said hrespond
  creates_existing request server place json h hsome :=
    refuses_of_respond_eq (by decide) ((respond_of_creates h).trans (if_pos hsome))
  replaces_missing request server place json version h hmissing := by
    rw [object?_of_isNamed h.named] at hmissing
    have hrespond : respond request server = (ApiServer.notFound place.path, server) := by
      rw [respond_of_replaces h, replace, hmissing]
    exact refuses_of_respond_eq (by decide) hrespond
  replaces_outdated request server place json version stored h hobject hversion := by
    rw [object?_of_isNamed h.named] at hobject
    have hrespond : respond request server =
        (ApiServer.conflict "Conflict" place.path, server) := by
      rw [respond_of_replaces h, replace, hobject]
      exact if_neg fun hcurrent ↦ hversion ((isCurrent_iff h.basis).1 hcurrent)
    exact refuses_of_respond_eq (by decide) hrespond
  replaces request server place json version stored h hobject hversion := by
    rw [object?_of_isNamed h.named] at hobject
    have hrespond : respond request server = server.accept 200 place.path json := by
      rw [respond_of_replaces h, replace, hobject]
      exact if_pos ((isCurrent_iff h.basis).2 hversion)
    exact accepts_of_respond_eq (by decide) h.named h.proper h.said hrespond

end ObjectServer

end WebhookTrust
