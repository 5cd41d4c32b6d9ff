import WebhookTrust.Json.Canonical
import WebhookTrust.Store.ApiClient

/-!
# An API server in memory

The server keeps one object a path, and gives it a new version whenever it changes. A write that
changes nothing is accepted and forgotten; one that is based on an outdated version is refused, and
one that names no version is not. Every change is remembered, for those who watch.

It is what the program is run against, with the details that such runs can see: paths can be made to
fail, objects can be deleted, and refusals carry their status as JSON. What a client may count on is
less, and is said of any server in `WebhookTrust.Proofs.Places`.
-/

namespace WebhookTrust

/-- A change: the object at a path before it was deleted, or as it is now. -/
structure ApiChange where
  path : String
  object : Json
  isDeletion : Bool
deriving DecidableEq, Repr

/-- A server: its objects with their paths, the last version that was given, the paths that do not
answer, and the changes, the last one first. -/
structure ApiServer where
  objects : List (String × Json)
  version : Nat
  broken : List String
  changes : List ApiChange
deriving DecidableEq, Repr, Inhabited

namespace ApiServer

/-- A server without objects. -/
def empty : ApiServer := ⟨[], 0, [], []⟩

/-! ### Objects -/

/-- A field of the metadata of an object. -/
def metadataField? (object : Json) (key : String) : Option Json :=
  (object.get? "metadata").bind (·.get? key)

/-- The object with a field of its metadata set. -/
def setMetadataField (object : Json) (key : String) (value : Json) : Json :=
  object.put "metadata" (((object.get? "metadata").getD (.object [])).put key value)

/-- The object without a version, in canonical form. -/
def unversioned (object : Json) : Json :=
  let metadata : List (String × Json) := ((object.get? "metadata").bind Json.members?).getD []
  (object.put "metadata" (.object (Assoc.erase "resourceVersion" metadata))).canonical

/-- Stores an object at a path, as a new version if it is not the one that is there. -/
def store (server : ApiServer) (path : String) (object : Json) : ApiServer :=
  let isSame := (Assoc.get? path server.objects).any (unversioned · = unversioned object)
  if isSame then server
  else
    let version := server.version + 1
    let object := setMetadataField object "resourceVersion" (.string (Nat.repr version))
    { server with
      objects := Assoc.put path object server.objects
      version := version
      changes := ⟨path, object, false⟩ :: server.changes }

/-- Deletes the object at a path. -/
def delete (server : ApiServer) (path : String) : ApiServer :=
  match Assoc.get? path server.objects with
  | none => server
  | some object =>
    { server with
      objects := Assoc.erase path server.objects
      changes := ⟨path, object, true⟩ :: server.changes }

/-- Makes the server fail at a path. -/
def breakPath (server : ApiServer) (path : String) : ApiServer :=
  { server with broken := path :: server.broken }

/-- Makes the server answer at all paths again. -/
def mend (server : ApiServer) : ApiServer := { server with broken := [] }

/-! ### Requests -/

/-- A refusal. -/
def refuse (code : Nat) (reason message : String) : ApiResponse :=
  .answered code <| Json.text <| .object [("kind", .string "Status"), ("apiVersion", .string "v1"),
    ("status", .string "Failure"), ("message", .string message), ("reason", .string reason),
    ("code", .ofNat code)]

/-- There is nothing at the path. -/
def notFound (path : String) : ApiResponse :=
  refuse 404 ApiClient.notFoundReason (path ++ " not found")

/-- There is something in the way. -/
def conflict (reason path : String) : ApiResponse := refuse 409 reason (path ++ " is in conflict")

/-- Is an object based on the version that is there? One that does not say is. -/
def isCurrent (stored object : Json) : Bool :=
  (metadataField? object "resourceVersion").all fun version ↦
    metadataField? stored "resourceVersion" = some version

/-- The response with the object at a path. -/
def respondWith (code : Nat) (server : ApiServer) (path : String) : ApiResponse × ApiServer :=
  (.answered code ((Assoc.get? path server.objects).getD .null).text, server)

/-- Replaces the object at a path. -/
def replace (server : ApiServer) (path : String) (object : Json) : ApiResponse × ApiServer :=
  match Assoc.get? path server.objects with
  | none => (notFound path, server)
  | some stored =>
    if isCurrent stored object then respondWith 200 (server.store path object) path
    else (conflict "Conflict" path, server)

/-- Creates an object in the collection at a path. -/
def create (server : ApiServer) (collection : String) (object : Json) : ApiResponse × ApiServer :=
  match (metadataField? object "name").bind Json.string? with
  | none => (refuse 422 "Invalid" "name is required", server)
  | some name =>
    let path := collection ++ "/" ++ name
    if (Assoc.get? path server.objects).isSome then (conflict "AlreadyExists" path, server)
    else respondWith 201 (server.store path object) path

/-- The response to a request. -/
def respond (request : ApiRequest) (server : ApiServer) : ApiResponse × ApiServer :=
  let path := request.target.path
  let body := request.body.getD .null
  if path ∈ server.broken then (refuse 500 "InternalError" "broken", server)
  else if request.method = "GET" then
    if (Assoc.get? path server.objects).isSome then respondWith 200 server path
    else (notFound path, server)
  else if request.method = "PUT" then server.replace path body
  else server.create path body

end ApiServer

end WebhookTrust
