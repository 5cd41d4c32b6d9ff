import WebhookTrust.Cluster.Manifest
import WebhookTrust.Http.Target
import WebhookTrust.Json.Parser
import WebhookTrust.Json.Printer
import WebhookTrust.Store.Call

/-!
# The store behind the API server

A call to the store is a request to the API server, and the reply to the call is read off the
response. A read of an object that is not there succeeds with nothing, going by the reason that the
server gives. What a write gives back has to be an object of the same kind, and is then forgotten.

* `ApiClient.request`: the request that a call makes, if its target can be spelled;
* `ApiClient.answer`: the reply to a call, by a server that responds to requests.

A replacement carries the version that was read, since it is part of the metadata; that a server
refuses outdated ones rests on nothing else. Connections, authentication and encodings of a message
are left to the client's library: here a request comes back with a status and a body, or with a
reason for which it did not.
-/

namespace WebhookTrust

/-- A request to the API server. -/
structure ApiRequest where
  method : String
  target : Http.Target
  contentType : Option String
  body : Option Json
deriving DecidableEq, Repr

/-- What comes back. -/
inductive ApiResponse where
  | answered (status : Nat) (body : String)
  /-- Nothing came back, for a reason. -/
  | failed (reason : String)
deriving DecidableEq, Repr

namespace ApiClient

/-! ### Requests -/

/-- The name that the program gives itself in writes. -/
def fieldManager : String := "certwarden"

/-- The path of the collection of Secrets of a namespace. -/
def secretsPath (nameSpace : String) : String := "/api/v1/namespaces/" ++ nameSpace ++ "/secrets"

/-- The path of the collection of consumers of a kind. -/
def consumersPath (kind : ConsumerKind) : String :=
  "/apis/" ++ kind.apiVersion ++ "/" ++ kind.plural

/-- The end of the target of a write. -/
def writeQuery : String := "?&fieldManager=" ++ fieldManager

/-- The error of a request that cannot be built. -/
def buildError (reason : String) : Error := .request ("Failed to build request: " ++ reason)

/-- A request, if its target is one. -/
def build (method target : String) (body : Option Json) : Except Error ApiRequest :=
  match Http.Target.parse? target with
  | none => .error (buildError "failed to build request: invalid uri character")
  | some target => .ok ⟨method, target, body.map fun _ ↦ "application/json", body⟩

/-- The path of an object of a collection, which has to have a name. -/
def objectPath (collection name : String) : Except Error String :=
  if name = "" then
    .error (buildError "failed to validate request: A non-empty name is required")
  else .ok (collection ++ "/" ++ name)

/-- The JSON of the object of a consumer. -/
def objectJson (object : ConsumerObject) : Except Error Json :=
  match object.toJson? with
  | some json => .ok json
  | none => .error .unreadableReply

/-- The request that a call makes. -/
def request : StoreCall → Except Error ApiRequest
  | .getSecret key => do
    build "GET" (← objectPath (secretsPath key.nameSpace) key.name) none
  | .createSecret secret =>
    build "POST" (secretsPath (secret.metadata.nameSpace.getD "") ++ writeQuery)
      (some secret.toJson)
  | .replaceSecret secret => do
    let path ← objectPath (secretsPath (secret.metadata.nameSpace.getD ""))
      (secret.metadata.name.getD "")
    build "PUT" (path ++ writeQuery) (some secret.toJson)
  | .getConsumer consumer => do
    build "GET" (← objectPath (consumersPath consumer.kind) consumer.name) none
  | .replaceConsumer consumer object => do
    let json ← objectJson object
    let path ← objectPath (consumersPath consumer.kind) consumer.name
    build "PUT" (path ++ writeQuery) (some json)

/-! ### Refusals -/

/-- The phrases that belong to the numbers of refusals. -/
def phrases : List (Nat × String) := [
  (400, "Bad Request"), (401, "Unauthorized"), (402, "Payment Required"), (403, "Forbidden"),
  (404, "Not Found"), (405, "Method Not Allowed"), (406, "Not Acceptable"),
  (407, "Proxy Authentication Required"), (408, "Request Timeout"), (409, "Conflict"),
  (410, "Gone"), (411, "Length Required"), (412, "Precondition Failed"),
  (413, "Payload Too Large"), (414, "URI Too Long"), (415, "Unsupported Media Type"),
  (416, "Range Not Satisfiable"), (417, "Expectation Failed"), (418, "I'm a teapot"),
  (421, "Misdirected Request"), (422, "Unprocessable Entity"), (423, "Locked"),
  (424, "Failed Dependency"), (425, "Too Early"), (426, "Upgrade Required"),
  (428, "Precondition Required"), (429, "Too Many Requests"),
  (431, "Request Header Fields Too Large"), (451, "Unavailable For Legal Reasons"),
  (500, "Internal Server Error"), (501, "Not Implemented"), (502, "Bad Gateway"),
  (503, "Service Unavailable"), (504, "Gateway Timeout"), (505, "HTTP Version Not Supported"),
  (506, "Variant Also Negotiates"), (507, "Insufficient Storage"), (508, "Loop Detected"),
  (510, "Not Extended"), (511, "Network Authentication Required")]

/-- The number and the phrase of a status. -/
def statusText (status : Nat) : String :=
  Nat.repr status ++ " " ++ (Assoc.get? status phrases).getD "<unknown status code>"

/-- The text of a field, empty if it is missing. -/
def textOrEmpty? (json : Json) (key : String) : Option String :=
  match json.get? key with
  | none => some ""
  | some value => value.string?

/-- The number of a status: it has 16 binary digits. -/
def code? (json : Json) : Option Nat := json.nat?.filter (· < Nat.pow 2 16)

/-- The status that JSON spells: an object, in which message and reason may be missing, or the list
of all four fields. -/
def status? : Json → Option ApiStatus
  | .array [.string status, .string message, .string reason, code] => do
    return ⟨status, message, reason, ← code? code⟩
  | json => do
    return ⟨← (← json.get? "status").string?, ← textOrEmpty? json "message",
      ← textOrEmpty? json "reason", ← code? (← json.get? "code")⟩

/-- What a refusal says; if that is no status, one is made up around it. -/
def refusal (status : Nat) (body : String) : ApiStatus :=
  match (Json.parse? body).bind status? with
  | some status => status
  | none => ⟨statusText status, Quoted.quote body, "Failed to parse error data", status⟩

/-! ### Replies -/

/-- What a response says, read in one way. -/
def readResponse {α : Type} (read : Json → Option α) : ApiResponse → Except Error α
  | .failed reason => .error (.transport reason)
  | .answered status body =>
    if 400 ≤ status ∧ status < 600 then .error (.api (refusal status body))
    else
      match (Json.parse? body).bind read with
      | some value => .ok value
      | none => .error .unreadableReply

/-- The reason that the server gives for an object that is not there. -/
def notFoundReason : String := "NotFound"

/-- A read of an object that is not there succeeds with nothing. -/
def orMissing {α : Type} : Except Error α → Except Error (Option α)
  | .ok value => .ok (some value)
  | .error (.api status) =>
    if status.reason = notFoundReason then .ok none else .error (.api status)
  | .error e => .error e

/-- The reply to a call that got a response. -/
def reply : (call : StoreCall) → ApiResponse → call.Reply
  | .getSecret _, response => orMissing (readResponse Secret.ofJson? response)
  | .createSecret _, response | .replaceSecret _, response =>
    (readResponse Secret.ofJson? response).map fun _ ↦ ()
  | .getConsumer _, response => orMissing (readResponse ConsumerObject.ofJson? response)
  | .replaceConsumer .., response =>
    (readResponse ConsumerObject.ofJson? response).map fun _ ↦ ()

/-- Answers a call with what a server gives for its request. -/
def answer {σ : Type} (server : ApiRequest → σ → ApiResponse × σ) (call : StoreCall) (state : σ) :
    call.Reply × σ :=
  match request call with
  | .error e => (.error e, state)
  | .ok request =>
    let (response, state) := server request state
    (reply call response, state)

end ApiClient

end WebhookTrust
