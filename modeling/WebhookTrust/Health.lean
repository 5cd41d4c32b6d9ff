/-!
# Health endpoints

Two paths answer: one as soon as there is anybody to answer, the other with success only once
certificates are mounted and trusted. Whether they are is asked at every request anew, of the signal
that a rotator fires when it is ready.

Other paths are not found, and other methods than those that read are not allowed; of the server
that listens only these answers are modelled.
-/

namespace WebhookTrust.Health

/-- An answer, with the headers that matter. -/
structure Response where
  status : Nat
  body : String
  contentType : Option String
  allow : Option String
deriving DecidableEq, Repr

/-- A text. -/
def text (status : Nat) (body : String) : Response :=
  ⟨status, body, some "text/plain; charset=utf-8", none⟩

/-- Nothing is at this path. -/
def notFound : Response := ⟨404, "", none, none⟩

/-- The path can be read and nothing else. -/
def methodNotAllowed : Response := ⟨405, "", none, some "GET,HEAD"⟩

/-- What stands at a path. -/
def endpoint? (isReady : Bool) (path : String) : Option Response :=
  if path = "/healthz" then some (text 200 "ok")
  else if path = "/readyz" then
    some (if isReady then text 200 "ok" else text 503 "certificates not ready")
  else none

/-- The answer to a request; methods are told apart by case. -/
def respond (isReady : Bool) (method path : String) : Response :=
  match endpoint? isReady path with
  | none => notFound
  | some response =>
    if method = "GET" then response
    else if method = "HEAD" then { response with body := "" }
    else methodNotAllowed

end WebhookTrust.Health
