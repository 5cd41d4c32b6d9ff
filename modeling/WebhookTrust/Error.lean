import WebhookTrust.Cluster.Injection
import WebhookTrust.Cluster.Secret
import WebhookTrust.Text.Quoted

/-!
# Errors

What can go wrong while certificates are kept valid and trusted. An error is a cause with the data
that its text shows. Only two questions are asked of an error: whether it says that an object is not
there, and whether trying again can help, which it can unless the error is terminal.
-/

namespace WebhookTrust

/-- What the API server says about a request that it refuses. -/
structure ApiStatus where
  status : String
  message : String
  reason : String
  code : Nat
deriving DecidableEq, Repr, Inhabited

/-- Message and reason, and then the whole answer in full. -/
def ApiStatus.text (status : ApiStatus) : String :=
  "ApiError: " ++ status.message ++ ": " ++ status.reason ++ " (ErrorResponse \x7b status: " ++
    Quoted.quote status.status ++ ", message: " ++ Quoted.quote status.message ++ ", reason: " ++
    Quoted.quote status.reason ++ ", code: " ++ Nat.repr status.code ++ " \x7d)"

/-- Why serving must not go on. -/
inductive TerminalCause where
  | neverMounted
  | neverInjected
  | other (text : String)
deriving DecidableEq, Repr

/-- The cause in words. -/
def TerminalCause.message : TerminalCause → String
  | .neverMounted => "could not mount certs"
  | .neverInjected => "could not inject certs to webhooks"
  | .other text => text

/-- What went wrong inside. -/
inductive InternalCause where
  /-- A Secret without namespace or name cannot be kept. -/
  | unplacedSecret
  | secretExists (key : SecretKey)
  | secretNotFound (key : SecretKey)
  | readFailure (consumer : Consumer)
  | consumerNotFound (consumer : Consumer)
  /-- A required setting is blank. -/
  | emptySetting (setting : String)
  | zeroCheckPeriod
  /-- A task for making a certificate did not come to an end. -/
  | taskFailed (task : String)
  | other (context message : String)
deriving DecidableEq, Repr

namespace InternalCause

/-- The context of a cause that gives none. -/
def unknownContext : String := "unknown"

/-- Where it went wrong. -/
def context : InternalCause → String
  | .unplacedSecret | .secretExists _ | .secretNotFound _ | .readFailure _ | .consumerNotFound _ =>
    "memory-store"
  | .emptySetting _ | .zeroCheckPeriod => "config"
  | .taskFailed _ => "rotator"
  | .other context _ => context

/-- The cause in words. -/
def message : InternalCause → String
  | .unplacedSecret => "secret has no namespace/name"
  | .secretExists key => "secret " ++ key.text ++ " already exists"
  | .secretNotFound key => "secret " ++ key.text ++ " not found"
  | .readFailure consumer => "injected read failure for " ++ consumer.text
  | .consumerNotFound consumer => consumer.text ++ " not found"
  | .emptySetting setting => setting ++ " must not be empty"
  | .zeroCheckPeriod => "rotation check period must be positive"
  | .taskFailed task => task ++ " task failed"
  | .other _ message => message

end InternalCause

/-- An error. -/
inductive Error where
  /-- The API server refused the request. -/
  | api (status : ApiStatus)
  /-- The API server's answer makes no sense. -/
  | unreadableReply
  /-- The request did not get through. -/
  | transport (text : String)
  /-- There is no such request. -/
  | request (text : String)
  | pki (cause : PkiError)
  /-- A consumer cannot take the bundle. -/
  | injection (kindName name : String) (fault : Injection.Fault)
  | terminal (cause : TerminalCause)
  | internal (cause : InternalCause)
deriving DecidableEq, Repr

namespace Error

/-- The error in words. -/
def message : Error → String
  | .api status => "kubernetes error: " ++ status.text
  | .unreadableReply => "kubernetes error: Error deserializing response"
  | .transport text => "kubernetes error: ServiceError: " ++ text
  | .request text => "kubernetes error: " ++ text
  | .pki cause => "pki error: " ++ cause.message
  | .injection kindName name fault =>
    "injection error for " ++ kindName ++ " " ++ name ++ ": " ++ fault.message
  | .terminal cause => "terminal error: " ++ cause.message
  | .internal cause => "internal error [" ++ cause.context ++ "]: " ++ cause.message

/-- Does the error say that an object is not there? -/
def isNotFound : Error → Bool
  | .api status => status.code = 404
  | _ => false

/-- Can trying again help? Even a malformed resource may be mended by another writer. -/
def isRetryable : Error → Bool
  | .terminal _ => false
  | _ => true

end Error

end WebhookTrust
