import WebhookTrust.Error

/-!
# Calls to the store

The objects of a cluster are kept in a store. Five calls are ever made to it: a Secret is read,
created or replaced, a consumer is read or replaced; nothing is deleted. What a store is, is how it
answers these calls: `WebhookTrust.Store.Memory` answers them in memory, and
`WebhookTrust.Store.ApiClient` by requests to the API server.

An object is written to the place that it says it lives in, which is part of its metadata. A read
that finds nothing succeeds, so a failed read is never taken for a missing object.
-/

namespace WebhookTrust

/-- A call to the store. -/
inductive StoreCall where
  | getSecret (key : SecretKey)
  | createSecret (secret : Secret)
  | replaceSecret (secret : Secret)
  | getConsumer (consumer : Consumer)
  | replaceConsumer (consumer : Consumer) (object : ConsumerObject)
deriving DecidableEq, Repr

namespace StoreCall

/-- What a call that succeeds gives: the object that is read, if there is one. -/
def Result : StoreCall → Type
  | .getSecret _ => Option Secret
  | .getConsumer _ => Option ConsumerObject
  | .createSecret _ | .replaceSecret _ | .replaceConsumer .. => Unit

/-- What a call gives. -/
abbrev Reply (call : StoreCall) : Type := Except Error call.Result

/-! ### In words -/

/-- What the call does. -/
def verb : StoreCall → String
  | .getSecret _ => "get_secret"
  | .createSecret _ => "create_secret"
  | .replaceSecret _ => "replace_secret"
  | .getConsumer _ => "get_consumer"
  | .replaceConsumer .. => "replace_consumer"

/-- Where a Secret says that it lives, with a dash for what it does not say. -/
def placeOf (secret : Secret) : String :=
  secret.metadata.nameSpace.getD "-" ++ "/" ++ secret.metadata.name.getD "-"

/-- What the call is about. -/
def target : StoreCall → String
  | .getSecret key => key.text
  | .createSecret secret | .replaceSecret secret => placeOf secret
  | .getConsumer consumer | .replaceConsumer consumer _ => consumer.text

/-- The call in words. -/
def text (call : StoreCall) : String := call.verb ++ " " ++ call.target

end StoreCall

end WebhookTrust
