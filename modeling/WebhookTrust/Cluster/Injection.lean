import WebhookTrust.Cluster.Consumer
import WebhookTrust.Encoding.Base64

/-!
# Injecting the trust bundle

A consumer trusts the bundle in its client configurations: an admission configuration has one in
each of its webhooks, a resource definition one in its conversion. Injection sets the bundle there
and changes nothing else; a client configuration that is missing is created empty first.

Injection into webhooks goes from the first to the last and stops at one that is malformed, so an
object may be changed in part; the fault says where.
-/

namespace WebhookTrust.Injection

/-- Why a bundle cannot be injected. -/
inductive Fault where
  | noWebhooks
  | malformedWebhook (index : Nat)
  | malformedClientConfig (index : Nat)
  | noConversion
  | noConversionClient
  | malformedConversionClient
  | other (text : String)
deriving DecidableEq, Repr

/-- The fault in words. -/
def Fault.message : Fault → String
  | .noWebhooks => "\x60webhooks\x60 field not found"
  | .malformedWebhook index => "webhook " ++ Nat.repr index ++ " is not well-formed"
  | .malformedClientConfig index => "webhook " ++ Nat.repr index ++ " has a malformed clientConfig"
  | .noConversion => "\x60spec.conversion\x60 field not found"
  | .noConversionClient => "conversion webhook client config not found"
  | .malformedConversionClient => "conversion webhook client config is not well-formed"
  | .other text => text

/-! ### Client configurations -/

/-- The members of an object with the bundle set. -/
def setBundle (bundle : Json) (config : List (String × Json)) : List (String × Json) :=
  Assoc.put "caBundle" bundle config

/-- The members of an object with the bundle set in its client configuration, which is created if it
is missing; none if it is no object. -/
def setClientBundle? (bundle : Json) (parent : List (String × Json)) :
    Option (List (String × Json)) :=
  match Assoc.get? "clientConfig" parent with
  | none => some (Assoc.put "clientConfig" (.object (setBundle bundle [])) parent)
  | some (.object config) =>
    some (Assoc.put "clientConfig" (.object (setBundle bundle config)) parent)
  | some _ => none

/-! ### Admission configurations -/

/-- Injects into the webhooks from the one at `index` on. -/
def injectWebhooks (bundle : Json) (index : Nat) : List Json → List Json × Except Fault Unit
  | [] => ([], .ok ())
  | webhook :: rest =>
    match webhook with
    | .object members =>
      match setClientBundle? bundle members with
      | none => (webhook :: rest, .error (.malformedClientConfig index))
      | some members =>
        let (rest, result) := injectWebhooks bundle (index + 1) rest
        (.object members :: rest, result)
    | _ => (webhook :: rest, .error (.malformedWebhook index))

/-- Injects into the data of an admission configuration. -/
def injectAdmission (bundle data : Json) : Json × Except Fault Unit :=
  match data.get? "webhooks" with
  | some (.array webhooks) =>
    let (webhooks, result) := injectWebhooks bundle 0 webhooks
    (data.put "webhooks" (.array webhooks), result)
  | _ => (data, .error .noWebhooks)

/-! ### Resource definitions -/

/-- Injects into the members of a conversion. The client configuration stands under the webhook, or
in older objects beside it; the former counts if it is there. -/
def injectConversion (bundle : Json) (conversion : List (String × Json)) :
    Except Fault (List (String × Json)) :=
  match Assoc.get? "webhook" conversion with
  | some (.object webhook) =>
    match setClientBundle? bundle webhook with
    | some webhook => .ok (Assoc.put "webhook" (.object webhook) conversion)
    | none => .error .malformedConversionClient
  | some _ => .error .malformedConversionClient
  | none =>
    match Assoc.get? "webhookClientConfig" conversion with
    | some (.object config) =>
      .ok (Assoc.put "webhookClientConfig" (.object (setBundle bundle config)) conversion)
    | some _ => .error .malformedConversionClient
    | none => .error .noConversionClient

/-- Injects into the data of a resource definition. -/
def injectDefinition (bundle data : Json) : Json × Except Fault Unit :=
  match data.get? "spec" with
  | some spec =>
    match spec.get? "conversion" with
    | some (.object conversion) =>
      match injectConversion bundle conversion with
      | .ok conversion =>
        (data.put "spec" (spec.put "conversion" (.object conversion)), .ok ())
      | .error fault => (data, .error fault)
    | _ => (data, .error .noConversion)
  | none => (data, .error .noConversion)

/-! ### Objects -/

/-- The bundle of an authority: the encoded PEM certificate. -/
def bundleOf (caPem : Bytes) : Json := .string (Base64.encodeString caPem)

/-- Injects into the data of an object of the kind. -/
def injectData (kind : ConsumerKind) (bundle data : Json) : Json × Except Fault Unit :=
  match kind with
  | .validating | .mutating => injectAdmission bundle data
  | .crdConversion => injectDefinition bundle data

/-- Injects the authority's bundle into an object of the kind. The object is handed back with a
fault too, since it may have been changed in part. -/
def inject (kind : ConsumerKind) (caPem : Bytes) (object : ConsumerObject) :
    ConsumerObject × Except Fault Unit :=
  let (data, result) := injectData kind (bundleOf caPem) object.data
  ({ object with data }, result)

end WebhookTrust.Injection
