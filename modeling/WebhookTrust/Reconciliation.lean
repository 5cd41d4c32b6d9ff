import WebhookTrust.Config
import WebhookTrust.Procedure.Basic

/-!
# Passes over the consumers

A pass copies the authority of the Secret into every declared consumer. A consumer that fails does
not keep the others from being tried; the pass as a whole then fails with the last of the errors, so
that it is made again. A Secret that is missing, being deleted or malformed is no failure: there is
nothing to copy yet.

* `Reconciler.ensure`: one consumer is read, injected into and written back; one that is missing or
  being deleted is left alone;
* `Reconciler.ensureAll`: all declared consumers, one after the other, in the order of their
  declarations and as often as they are declared;
* `Reconciler.reconcile`: a pass, which is counted when it ends. The flag that the authority was
  injected is set by a pass that copied it without an error, and by nothing else.

A consumer is written back also if it held the bundle before; a store that can tell makes no new
version of it. Nothing is tried again within a pass: what was overtaken by another writer fails, and
the next pass comes later (`WebhookTrust.Controller.Watch`).
-/

namespace WebhookTrust

/-- What keeps the consumers of an authority up to date. -/
structure Reconciler where
  secretKey : SecretKey
  consumers : List Consumer
deriving DecidableEq, Repr

namespace Reconciler

open Procedure

/-- The reconciler of a configuration. -/
def ofConfig (config : Config) : Reconciler := ⟨config.secretKey, config.consumers⟩

/-! ### Single consumers -/

/-- The fields that say which consumer an event is about. -/
def fieldsOf (consumer : Consumer) : List (String × LogValue) :=
  [("kind", .text consumer.kind.kindName), ("name", .text consumer.name)]

/-- The error of an object that cannot take the bundle. -/
def injectionError (kind : ConsumerKind) (object : ConsumerObject) (fault : Injection.Fault) :
    Error :=
  .injection kind.kindName object.metadata.displayName fault

/-- Injects the bundle into the object of a consumer and writes it back. -/
def update (consumer : Consumer) (caPem : Bytes) (object : ConsumerObject) :
    Procedure (Except Error Unit) := do
  log .debug "ensuring CA cert" (fieldsOf consumer)
  match Injection.inject consumer.kind caPem object with
  | (_, .error fault) => return .error (injectionError consumer.kind object fault)
  | (injected, .ok ()) => call (.replaceConsumer consumer injected)

/-- Brings a consumer up to date. One that is missing or being deleted is left alone. -/
def ensure (caPem : Bytes) (consumer : Consumer) : Procedure (Except Error Unit) :=
  (call (.getConsumer consumer)).andThen fun
    | none => do
      log .warn "webhook not found, unable to update certificate" (fieldsOf consumer)
      return .ok ()
    | some object => do
      if object.metadata.isDeleting then
        log .info "webhook is being deleted, unable to update certificate" (fieldsOf consumer)
        return .ok ()
      else update consumer caPem object

/-! ### All consumers -/

/-- Brings consumers up to date, one after the other, with the last error so far. -/
def ensureFrom (caPem : Bytes) : List Consumer → Option Error → Procedure (Except Error Unit)
  | [], none => return .ok ()
  | [], some e => return .error e
  | consumer :: rest, lastError => do
    match ← ensure caPem consumer with
    | .ok () => ensureFrom caPem rest lastError
    | .error e =>
      log .error "unable to update CA bundle" (fieldsOf consumer ++ [("error", .text e.message)])
      ensureFrom caPem rest (some e)

/-- Brings all declared consumers up to date. -/
def ensureAll (reconciler : Reconciler) (caPem : Bytes) : Procedure (Except Error Unit) :=
  ensureFrom caPem reconciler.consumers none

/-! ### Passes -/

/-- Copies the authority of a Secret into the consumers, if there is anything to copy. -/
def propagate (reconciler : Reconciler) (secret : Secret) : Procedure (Except Error Unit) := do
  let key := ("secret", LogValue.text reconciler.secretKey.text)
  if secret.metadata.isDeleting then
    log .debug "secret is being deleted, skipping" [key]
    return .ok ()
  else
    match secret.authority with
    | .error cause =>
      log .error "secret is not well-formed, cannot update webhook configurations"
        [key, ("error", .text cause.message)]
      return .ok ()
    | .ok ca =>
      (reconciler.ensureAll ca.certPem).andThen fun () ↦ do
        perform .setInjected
        return .ok ()

theorem propagate_of_loaded (reconciler : Reconciler) {secret : Secret} {ca : KeyPair}
    (hlive : secret.metadata.isDeleting = false) (hload : secret.authority = .ok ca) :
    reconciler.propagate secret = (reconciler.ensureAll ca.certPem).andThen fun () ↦
      (perform .setInjected).bind fun _ ↦ .pure (.ok ()) := by
  rw [propagate, hlive, hload]
  rfl

/-- Either the authority of a Secret is copied, or the Secret is of no use, which is noted in the
log, and that is all. -/
theorem propagate_cases (reconciler : Reconciler) (secret : Secret) :
    ((secret.metadata.isDeleting = true ∨ ∃ cause, secret.authority = .error cause) ∧
      ∃ level message fields, reconciler.propagate secret =
        (log level message fields).bind fun _ ↦ .pure (.ok ())) ∨
    ∃ ca, secret.metadata.isDeleting = false ∧ secret.authority = .ok ca ∧
      reconciler.propagate secret = (reconciler.ensureAll ca.certPem).andThen fun () ↦
        (perform .setInjected).bind fun _ ↦ .pure (.ok ()) := by
  cases hdeleting : secret.metadata.isDeleting with
  | true => exact .inl ⟨.inl rfl, _, _, _, by rw [propagate, hdeleting]; rfl⟩
  | false =>
    cases hload : secret.authority with
    | error cause =>
      exact .inl ⟨.inr ⟨cause, rfl⟩, _, _, _, by rw [propagate, hdeleting, hload]; rfl⟩
    | ok ca => exact .inr ⟨ca, rfl, rfl, reconciler.propagate_of_loaded hdeleting hload⟩

/-- A pass that is not counted. -/
def pass (reconciler : Reconciler) : Procedure (Except Error Unit) :=
  (call (.getSecret reconciler.secretKey)).andThen fun
    | none => do
      log .debug "secret not found, nothing to inject"
        [("secret", .text reconciler.secretKey.text)]
      return .ok ()
    | some secret => reconciler.propagate secret

/-- A pass. -/
def reconcile (reconciler : Reconciler) : Procedure (Except Error Unit) := do
  let result ← reconciler.pass
  perform (.record (.reconciliation result.isOk))
  return result

end Reconciler

end WebhookTrust
