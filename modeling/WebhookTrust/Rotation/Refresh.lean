import WebhookTrust.Config
import WebhookTrust.Pki.Validation
import WebhookTrust.Procedure.Basic

/-!
# Checking and replacing the certificates

A check reads the Secret and asks of both certificates whether they will still pass some time ahead.
An authority that will not is replaced, and the serving certificate with it; a serving certificate
that will not is replaced alone, signed by the authority that is there. Whatever is replaced, all
four entries are written at once.

* `Rotator.assess`: what a check has to do about a Secret. It looks at no certificate but by
  validation, so whatever is malformed does not pass, and is replaced;
* `Rotator.rotate`: an authority is made or loaded, a serving certificate is made, and the Secret is
  written. If any of these fails, nothing was written and the check fails;
* `Rotator.refreshOnce`: one check. The clock is read once to look ahead, and once more for each
  certificate that is made;
* `Rotator.refresh`: a check that is tried again if it fails, with a hook that is told of what the
  last attempt did, if that wrote the Secret.

How signatures are made and verified is a parameter (`Rotator.scheme`), and so is the hook. A stored
authority that passes may still be one that cannot issue; then every check fails, and it is not
replaced (`WebhookTrust.Proofs.Healing`).
-/

namespace WebhookTrust

/-- What is done after the Secret was written. -/
abbrev RotationHook : Type := RotationOutcome → Procedure Unit

/-- What keeps the certificates of a configuration valid. -/
structure Rotator where
  config : Config
  scheme : SignatureScheme
  hook : RotationHook

namespace RotationHook

/-- Does nothing. -/
def silent : RotationHook := fun _ ↦ return

/-- Tells whoever listens. -/
def reporting : RotationHook := fun outcome ↦ Procedure.perform (.notify outcome)

/-- Ends the process, to be started anew with the new certificates mounted: mounts can lag behind by
a minute or more. -/
def exiting : RotationHook := fun outcome ↦ do
  Procedure.log .info "certificates updated; exiting so the pod restarts with the new mount"
    [("outcome", .text outcome.text)]
  .stop .exited

/-- The hook that a configuration asks for. -/
def ofConfig (config : Config) : RotationHook :=
  if config.restartOnRefresh then exiting else silent

end RotationHook

namespace Rotator

open Procedure

/-! ### Looking -/

/-- Does the certificate pass validation? A failure is logged with its reason. -/
def passes (scheme : SignatureScheme) (caPem certPem keyPem : Bytes) (dnsName : String)
    (instant : Instant) : Procedure Bool := do
  match Validation.check scheme caPem certPem keyPem dnsName instant with
  | .ok () => return true
  | .error fault =>
    log .debug "certificate failed validation"
      [("dns_name", .text dnsName), ("reason", .text (PkiError.parse fault).message)]
    return false

/-- Does the authority of a Secret pass, checked against itself? -/
def authorityPasses (rotator : Rotator) (secret : Secret) (instant : Instant) : Procedure Bool :=
  passes rotator.scheme (secret.lookup Secret.caCert) (secret.lookup Secret.caCert)
    (secret.lookup Secret.caKey) rotator.config.caName instant

/-- Does the serving certificate of a Secret pass under its authority? -/
def leafPasses (rotator : Rotator) (secret : Secret) (instant : Instant) : Procedure Bool :=
  passes rotator.scheme (secret.lookup Secret.caCert) (secret.lookup Secret.serverCert)
    (secret.lookup Secret.serverKey) rotator.config.dnsName instant

/-- What a check has to do about a Secret. -/
def assess (rotator : Rotator) (secret : Secret) (instant : Instant) :
    Procedure RotationOutcome := do
  if ← rotator.authorityPasses secret instant then
    if ← rotator.leafPasses secret instant then return .unchanged else return .rotatedLeaf
  else return .rotatedCa

/-! ### Making -/

/-- The error of a certificate that could not be made. A year that cannot be written down ends the
task that makes the certificate. -/
def issueError (task : String) : PkiError → Error
  | .certificateCreation .year => .internal (.taskFailed task)
  | cause => .pki cause

/-- Makes an authority, with a new key if its name is one that a certificate can have. -/
def makeAuthority (rotator : Rotator) : Procedure (Except Error KeyPair) := do
  let config := rotator.config
  let window := Window.standard (← perform .now)
  match Issuance.ensureDnsName config.caName with
  | .error cause => return .error (.pki cause)
  | .ok () =>
    let made := Issuance.authority rotator.scheme config.caName config.caOrganization window
      (← perform .newKey)
    return made.mapError (issueError "CA generation")

/-- Makes a serving certificate, with a new key if its name is one that a certificate can have. -/
def makeLeaf (rotator : Rotator) (ca : KeyPair) : Procedure (Except Error PemPair) := do
  let config := rotator.config
  let window := Window.standard (← perform .now)
  match Issuance.ensureDnsName config.dnsName with
  | .error cause => return .error (.pki cause)
  | .ok () =>
    let made := Issuance.leaf rotator.scheme config.dnsName ca window (← perform .newKey)
    return made.mapError (issueError "leaf generation")

/-- The authority to go on with: a new one, or the one of the Secret. -/
def obtainAuthority (rotator : Rotator) (outcome : RotationOutcome) (secret : Secret) :
    Procedure (Except Error KeyPair) := do
  let key := LogValue.text rotator.config.secretKey.text
  if outcome = .rotatedCa then
    log .info "refreshing CA and server certs" [("secret", key)]
    rotator.makeAuthority
  else
    log .info "refreshing server certs" [("secret", key)]
    return secret.authority.mapError .pki

/-! ### Writing -/

/-- Writes a Secret that was there before, or one that was not. -/
def write (existed : Bool) (secret : Secret) : Procedure (Except Error Unit) :=
  if existed then call (.replaceSecret secret) else call (.createSecret secret)

/-- What a rotation replaced. -/
def scopeOf : RotationOutcome → RotationScope
  | .rotatedCa => .ca
  | .unchanged | .rotatedLeaf => .leaf

/-- Replaces what has to be replaced in a Secret, and writes it. -/
def rotate (rotator : Rotator) (outcome : RotationOutcome) (existed : Bool) (secret : Secret) :
    Procedure (Except Error RotationOutcome) :=
  (rotator.obtainAuthority outcome secret).andThen fun ca ↦
  (rotator.makeLeaf ca).andThen fun leaf ↦
  (write existed (secret.withCertificates ca leaf)).andThen fun () ↦ do
    perform (.record (.rotation (scopeOf outcome)))
    log .info "server certs refreshed"
      [("secret", .text rotator.config.secretKey.text), ("outcome", .text outcome.text)]
    return .ok outcome

/-! ### Checks -/

/-- The Secret that was found, or a new one. -/
def foundOrNew (rotator : Rotator) : Option Secret → Procedure Secret
  | some secret => return secret
  | none => do
    let key := rotator.config.secretKey
    log .info "secret not found, creating" [("secret", .text key.text)]
    return .new key

/-- The instant that a check at a time looks at, if there is one. -/
def horizon? (rotator : Rotator) (now : Instant) : Option Instant :=
  Validation.lookaheadInstant? now rotator.config.lookahead rotator.config.lookaheadNanos

/-- One check, without trying again. -/
def refreshOnce (rotator : Rotator) : Procedure (Except Error RotationOutcome) :=
  let config := rotator.config
  (call (.getSecret config.secretKey)).andThen fun found ↦ do
    let secret ← rotator.foundOrNew found
    match rotator.horizon? (← perform .now) with
    | none => .stop .crashed
    | some instant =>
      match ← rotator.assess secret instant with
      | .unchanged =>
        log .debug "no cert refresh needed" [("secret", .text config.secretKey.text)]
        return .ok .unchanged
      | outcome => rotator.rotate outcome found.isSome secret

/-- A check that is tried again if it fails, and then the hook if the Secret was written. -/
def refresh (rotator : Rotator) : Procedure (Except Error RotationOutcome) :=
  (rotator.config.refreshBackoff.retry "refresh_certs" Error.message
    rotator.refreshOnce).andThen fun outcome ↦ do
    if outcome.wroteSecret then rotator.hook outcome
    return .ok outcome

end Rotator

end WebhookTrust
