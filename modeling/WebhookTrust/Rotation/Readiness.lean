import WebhookTrust.Config
import WebhookTrust.Procedure.Basic

/-!
# Finding out whether everything is in place

Two tasks run beside the control loop. One waits for the serving certificate to be mounted
(`Readiness.ensureMounted`); the other waits for that, and then for the authority to be injected
(`Readiness.ensureInjected`). Each fires one of two signals, for success or for having waited in
vain.

The second one also sets the gauge, just before it fires. If the certificate is never mounted it
waits for ever; the control loop ends with the first signal of failure, and both tasks end with it.
-/

namespace WebhookTrust.Readiness

open Procedure

/-- Waits for the certificate file. -/
def ensureMounted (config : Config) : Procedure Unit := do
  let path := ("path", LogValue.text config.certFile)
  if ← config.readinessBackoff.poll "certs_mounted" (perform (.fileExists config.certFile)) then
    log .info "certs are mounted" [path]
    perform (.fire .mounted)
  else
    log .error "max retries for checking certs existence" [path]
    perform (.fire .unmountable)

/-- Waits for the mount and then for the injection. -/
def ensureInjected (config : Config) : Procedure Unit := do
  perform (.await .mounted)
  if ← config.readinessBackoff.poll "ca_injected" (perform .isInjected) then
    log .info "CA certs are injected to webhooks" []
    perform (.record (.ready true))
    perform (.fire .ready)
  else
    log .error "max retries for checking CA injection" []
    perform (.fire .injectionFailed)

end WebhookTrust.Readiness
