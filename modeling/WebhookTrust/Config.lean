import WebhookTrust.Backoff
import WebhookTrust.Error
import WebhookTrust.Text.Splitting

/-!
# Configuration

Where the certificates are kept, for which names they are made, who has to trust them, and how often
and how far ahead they are checked.

* `Config.new`: a configuration with standard times: checks every twelve hours, and the lookahead
  and the two profiles of pauses that their modules call standard;
* `Config.validate`: what is refused, which is blank names and a period of zero. There are other
  configurations under which no certificate is ever of use, as with a DNS name that no certificate
  can have; which they are is shown in `WebhookTrust.Proofs.Bootstrap`.

Times are numbers of nanoseconds, but for the lookahead, which may be negative and is told in whole
seconds and nanoseconds of the same sign.
-/

namespace WebhookTrust

/-- A configuration. -/
structure Config where
  /-- Where the Secret lives. -/
  secretKey : SecretKey
  /-- The directory that the Secret is mounted into. -/
  certDir : String
  /-- The name of the authority, which is also its DNS name. -/
  caName : String
  caOrganization : String
  /-- The DNS name of the serving certificate. -/
  dnsName : String
  consumers : List Consumer
  /-- Does every change of the Secret end the process, to be started anew with fresh mounts? -/
  restartOnRefresh : Bool
  /-- The nanoseconds between checks. -/
  checkPeriod : Nat
  /-- How far ahead certificates have to stay valid, in whole seconds. -/
  lookahead : Int
  /-- How many nanoseconds further ahead, of the same sign and less than a second. -/
  lookaheadNanos : Int
  refreshBackoff : Backoff
  readinessBackoff : Backoff
deriving DecidableEq, Repr

namespace Config

/-- The period of checks unless configured otherwise: twelve hours. -/
def standardCheckPeriod : Nat := 12 * 60 * 60 * Backoff.second

/-- A configuration with standard times and without consumers. -/
def new (secretKey : SecretKey) (certDir caName caOrganization dnsName : String) : Config where
  secretKey := secretKey
  certDir := certDir
  caName := caName
  caOrganization := caOrganization
  dnsName := dnsName
  consumers := []
  restartOnRefresh := false
  checkPeriod := standardCheckPeriod
  lookahead := Issuance.standardLookahead
  lookaheadNanos := 0
  refreshBackoff := .refresh
  readinessBackoff := .readiness

/-- The configuration with further consumers. -/
def withConsumers (config : Config) (consumers : List Consumer) : Config :=
  { config with consumers := config.consumers ++ consumers }

/-- The path of the mounted serving certificate. -/
def certFile (config : Config) : String :=
  if config.certDir = "" then Secret.serverCert
  else if config.certDir.toList.getLast? = some '/' then config.certDir ++ Secret.serverCert
  else config.certDir ++ "/" ++ Secret.serverCert

/-- The settings that must not be blank, in the order in which they are looked at. -/
def required (config : Config) : List (String × String) := [
  ("secret namespace", config.secretKey.nameSpace), ("secret name", config.secretKey.name),
  ("CA name", config.caName), ("CA organization", config.caOrganization),
  ("DNS name", config.dnsName)]

/-- Is the text blank? -/
def isBlankText (text : String) : Bool := text.toList.all isBlank

/-- Refuses configurations under which there can be no usable certificate. -/
def validate (config : Config) : Except Error Unit :=
  match config.required.find? (isBlankText ·.2) with
  | some (setting, _) => .error (.internal (.emptySetting setting))
  | none =>
    if config.checkPeriod = 0 then .error (.internal .zeroCheckPeriod) else .ok ()

end Config

end WebhookTrust
